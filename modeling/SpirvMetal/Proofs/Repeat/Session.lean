import Mathlib.Data.String.Basic
import SpirvMetal.Proofs.Emit.Frame

/-!
The order of what a session holds. Its sets ascend strictly, so that adding what they hold already
leaves them as they are.
-/

namespace SpirvMetal

/-- The sets of a session ascend strictly. -/
structure Session.Ordered (session : Session) : Prop where
  pragmas : session.pragmas.Pairwise (· < ·)
  headers : session.headers.Pairwise (· < ·)
  typedefs : session.typedefs.Pairwise (· < ·)
  helpers : session.helpers.Pairwise (Helper.before · · = true)

/-- An addition that keeps the order, and adds nothing if it finds nothing new. -/
structure Session.KeepsOrder (add : Session → Bool × Session) : Prop where
  ordered : ∀ session : Session, session.Ordered → (add session).2.Ordered
  known : ∀ session : Session, session.Ordered → (add session).1 = false → (add session).2 = session

structure IsStrictOrder {α : Type} (before : α → α → Bool) : Prop where
  asymmetric : ∀ x y, before x y = true → before y x = false
  total : ∀ x y, x ≠ y → before x y = false → before y x = true
  transitive : ∀ x y z, before x y = true → before y z = true → before x z = true

namespace IsStrictOrder

variable {α : Type} [DecidableEq α] {before : α → α → Bool} {list : List α}

section

variable (order : IsStrictOrder before)

include order

theorem insertAscending_of_mem {x : α}
    (ascending : list.Pairwise (before · · = true)) (member : x ∈ list) :
    insertAscending before x list = list := by
  induction list with
  | nil => cases member
  | cons y rest ih =>
    rw [List.pairwise_cons] at ascending
    simp only [insertAscending]
    split
    · rfl
    · rename_i differ
      have later : x ∈ rest := (List.mem_cons.mp member).resolve_left differ
      rw [order.asymmetric y x (ascending.1 x later), ih ascending.2 later]
      rfl

theorem pairwise_insertAscending (x : α) (ascending : list.Pairwise (before · · = true)) :
    (insertAscending before x list).Pairwise (before · · = true) := by
  induction list with
  | nil => simp [insertAscending]
  | cons y rest ih =>
    have parts := List.pairwise_cons.mp ascending
    simp only [insertAscending]
    split
    · exact ascending
    · rename_i differ
      split
      · rename_i first
        refine List.pairwise_cons.mpr ⟨fun z member => ?_, ascending⟩
        rcases List.mem_cons.mp member with rfl | member
        · exact first
        · exact order.transitive x y z first (parts.1 z member)
      · rename_i later
        refine List.pairwise_cons.mpr ⟨fun z member => ?_, ih parts.2⟩
        rcases mem_insertAscending.mp member with rfl | member
        · exact order.total _ _ differ (by simpa using later)
        · exact parts.1 z member

theorem pairwise_foldl (news : List α) (ascending : list.Pairwise (before · · = true)) :
    (news.foldl (fun list x => insertAscending before x list) list).Pairwise
      (before · · = true) := by
  induction news generalizing list with
  | nil => exact ascending
  | cons x rest ih => exact ih (order.pairwise_insertAscending x ascending)

theorem foldl_of_subset {news : List α}
    (ascending : list.Pairwise (before · · = true)) (known : news ⊆ list) :
    news.foldl (fun list x => insertAscending before x list) list = list := by
  induction news with
  | nil => rfl
  | cons x rest ih =>
    rw [List.foldl_cons, order.insertAscending_of_mem ascending (known (by simp))]
    exact ih fun y member => known (by simp [member])

end

theorem string : IsStrictOrder fun a b : String => decide (a < b) where
  asymmetric x y first := by
    simp only [decide_eq_true_eq, decide_eq_false_iff_not] at *
    exact lt_asymm first
  total x y differ late := by
    simp only [decide_eq_true_eq, decide_eq_false_iff_not] at *
    exact lt_of_le_of_ne (not_lt.mp late) (Ne.symm differ)
  transitive x y z first second := by
    simp only [decide_eq_true_eq] at *
    exact lt_trans first second

theorem before_iff {x y : Helper} :
    x.before y = true ↔ x.place < y.place ∨ x.place = y.place ∧ x.depth < y.depth := by
  simp [Helper.before]

/-- Helpers of one place in the catalogue are copies of arrays, which differ in their depth. -/
theorem helper : IsStrictOrder Helper.before where
  asymmetric x y first := by
    rw [before_iff] at first
    rw [← Bool.not_eq_true, before_iff]
    omega
  total x y differ late := by
    have rank : x.place ≠ y.place ∨ x.depth ≠ y.depth := by
      by_contra same
      rw [not_or, not_not, not_not] at same
      exact differ (by cases x <;> cases y <;> simp_all [Helper.place, Helper.depth])
    rw [← Bool.not_eq_true, before_iff] at late
    rw [before_iff]
    omega
  transitive x y z first second := by
    rw [before_iff] at *
    omega

end IsStrictOrder

namespace Session

theorem addLine_ordered (line : String) {lines : List String} (ordered : lines.Pairwise (· < ·)) :
    (addLine line lines).2.Pairwise (· < ·) := by
  have ascending : lines.Pairwise (fun a b => decide (a < b) = true) := by simpa using ordered
  simpa [addLine] using IsStrictOrder.string.pairwise_insertAscending line ascending

theorem addLine_same {line : String} {lines : List String} (ordered : lines.Pairwise (· < ·))
    (known : (addLine line lines).1 = false) : (addLine line lines).2 = lines := by
  have ascending : lines.Pairwise (fun a b => decide (a < b) = true) := by simpa using ordered
  exact IsStrictOrder.string.insertAscending_of_mem ascending (by simpa [addLine] using known)

theorem keepsOrder_pragma (line : String) : KeepsOrder (·.addPragma line) where
  ordered session ordered := { ordered with pragmas := addLine_ordered line ordered.pragmas }
  known session ordered known := by
    simp only [addPragma, addLine_same ordered.pragmas known]

theorem keepsOrder_header (line : String) : KeepsOrder (·.addHeader line) where
  ordered session ordered := { ordered with headers := addLine_ordered line ordered.headers }
  known session ordered known := by
    simp only [addHeader, addLine_same ordered.headers known]

theorem keepsOrder_typedef (line : String) : KeepsOrder (·.addTypedef line) where
  ordered session ordered := { ordered with typedefs := addLine_ordered line ordered.typedefs }
  known session ordered known := by
    simp only [addTypedef, addLine_same ordered.typedefs known]

theorem keepsOrder_helper (helper : Helper) : KeepsOrder (·.addHelper helper) where
  ordered session ordered :=
    { ordered with helpers := IsStrictOrder.helper.pairwise_foldl _ ordered.helpers }
  known session ordered known := by
    have within := ((adds_helper helper).known session).mp known
    simp only [addHelper, IsStrictOrder.helper.foldl_of_subset ordered.helpers within.helpers]

end Session

end SpirvMetal
