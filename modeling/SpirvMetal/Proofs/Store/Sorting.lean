import SpirvMetal.Store.Ascending

/-!
Sorting keeps the elements of a list, puts them in order, and moves nothing past an element of equal
rank.
-/

namespace SpirvMetal

variable {α : Type} {before : α → α → Bool} {x y : α} {list : List α}

theorem insertBy_perm (before : α → α → Bool) (x : α) (list : List α) :
    (insertBy before x list).Perm (x :: list) := by
  induction list with
  | nil => exact .refl [x]
  | cons y rest ih =>
    unfold insertBy
    split
    · exact .refl _
    · exact (ih.cons y).trans (.swap x y rest)

theorem sortBy_perm (before : α → α → Bool) (list : List α) : (sortBy before list).Perm list := by
  induction list with
  | nil => exact .refl []
  | cons first rest ih => exact (insertBy_perm before first _).trans (ih.cons first)

theorem mem_insertBy : y ∈ insertBy before x list ↔ y = x ∨ y ∈ list := by
  rw [(insertBy_perm before x list).mem_iff, List.mem_cons]

theorem mem_sortBy : x ∈ sortBy before list ↔ x ∈ list := (sortBy_perm before list).mem_iff

theorem nodup_sortBy (distinct : list.Nodup) : (sortBy before list).Nodup :=
  (sortBy_perm before list).nodup_iff.mpr distinct

theorem sortBy_of_pairwise (sorted : list.Pairwise fun x y => before x y = true) :
    sortBy before list = list := by
  induction list with
  | nil => rfl
  | cons first rest ih =>
    obtain ⟨ahead, sorted⟩ := List.pairwise_cons.mp sorted
    have same : rest.foldr (insertBy before) [] = rest := ih sorted
    rw [sortBy, List.foldr_cons, same]
    cases rest with
    | nil => rfl
    | cons next others => simp [insertBy, ahead next]

theorem pairwise_sortBy (total : ∀ x y, before x y = true ∨ before y x = true)
    (trans : ∀ x y z, before x y = true → before y z = true → before x z = true)
    (list : List α) : (sortBy before list).Pairwise fun x y => before x y = true := by
  have inserted (x : α) {list : List α} (sorted : list.Pairwise fun x y => before x y = true) :
      (insertBy before x list).Pairwise fun x y => before x y = true := by
    induction list with
    | nil => simp [insertBy]
    | cons y rest ih =>
      obtain ⟨ahead, later⟩ := List.pairwise_cons.mp sorted
      unfold insertBy
      split
      · rename_i first
        refine List.pairwise_cons.mpr ⟨fun z listed => ?_, sorted⟩
        rcases List.mem_cons.mp listed with rfl | listed
        · exact first
        · exact trans x y z first (ahead z listed)
      · rename_i behind
        refine List.pairwise_cons.mpr ⟨fun z listed => ?_, ih later⟩
        rcases mem_insertBy.mp listed with rfl | listed
        · exact (total z y).resolve_left behind
        · exact ahead z listed
  induction list with
  | nil => exact .nil
  | cons first rest ih => exact inserted first ih

theorem filter_sortBy {equal : α → Bool}
    (ranked : ∀ x y, equal x = true → equal y = true → before x y = true) (list : List α) :
    (sortBy before list).filter equal = list.filter equal := by
  have inserted (x : α) (list : List α) :
      (insertBy before x list).filter equal = (x :: list).filter equal := by
    induction list with
    | nil => rfl
    | cons y rest ih =>
      unfold insertBy
      split
      · rfl
      · rename_i behind
        rw [List.filter_cons, ih]
        cases first : equal x <;> cases second : equal y <;> simp [first, second]
        exact (behind (ranked x y first second)).elim
  induction list with
  | nil => rfl
  | cons first rest ih =>
    have same := inserted first (sortBy before rest)
    rw [List.filter_cons, ih, ← List.filter_cons] at same
    exact same

end SpirvMetal
