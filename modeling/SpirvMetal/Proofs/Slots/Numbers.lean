import Mathlib.Data.List.Forall2
import Mathlib.Data.List.Nodup
import SpirvMetal.Metal.Signature
import SpirvMetal.Proofs.Store.Texts

/-!
The numbers of buffer slots. Variables with a binding take the slots from there on, one for each of
their blocks; the others are numbered from zero. Slots are natural numbers: bindings and sizes of
arrays are taken to be small enough for none of them to reach 2^32.
-/

namespace SpirvMetal

open List

namespace Program

variable (program : Program)

/-- The type of a variable that holds a block with members, or an array of such blocks. -/
def blocks? (var : Id) : Option ValueType :=
  match program.dataType var with
  | .ok (_, type) =>
    if type.base = .struct && (program.typeAt? type.baseId).any (!·.members.isEmpty) then some type
    else none
  | .error _ => none

def blockCount (var : Id) : Nat :=
  match program.blocks? var with
  | some type => program.elementCount type.dimensions
  | none => 0

/-- The slot that a variable is bound to, if it has a binding. All push constants that have one are
bound to the same slot, whatever their binding. -/
def binding? (var : Id) : Option Nat :=
  if program.hasDecoration var .binding then
    if (program.variableAt? var).any (·.storage = .pushConstant) then
      some Options.pushConstantBinding
    else some (program.getDecoration var .binding)
  else none

def boundSlots (var : Id) : List Nat :=
  match program.binding? var with
  | some slot => List.range' slot (program.blockCount var)
  | none => []

/-- The number of slots that are counted, for variables that have no binding. -/
def countedSlots : List Id → Nat
  | [] => 0
  | var :: rest =>
    (if (program.binding? var).isNone then program.blockCount var else 0) + countedSlots rest

/-- The slots of variables in their order, where those without a binding are counted from `next`. -/
def slotsFrom (next : Nat) : List Id → List Nat
  | [] => []
  | var :: rest =>
    match program.binding? var with
    | some slot => List.range' slot (program.blockCount var) ++ slotsFrom next rest
    | none =>
      List.range' next (program.blockCount var) ++ slotsFrom (next + program.blockCount var) rest

variable {program} {vars : List Id}

theorem slotsFrom_perm (next : Nat) :
    (program.slotsFrom next vars).Perm
      (vars.flatMap program.boundSlots ++ List.range' next (program.countedSlots vars)) := by
  induction vars generalizing next with
  | nil => exact .refl []
  | cons var rest ih =>
    simp only [slotsFrom, flatMap_cons, countedSlots, boundSlots]
    cases found : program.binding? var with
    | some slot =>
      simp only [Option.isNone_some, Bool.false_eq_true, if_false, Nat.zero_add, append_assoc]
      exact (ih next).append_left _
    | none =>
      simp only [Option.isNone_none, if_true, nil_append]
      rw [← List.range'_append_1]
      refine ((ih _).append_left _).trans ?_
      rw [← append_assoc, ← append_assoc]
      exact perm_append_comm.append_right _

/-- The slots of all are different exactly if no binding overlaps another one, and each lies above
all slots that are counted. -/
theorem slotsFrom_nodup_iff (held : ∀ var ∈ vars, 0 < program.blockCount var) :
    (program.slotsFrom 0 vars).Nodup ↔
      (vars.flatMap program.boundSlots).Nodup ∧
        ∀ var ∈ vars, ∀ slot, program.binding? var = some slot →
          program.countedSlots vars ≤ slot := by
  rw [(slotsFrom_perm 0).nodup_iff, nodup_append]
  refine and_congr_right fun _ => ⟨fun ⟨_, apart⟩ var listed slot bound => ?_, fun above =>
    ⟨nodup_range', fun taken member counted listed same => ?_⟩⟩
  · -- the first slot of a binding is not among those that are counted
    have first : slot ∈ vars.flatMap program.boundSlots := by
      refine mem_flatMap.mpr ⟨var, listed, ?_⟩
      rw [boundSlots, bound]
      exact mem_range'.mpr ⟨0, held var listed, by omega⟩
    by_contra below
    refine apart slot first slot (mem_range'.mpr ⟨slot, by omega, by omega⟩) rfl
  · obtain ⟨var, known, member⟩ := mem_flatMap.mp member
    rw [boundSlots] at member
    split at member
    · rename_i slot bound
      have high := above var known slot bound
      obtain ⟨_, _, rfl⟩ := mem_range'.mp member
      obtain ⟨_, _, rfl⟩ := mem_range'.mp listed
      omega
    · cases member

end Program

def IsBufferArgument (argument : String) (slot : Nat) : Prop :=
  ∃ declaration, argument = declaration ++ " [[buffer(" ++ toString slot ++ ")]]"

/-- No two of the arguments are bound to the same buffer slot. -/
def BuffersDistinct (arguments : List String) : Prop :=
  arguments.Pairwise fun first second =>
    ∀ slot, IsBufferArgument first slot → ¬ IsBufferArgument second slot

theorem isBufferArgument_iff {declaration mark : String} (solid : ' ' ∉ mark.toList) {slot : Nat} :
    IsBufferArgument (declaration ++ " [[" ++ mark ++ "]]") slot ↔
      mark = "buffer(" ++ toString slot ++ ")" := by
  constructor
  · rintro ⟨other, same⟩
    have texts : declaration.toList ++ ' ' :: ('[' :: '[' :: mark.toList ++ [']', ']']) =
        other.toList ++ ' ' ::
          ('[' :: '[' :: ("buffer(" ++ toString slot ++ ")").toList ++ [']', ']']) := by
      simpa using congrArg String.toList same
    have words := eq_of_append_mark texts (by simpa using solid)
      (by simpa using notMem_toString (by decide) slot)
    have marks := append_cancel_right words
    exact String.toList_inj.mp (List.cons.inj (List.cons.inj marks).2).2
  · rintro rfl
    exact ⟨declaration, String.toList_inj.mp (by simp)⟩

def Labels (argument : String) (label : Option Nat) : Prop :=
  ∀ slot, IsBufferArgument argument slot ↔ label = some slot

theorem labels_buffer (declaration : String) (slot : Nat) :
    Labels (declaration ++ " [[buffer(" ++ toString slot ++ ")]]") (some slot) := by
  intro other
  have split : declaration ++ " [[buffer(" ++ toString slot ++ ")]]" =
      declaration ++ " [[" ++ ("buffer(" ++ toString slot ++ ")") ++ "]]" :=
    String.toList_inj.mp (by simp)
  rw [split, isBufferArgument_iff (by simpa using notMem_toString (by decide) slot)]
  constructor
  · intro same
    have texts := congrArg String.toList same
    simp only [String.toList_append, append_assoc, append_cancel_left_eq] at texts
    rw [toString_injective (String.toList_inj.mp (append_cancel_right texts))]
  · intro same
    rw [Option.some.inj same]

theorem labels_none {declaration mark : String} (solid : ' ' ∉ mark.toList)
    (other : ¬ "buffer(".toList <+: mark.toList) :
    Labels (declaration ++ " [[" ++ mark ++ "]]") none := by
  intro slot
  rw [isBufferArgument_iff solid]
  refine ⟨fun same => (other ?_).elim, nofun⟩
  rw [same, String.append_assoc, String.toList_append]
  exact prefix_append ..

theorem buffersDistinct_iff {arguments : List String} {labels : List (Option Nat)}
    (labelled : List.Forall₂ Labels arguments labels) :
    BuffersDistinct arguments ↔ (labels.filterMap id).Nodup := by
  induction labelled with
  | nil => simp [BuffersDistinct]
  | @cons argument label rest others known labelled ih =>
    have bound (slot : Nat) :
        (∃ other ∈ rest, IsBufferArgument other slot) ↔ slot ∈ others.filterMap id := by
      rw [mem_filterMap]
      clear ih
      induction labelled with
      | nil => simp
      | cons first _ ih => simp [first slot, ih, eq_comm]
    rw [BuffersDistinct, pairwise_cons]
    cases label with
    | none =>
      rw [filterMap_cons_none rfl, ← ih]
      refine and_iff_right fun other _ slot first => ?_
      cases (known slot).mp first
    | some slot =>
      rw [filterMap_cons, id, nodup_cons, ← ih, ← bound]
      refine and_congr_left fun _ => ⟨fun apart => ?_, fun free other listed slot' first => ?_⟩
      · rintro ⟨other, listed, second⟩
        exact apart other listed slot ((known slot).mpr rfl) second
      · obtain rfl := Option.some.inj ((known slot').mp first)
        exact fun second => free ⟨other, listed, second⟩

end SpirvMetal
