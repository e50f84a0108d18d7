import SpirvMetal.Program.Decorations

/-!
Decorations as a map. A field keeps its value when its decoration is unset, but is not read then.
-/

namespace SpirvMetal

open Spirv (Decoration BuiltIn)

/-- What is read of a decoration that was set to a value. -/
def Spirv.Decoration.shows (decoration : Decoration) (value : Nat) : Nat :=
  match decoration with
  | .builtIn => if (BuiltIn.ofCode? value).isSome then value else 0
  | .location | .component | .index | .binding | .descriptorSet | .offset | .arrayStride
  | .matrixStride | .specId | .inputAttachmentIndex => value
  | _ => 1

namespace Decorations

variable (d : Decorations) (decoration other : Decoration) (value : Nat)

theorem has_set : (d.set decoration value).has other = (other = decoration || d.has other) := by
  simp [has, set]

theorem has_unset : (d.unset decoration).has other = (other ≠ decoration && d.has other) := by
  simp [has, unset, Bool.and_comm]

theorem get_set : (d.set decoration value).get other =
    if other = decoration then decoration.shows value else d.get other := by
  unfold get
  rw [has_set]
  by_cases same : other = decoration
  · subst same
    simp only [decide_true, Bool.true_or, Bool.not_true, Bool.false_eq_true, if_false, if_true,
      Decoration.shows, set]
    split
    · cases found : BuiltIn.ofCode? value with
      | none => rfl
      | some builtin => simpa [BuiltIn.ofCode?] using List.find?_some found
    all_goals simp_all
  · have differ : decoration ≠ other := Ne.symm same
    simp only [same, decide_false, Bool.false_or, if_false]
    split
    · rfl
    · split <;> simp [set, differ]

theorem get_unset : (d.unset decoration).get other =
    if other = decoration then 0 else d.get other := by
  unfold get
  rw [has_unset]
  by_cases same : other = decoration
  · simp [same]
  · have differ : decoration ≠ other := Ne.symm same
    simp only [same, ne_eq, not_false_eq_true, decide_true, Bool.true_and, if_false]
    split
    · rfl
    · split <;> simp [unset, differ]

theorem builtin?_set : (d.set decoration value).builtin? =
    if decoration = .builtIn then BuiltIn.ofCode? value else d.builtin? := rfl

theorem builtin?_unset : (d.unset decoration).builtin? =
    if decoration = .builtIn then none else d.builtin? := rfl

/-- What the decorations themselves say, without names and the layout. -/
def values : Decorations := { d with name := "", packed := false, standIn := none, padding := 0 }

end Decorations

end SpirvMetal
