import SpirvMetal.Metal.TypeName

/-!
How Metal spells the types of numbers.
-/

namespace SpirvMetal.BaseType

def isNumeric : BaseType → Bool
  | .boolean | .integer _ _ | .floating _ => true
  | _ => false

def spelling : BaseType → String
  | .integer .w8 signed => if signed then "char" else "uchar"
  | .integer .w16 signed => if signed then "short" else "ushort"
  | .integer .w32 signed => if signed then "int" else "uint"
  | .integer .w64 signed => if signed then "long" else "size_t"
  | .floating .half => "half"
  | .floating .single => "float"
  | .floating .double => "double"
  | _ => "bool"

/-- Behind the name of a scalar there are the sizes of a vector or a matrix. -/
def spelled (base : BaseType) (components : Nat) (columns : Nat := 1) : String :=
  base.spelling ++
    if 1 < columns then s!"{columns}x{components}"
    else if 1 < components then toString components else ""

theorem numeric_spelled {base : BaseType} (numeric : base.isNumeric = true)
    (components columns : Nat) :
    TypeName.numeric base components columns = .ok (base.spelled components columns) := by
  have scalar : TypeName.scalar? base = some base.spelling := by
    cases base with
    | boolean => rfl
    | integer width signed => cases width <;> cases signed <;> rfl
    | floating width => cases width <;> rfl
    | _ => cases numeric
  unfold TypeName.numeric spelled
  rw [scalar]
  dsimp only
  split
  · simp only [toString, String.append_assoc]
  · split <;> simp [toString]

end SpirvMetal.BaseType
