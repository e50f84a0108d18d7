import SpirvMetal.Metal.Interface.Attribute
import SpirvMetal.Metal.TypeName

/-!
Declarations of structs. Packing and padding put the members of buffers where the program expects
them; members of interface structs carry attributes.
-/

namespace SpirvMetal

inductive PackedForm
  | packed
  | matrix
  | widened
deriving DecidableEq

namespace PackedForm

def ofType (type : ValueType) : Except Fault PackedForm :=
  if type.isStruct then .error (.unsupported .packedStruct)
  else if 1 < type.components && 1 < type.columns then .ok .matrix
  else if type.isArray && type.components ≤ 2 then .ok .widened
  else .ok .packed

/-- A packed matrix holds its rows in the place of columns. -/
def matrixTypedef (type : ValueType) : String :=
  let scalar := if type.width = 16 then "half" else "float"
  let rows := type.components
  let columns := type.columns
  s!"typedef {scalar}{rows}x{columns} packed_{scalar}{columns}x{rows};"

end PackedForm

namespace Emit

def memberTypeName (struct index member : Nat) (type : ValueType) : Emit String := do
  let c ← get
  let natural ← c.typeName member
  if !c.program.isMemberPacked struct index then return natural
  match ← PackedForm.ofType type with
  | .packed => return s!"packed_{natural}"
  | .matrix =>
    requireTypedef (PackedForm.matrixTypedef type)
    return s!"packed_{natural}"
  | .widened => TypeName.numeric type.base 4 1

def structMember (struct index member : Nat) (isInterface : Bool) : Emit Unit := do
  let c ← get
  let type ← c.program.getType member
  let name :=
    if isInterface then c.program.memberName struct index
    else c.program.plainMemberName struct index
  let spelled ← memberTypeName struct index member type
  let attributes ← if isInterface then c.memberAttribute struct index else pure ""
  statement s!"{spelled} {name}{attributes}{c.arraySuffix type};"

def struct (id : Id) : Emit Unit := do
  let c ← get
  let members := (← c.program.getType id).members
  let isInterface := id ∈ c.plan.interfaceStructs
  statement s!"struct {c.program.plainName id}"
  beginScope
  members.zipIdx.forM fun (member, index) => do
    if isInterface || (c.program.memberBuiltin? id index).isNone then
      let padding := (c.program.memberDecorations id index).padding
      if 0 < padding then statement s!"char _m{index}_pad[{padding}];"
      structMember id index member isInterface
  endDeclaration
  statement ""

end Emit

end SpirvMetal
