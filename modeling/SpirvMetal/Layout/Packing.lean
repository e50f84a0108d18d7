import SpirvMetal.Layout.Basic

/-!
Which members of a buffer struct are packed, and how much room is left free before each.
-/

namespace SpirvMetal.Layout

open Spirv (Decoration)

variable (program : Program)

/-- Whether an array member is declared with elements further apart than they would be placed:
arrays of one or two components that are four components apart, and structs with a stride beyond
their padded size. -/
def isSpread (struct member : Nat) (type : ValueType) : Except Fault Bool := do
  if !type.isArray then return false
  else if type.isStruct then
    let alignment ← memberAlignment program struct member
    let size := alignUp (← structSize program type.baseId) alignment
    return size < (← memberStride program struct member)
  else if type.columns = 1 && type.components ≤ 2 then
    return (← memberStride program struct member) = 4 * (type.width / 8)
  else return false

/-- Whether a vector or a row-major matrix would overrun the room that is declared for it. `next`
is the declared offset of the member that follows. -/
def overruns (struct member : Nat) (type : ValueType) (next : Option Nat) : Except Fault Bool := do
  let isMatrix : Bool := 1 < type.columns
  let size := type.width / 8 * roomy type.components * type.columns
  if type.components = 1 || (isMatrix && type.components ≠ 3) then return false
  else if isMatrix && !program.hasMemberDecoration struct member .rowMajor then return false
  else if type.isArray then
    let inner := program.elementCount type.dimensions.dropLast
    return (← memberStride program struct member) < size * inner
  else
    let offset := memberOffset program struct member
    if !isMatrix && size = 0 then .error .aborted
    else if !isMatrix && offset % size ≠ 0 then return true
    else
      match next with
      | some next => return next - offset < size
      | none => return isMatrix

def isPackable (struct member : Nat) (next : Option Nat) : Except Fault Bool := do
  if program.isMemberPacked struct member then return true
  let (_, type) ← memberType program struct member
  if ← isSpread program struct member type then return true
  overruns program struct member type next

/-- Changes a program step by step; the changes made before a failure remain. -/
abbrev Edit := EStateM Fault Program

def packMembers (struct : Id) : (order : List Nat) → Edit Unit
  | [] => return ()
  | member :: rest => do
    let program ← get
    let next := rest.head?.map (memberOffset program struct)
    if !program.isMemberPacked struct member then
      if ← ofExcept (isPackable program struct member next) then
        set (program.setMemberPacked struct member)
    packMembers struct rest

/-- Leave room before the members so that each lands on its declared offset. `current` is the end of
what was placed so far. -/
def padMembers (struct : Id) : (order : List Nat) → (current : Nat) → Edit Unit
  | [], _ => return ()
  | member :: rest, current => do
    let program ← get
    let alignment ← ofExcept (memberAlignment program struct member)
    let offset := memberOffset program struct member
    let padding := if alignUp current (max alignment 1) < offset then offset - current else 0
    let padded := program.modifyMember struct member ({ · with padding })
    set padded
    if rest.isEmpty then return ()
    padMembers struct rest (offset + (← ofExcept (memberSize padded struct member)))

/-- Decide packing and padding for every member of a struct. Packing stays; padding follows from it
alone, so that a second run changes nothing. -/
def alignStruct (struct : Id) : Edit Unit := do
  let order ← ofExcept (membersByOffset (← get) struct)
  packMembers struct order
  padMembers struct order 0

end SpirvMetal.Layout
