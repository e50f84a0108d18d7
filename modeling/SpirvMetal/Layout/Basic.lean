import SpirvMetal.Program.Basic

/-!
Sizes and alignments of struct members by Metal's rules: a vector of three components takes as much
room as one of four, unless it is packed. They are natural numbers: no sum or product of offsets,
sizes and strides is taken to reach 2^32.
-/

namespace SpirvMetal.Layout

open Spirv (Decoration)

def alignUp (value alignment : Nat) : Nat :=
  if alignment ≤ 1 then value else (value + alignment - 1) / alignment * alignment

def roomy (components : Nat) : Nat := if components = 3 then 4 else components

variable (program : Program)

def memberType (struct member : Nat) : Except Fault (Id × ValueType) := do
  let type ← program.getType struct
  match type.members[member]? with
  | some id => return (id, ← program.getType id)
  | none => .error (.internal (.noMember struct member))

def memberOffset (struct member : Nat) : Nat := program.getMemberDecoration struct member .offset

def memberStride (struct member : Nat) : Except Fault Nat := do
  let (type, _) ← memberType program struct member
  if program.hasDecoration type .arrayStride then return program.getDecoration type .arrayStride
  else .error (.invalid (.noArrayStride struct member))

/-- Builtins come after the other members, which are ordered by offset; members of equal rank keep
the order of declaration. -/
def precedes (struct : Id) (a b : Nat) : Bool :=
  let builtin member := (program.memberBuiltin? struct member).isSome
  let offset := memberOffset program struct
  match builtin a, builtin b with
  | false, true => true
  | true, false => false
  | _, _ => offset a ≤ offset b

def membersByOffset (struct : Id) : Except Fault (List Nat) := do
  let count := (← program.getType struct).members.length
  return sortBy (precedes program struct) (List.range count)

def sizeless (type : ValueType) : Bool :=
  type.isOpaque || type.base = .void || type.base = .unknown

/-- The alignment of a member; `fuel` bounds the nesting of structs. -/
def alignmentWithin : Nat → (struct member : Nat) → Except Fault Nat
  | 0, _, _ => .error .aborted
  | fuel + 1, struct, member => do
    let (_, type) ← memberType program struct member
    if sizeless type then .error (.unsupported .opaqueAlignment)
    else if type.isStruct then
      let count := (← program.getType type.baseId).members.length
      let alignments ← (List.range count).mapM (alignmentWithin fuel type.baseId)
      return alignments.foldl max 1
    else
      let component := type.width / 8
      -- Packed arrays of one or two components are widened to four.
      if program.isMemberPacked struct member then
        return component * if type.isArray && type.columns = 1 then 4 else roomy type.columns
      else return component * roomy type.components

def memberAlignment (struct member : Nat) : Except Fault Nat :=
  alignmentWithin program program.depth struct member

/-- The size of a member; `fuel` bounds the nesting of structs. -/
def sizeWithin : Nat → (struct member : Nat) → Except Fault Nat
  | 0, _, _ => .error .aborted
  | fuel + 1, struct, member => do
    let (_, type) ← memberType program struct member
    if sizeless type then .error (.unsupported .opaqueSize)
    else
      match type.outer? with
      | some outer =>
        return (← memberStride program struct member) * max (program.dimensionLength outer) 1
      | none =>
        if type.isStruct then
          let size ←
            match (← membersByOffset program type.baseId).getLast? with
            | some last => do
              let size ← sizeWithin fuel type.baseId last
              pure (memberOffset program type.baseId last + size)
            | none => pure 0
          return alignUp size (← memberAlignment program struct member)
        else
          let components :=
            if program.isMemberPacked struct member then type.components
            else roomy type.components
          return type.width / 8 * components * type.columns

def memberSize (struct member : Nat) : Except Fault Nat :=
  sizeWithin program program.depth struct member

def structSize (struct : Id) : Except Fault Nat := do
  match (← membersByOffset program struct).getLast? with
  | some last => return memberOffset program struct last + (← memberSize program struct last)
  | none => return 0

end SpirvMetal.Layout
