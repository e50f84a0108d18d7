import SpirvMetal.Metal.Instruction.Value

/-!
Chains of indices into variables. A chain names a place: a base and the steps from it.
-/

namespace SpirvMetal

inductive AccessStep
  | element (index : Id) (text : String)
  | member (name : String)
  | component (index : Nat)
  | narrow (components : Nat)
deriving DecidableEq

def AccessStep.text : AccessStep → String
  | .element _ text => s!"[{text}]"
  | .member name => s!".{name}"
  | .component index => s!".{componentLetter index}"
  | .narrow components => if components = 1 then ".x" else ".xy"

structure Place where
  base : String
  steps : List AccessStep := []
  type : Id
  packed : Bool
  rowMajor : Bool

namespace Place

def text (place : Place) : String := place.base ++ String.join (place.steps.map AccessStep.text)

def step (place : Place) (step : AccessStep) (type : Id) : Place :=
  { place with steps := place.steps ++ [step], type }

end Place

namespace Compiler

variable (c : Compiler)

def elementType (id : Id) (type : ValueType) : Except Fault Id :=
  match type.parent with
  | some element => .ok element
  | none => .error (.internal (.arrayWithoutElement id))

def isWidened (array element : ValueType) : Bool :=
  array.dimensions.length = 1 && !element.isStruct && element.columns = 1 &&
    element.components ≤ 2

def literalIndex? (index : Id) : Option Nat :=
  ((c.program.constantAt? index).filter (!·.specialization)).bind (·.word?)

def intoArray (place : Place) (type : ValueType) (index : Id) : Except Fault Place := do
  let element ← elementType place.type type
  let next := place.step (.element index (← c.textOf index)) element
  let found ← c.program.getType element
  if place.packed && isWidened type found then
    return { next.step (.narrow found.components) element with packed := false }
  return next

def intoStruct (place : Place) (type : ValueType) (index : Id) : Except Fault Place := do
  let member ← c.program.constantWord index
  let struct := type.baseId
  match type.members[member]? with
  | none => .error (.internal (.noMember struct member))
  | some memberType =>
    return { place.step (.member (c.program.plainMemberName struct member)) memberType with
      packed := c.program.isMemberPacked struct member
      rowMajor := c.program.hasMemberDecoration struct member .rowMajor }

def intoVector (place : Place) (type : ValueType) (index : Id) : Except Fault Place := do
  let step ←
    match type.isVector, c.literalIndex? index with
    | true, some number => pure (AccessStep.component number)
    | _, _ => pure (.element index (← c.textOf index))
  match type.parent with
  | none => .error (.internal (.noComponentType place.type))
  | some part => return { place.step step part with rowMajor := false }

def stepInto (place : Place) (index : Id) : Except Fault Place := do
  let type ← c.program.getType place.type
  if type.isArray then c.intoArray place type index
  else if type.isStruct then c.intoStruct place type index
  else if type.isMatrix || type.isVector then c.intoVector place type index
  else .error (.internal (.chainIntoScalar place.type))

/-- The first step from a variable: into a block of builtins, or into an array of buffers, which is
an array of pointers. None if it is a step like any other. -/
def firstStep? (var : Id) (place : Place) (index : Id) : Except Fault (Option Place) := do
  let type ← c.program.getType place.type
  if type.isStruct && !type.isArray && c.program.isBuiltinBlock type.baseId then
    let member ← c.program.constantWord index
    match c.program.memberBuiltin? type.baseId member with
    | none => return none
    | some builtin =>
      let storage := (← c.program.getVariable var).storage
      let base ←
        match c.inEntry, c.program.memberStandIn? type.baseId member with
        | true, some text => pure text
        | _, _ => c.builtinText builtin storage
      match type.members[member]? with
      | some memberType => return some { place with base, steps := [], type := memberType }
      | none => .error .aborted
  else if type.isArray && c.isBufferArray var then
    let base := s!"(*{place.text}[{← c.textOf index}])"
    let element ← elementType place.type type
    return some { place with base, steps := [], type := element }
  else return none

def placeFrom (base : Id) (start : Place) (indices : List Id) : Except Fault Place := do
  match (c.program.variableAt? base).isSome, indices with
  | true, index :: rest =>
    match ← c.firstStep? base start index with
    | some next => rest.foldlM c.stepInto next
    | none => indices.foldlM c.stepInto start
  | _, _ => indices.foldlM c.stepInto start

/-- The place that a chain of indices leads to. A chain from a pointer into an array starts with a
step among its neighbours. -/
def place (base : Id) (indices : List Id) (fromPointer : Bool) : Except Fault Place := do
  match c.program.typeOf? base with
  | none => .error (.internal (.chainBaseWithoutType base))
  | some pointer =>
    let (type, _) ← c.program.pointee pointer
    let start : Place :=
      { base := ← c.textOf base
        type
        packed := base ∈ c.pass.packed
        rowMajor := base ∈ c.pass.rowMajor }
    match fromPointer, indices with
    | true, index :: rest =>
      c.placeFrom base (start.step (.element index (← c.textOf index)) type) rest
    | _, _ => c.placeFrom base start indices

end Compiler

namespace Emit

def accessChain (inst : Instruction) (fromPointer : Bool) : Emit Unit := do
  need inst 3
  let result ← word inst 1
  let base ← word inst 2
  let c ← get
  let place ← c.place base (inst.words.drop 3) fromPointer
  setText result place.text
  setBacking result base
  let type ← getType place.type
  if place.packed && 1 < type.components then
    modifyPass fun pass => { pass with packed := addNew pass.packed result }
  if place.rowMajor && type.isMatrix then
    modifyPass fun pass => { pass with rowMajor := addNew pass.rowMajor result }

end Emit

end SpirvMetal
