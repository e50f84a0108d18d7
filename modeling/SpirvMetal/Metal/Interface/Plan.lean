import SpirvMetal.Metal.Builtin

/-!
Which members the input or output struct of an entry point gets.
-/

namespace SpirvMetal

open Spirv (BuiltIn Decoration StorageClass)

inductive MemberBinding
  | alias (var : Id)
  | padded (var : Id) (components : Nat)
  | blockBuiltin (block member : Nat)
  /-- A part of a local variable: one member, column or element. It is widened to `components`,
  unless that is zero. -/
  | copy (var : Id) (member index : Option Nat) (components : Nat)
deriving DecidableEq

structure PlannedMember where
  type : Id
  decorations : Decorations
  binding : MemberBinding

namespace PlannedMember

def isBuiltin (member : PlannedMember) : Bool := member.decorations.builtin?.isSome

def location (member : PlannedMember) : Nat := member.decorations.get .location

def before (a b : PlannedMember) : Bool :=
  if a.isBuiltin = b.isBuiltin then a.location ≤ b.location else b.isBuiltin

end PlannedMember

namespace Decorations

def inheritInterpolation (d other : Decorations) : Decorations :=
  [Decoration.flat, .noPerspective, .centroid, .sample].foldl
    (fun d decoration => if other.has decoration then d.set decoration 0 else d) d

end Decorations

namespace Program

variable (program : Program)

def elementWithin : Nat → Id → Except Fault Id
  | 0, _ => .error .aborted
  | fuel + 1, id => do
    let type ← program.getType id
    if !type.isArray && type.columns ≤ 1 then return id
    match type.parent with
    | some parent => elementWithin fuel parent
    | none => .error (.internal (.compositeWithoutElement id))

def element (id : Id) : Except Fault Id := program.elementWithin program.depth id

def locationCount (type : ValueType) : Nat :=
  type.columns * program.elementCount type.dimensions

def memberLocation (var struct index : Nat) : Except Fault Nat := do
  let members := (← program.getType struct).members.take index
  members.zipIdx.foldlM
    (fun location (type, earlier) => do
      let start :=
        if program.hasMemberDecoration struct earlier .location then
          program.getMemberDecoration struct earlier .location
        else location
      return start + program.locationCount (← program.getType type))
    (program.getDecoration var .location)

def qualifiedMemberName (struct index : Nat) : String :=
  match program.memberBuiltin? struct index with
  | some builtin => Builtin.name builtin
  | none =>
    let member := program.plainMemberName struct index
    let trimmed := String.ofList (member.toList.dropWhile (· = '_'))
    s!"{program.plainName struct}_{trimmed}"

def addType (type : ValueType) : Id × Program :=
  let (id, program) := program.reserve 1
  (id, program.set id (.type { type with baseId := id }))

end Program

def Builtin.needsUnsigned (builtin : BuiltIn) (type : ValueType) : Bool :=
  match builtin with
  | .sampleMask => type.isArray || type.base ≠ .uint
  | .layer | .viewportIndex => type.base ≠ .uint
  | _ => false

/-- What a value becomes when the host stores it in a format: its type, another one, or nothing. -/
def VertexFormat.convert (format : VertexFormat) (base : BaseType) : Option BaseType :=
  match format, base with
  | .other, base => some base
  | .uint8, .integer .w8 false => some base
  | .uint8, .integer .w16 _ => some (base.withSignedness false)
  | .uint8, .integer .w32 _ => some (base.withSignedness false)
  | .uint16, .integer .w16 false => some base
  | .uint16, .integer .w32 _ => some (base.withSignedness false)
  | _, _ => none

namespace Compiler

variable (c : Compiler)

def isVertexInput (storage : StorageClass) : Bool := c.plan.model = .vertex && storage = .input

def paddedComponents (storage : StorageClass) (type : Id) (located : Bool) : Except Fault Nat := do
  let components := (← c.program.getType type).components
  let pads := located && c.options.padFragmentOutput && c.plan.model = .fragment &&
    storage = .output && components < 4
  return if pads then 4 else 0

end Compiler

namespace Emit

def addType (type : ValueType) : Emit Id := do
  let c ← get
  let (id, program) := c.program.addType type
  set { c with program }
  return id

def widenedType (type : Id) (components : Nat) : Emit Id := do
  let found ← (← get).program.getType type
  addType { found with components, parent := none }

def builtinMemberType (type : Id) (builtin : Option BuiltIn) : Emit Id := do
  match builtin with
  | none => return type
  | some builtin =>
    let c ← get
    if Builtin.needsUnsigned builtin (← c.program.getType type) then
      addType { base := .uint, width := 32 }
    else return type

def attributeType (type location : Nat) : Emit Id := do
  let c ← get
  match c.options.vertexAttributes.find? (·.location = location) with
  | none => return type
  | some entry =>
    let found ← c.program.getType type
    match entry.format.convert found.base with
    | none => fail (.unsupported .attributeTypeMismatch)
    | some base =>
      if base = found.base then return type
      else addType { found with base, parent := none }

def useLocation (storage : StorageClass) (location : Nat) : Emit Unit :=
  modify fun c =>
    if c.isVertexInput storage then
      let vertexAttributes := c.options.vertexAttributes.map fun entry =>
        if entry.location = location then { entry with used := true } else entry
      { c with options := { c.options with vertexAttributes } }
    else c

def locate (storage : StorageClass) (converts : Bool) (type : Id) (decorations : Decorations)
    (location : Option Nat) : Emit (Id × Decorations) := do
  match location with
  | none => return (type, decorations)
  | some location =>
    let isInput := (← get).isVertexInput storage
    let type ← if converts && isInput then attributeType type location else pure type
    useLocation storage location
    return (type, decorations.set .location location)

structure Split where
  var : Id
  member : Option Nat
  name : String
  element : Id
  location : Option Nat
  decorate : Decorations → Decorations

def planPart (storage : StorageClass) (split : Split) (index : Nat) : Emit PlannedMember := do
  let named : Decorations := { name := Name.avoidTemporary s!"{split.name}_{index}" "m" }
  let (type, decorations) ←
    locate storage true split.element named (split.location.map (· + index))
  let components ← (← get).paddedComponents storage type split.location.isSome
  let type ← if components = 0 then pure type else widenedType type components
  return {
    type
    decorations := split.decorate decorations
    binding := .copy split.var split.member (some index) components }

def partCount (type : ValueType) : Emit Nat := do
  if type.isArray && 1 < type.columns then fail (.unsupported .interfaceMatrixArray)
  match type.dimensions with
  | [] => return type.columns
  | [dimension] => return (← get).program.dimensionLength dimension
  | _ => fail (.unsupported .interfaceNestedArray)

def planComposite (storage : StorageClass) (var data : Id) : Emit (List PlannedMember) := do
  let program := (← get).program
  let count ← partCount (← program.getType data)
  let own := program.decorations var
  let split : Split := {
    var
    member := none
    name := program.plainName var
    element := ← program.element data
    location := if own.has .location then some (own.get .location) else none
    decorate := fun d =>
      let d := if own.has .index then d.set .index (own.get .index) else d
      d.inheritInterpolation own }
  (List.range count).mapM (planPart storage split)

def planPlain (storage : StorageClass) (var data : Id) : Emit PlannedMember := do
  let program := (← get).program
  let builtin := program.builtin? var
  let own := program.decorations var
  let type ← builtinMemberType data builtin
  let name :=
    match builtin with
    | some builtin => Builtin.name builtin
    | none => Name.avoidTemporary (program.plainName var) "m"
  let components ← (← get).paddedComponents storage type (own.has .location)
  let type ← if components = 0 then pure type else widenedType type components
  let location := if own.has .location then some (own.get .location) else none
  let (located, decorations) ← locate storage true type { name } location
  if located ≠ type then
    modifyPlan fun plan => { plan with convertedInputs := addNew plan.convertedInputs var }
  let decorations := [Decoration.component, .index].foldl
    (fun d decoration => if own.has decoration then d.set decoration (own.get decoration) else d)
    decorations
  let decorations :=
    match builtin with
    | some builtin => decorations.set .builtIn builtin.code
    | none => decorations
  if builtin = some .position then modifyPlan ({ · with position := s!"out.{name}" })
  return {
    type := located
    decorations := decorations.inheritInterpolation own
    binding := if components = 0 then .alias var else .padded var components }

def planStructMember (storage : StorageClass) (var struct index type : Nat) :
    Emit (List PlannedMember) := do
  let c ← get
  let program := c.program
  let own := program.decorations var
  let builtin := program.memberBuiltin? struct index
  let isActive := builtin.all (c.plan.activeBuiltins.isActive · storage)
  if !isActive then return []
  let found ← program.getType type
  let memberOwn := program.memberDecorations struct index
  let location ←
    if memberOwn.has .location then pure (some (memberOwn.get .location))
    else if own.has .location then pure (some (← program.memberLocation var struct index))
    else pure none
  let interpolate (d : Decorations) := (d.inheritInterpolation own).inheritInterpolation memberOwn
  if builtin.isNone && (found.isMatrix || found.isArray) then
    let count ← partCount found
    if memberOwn.has .component then fail (.unsupported .componentOnComposite)
    let split : Split := {
      var
      member := some index
      name := program.qualifiedMemberName struct index
      element := ← program.element type
      location
      decorate := interpolate }
    (List.range count).mapM (planPart storage split)
  else
    let type ← builtinMemberType type builtin
    let name := Name.avoidTemporary (program.qualifiedMemberName struct index) "m"
    let (type, decorations) ← locate storage builtin.isNone type { name } location
    let decorations :=
      if memberOwn.has .component then decorations.set .component (memberOwn.get .component)
      else decorations
    match builtin with
    | some builtin =>
      return [{
        type
        decorations := interpolate (decorations.set .builtIn builtin.code)
        binding := .blockBuiltin struct index }]
    | none =>
      return [{
        type
        decorations := interpolate decorations
        binding := .copy var (some index) none 0 }]

def planVariable (storage : StorageClass) (var : Id) : Emit (List PlannedMember) := do
  let c ← get
  let (data, type) ← c.program.dataType var
  let builtin := c.program.builtin? var
  let isActive := builtin.all (c.plan.activeBuiltins.isActive · storage)
  if !isActive then return []
  else if type.isStruct then
    let members := (← c.program.getType type.baseId).members
    let planned ← members.zipIdx.mapM fun (member, index) =>
      planStructMember storage var type.baseId index member
    return planned.flatten
  else if type.isOpaque || type.base = .void || type.base = .unknown then return []
  else if builtin.isNone && (type.isMatrix || type.isArray) then planComposite storage var data
  else return [← planPlain storage var data]

end Emit

end SpirvMetal
