import SpirvMetal.Metal.Builtin

/-!
Types as Metal spells them, the memory that values live in, and declarations.
-/

namespace SpirvMetal

open Spirv (BuiltIn StorageClass Dim AccessQualifier)

inductive AddressSpace
  | value
  | thread
  | constant
  | device
  | threadgroup
deriving DecidableEq

def AddressSpace.text : AddressSpace → String
  | .value => ""
  | .thread => "thread"
  | .constant => "constant"
  | .device => "device"
  | .threadgroup => "threadgroup"

structure ArgumentSpace where
  space : AddressSpace
  readOnly : Bool := false
deriving DecidableEq

def ArgumentSpace.text (argument : ArgumentSpace) : String :=
  if argument.readOnly then s!"const {argument.space.text}" else argument.space.text

namespace TypeName

def scalar? : BaseType → Option String
  | .boolean => some "bool"
  | .integer .w8 true => some "char"
  | .integer .w8 false => some "uchar"
  | .integer .w16 true => some "short"
  | .integer .w16 false => some "ushort"
  | .integer .w32 true => some "int"
  | .integer .w32 false => some "uint"
  | .integer .w64 true => some "long"
  | .integer .w64 false => some "size_t"
  | .floating .half => some "half"
  | .floating .single => some "float"
  | .floating .double => some "double"
  | _ => none

def numeric (base : BaseType) (components columns : Nat) : Except Fault String :=
  match scalar? base with
  | none => .error (.internal (.notNumeric base))
  | some scalar =>
    if 1 < columns then .ok s!"{scalar}{columns}x{components}"
    else if 1 < components then .ok s!"{scalar}{components}"
    else .ok scalar

def depthTexture (image : ImageInfo) : Except Fault String :=
  match image.dim, image.multisampled, image.arrayed with
  | .dim2D, true, true => .ok "depth2d_ms_array"
  | .dim2D, true, false => .ok "depth2d_ms"
  | .dim2D, false, true => .ok "depth2d_array"
  | .dim2D, false, false => .ok "depth2d"
  | .dimCube, _, true => .ok "depthcube_array"
  | .dimCube, _, false => .ok "depthcube"
  | other, _, _ => .error (.unsupported (.depthTexture other))

def texture (image : ImageInfo) : Except Fault String :=
  match image.dim, image.multisampled, image.arrayed with
  | .dim1D, _, true => .ok "texture1d_array"
  | .dim1D, _, false => .ok "texture1d"
  | .dim2D, true, true | .dimBuffer, true, true | .dimSubpassData, true, true =>
    .ok "texture2d_ms_array"
  | .dim2D, true, false | .dimBuffer, true, false | .dimSubpassData, true, false =>
    .ok "texture2d_ms"
  | .dim2D, false, true | .dimBuffer, false, true | .dimSubpassData, false, true =>
    .ok "texture2d_array"
  | .dim2D, false, false | .dimBuffer, false, false | .dimSubpassData, false, false =>
    .ok "texture2d"
  | .dim3D, _, _ => .ok "texture3d"
  | .dimCube, _, true => .ok "texturecube_array"
  | .dimCube, _, false => .ok "texturecube"
  | other, _, _ => .error (.unsupported (.texture other))

def isMultisampledArray (image : ImageInfo) (comparison : Bool) : Bool :=
  image.multisampled && image.arrayed &&
    (image.dim = .dim2D ||
      (!comparison && (image.dim = .dimBuffer || image.dim = .dimSubpassData)))

end TypeName

namespace Compiler

variable (c : Compiler)

def addressSpace (type : ValueType) : AddressSpace :=
  match type.storage with
  | .workgroup => .threadgroup
  | .storageBuffer => .device
  | .uniform | .uniformConstant | .pushConstant =>
    if !type.isStruct then .thread
    else if c.program.hasDecoration type.baseId .bufferBlock then .device
    else .constant
  | .function | .generic => if type.pointer then .thread else .value
  | .output => if c.capturesOutput then .device else .thread
  | _ => .thread

/-- The access that a storage image is declared with: as the type says, or as far as the variable
has been read and written. -/
def accessText (type : ValueType) (image : ImageInfo) (var : Option Id) : String :=
  if type.base ≠ .image || image.sampled ≠ 2 || image.dim = .dimSubpassData then ""
  else
    match image.access, var with
    | some .readOnly, _ => ", access::read"
    | some .writeOnly, _ => ", access::write"
    | some .readWrite, _ => ", access::read_write"
    | none, none => ""
    | none, some var =>
      if c.program.hasDecoration var .nonWritable then ""
      else if c.program.hasDecoration var .nonReadable then ", access::write"
      else ", access::read_write"

def textureName (image : ImageInfo) (var : Option Id) : Except Fault String := do
  let comparison := image.depth || var.any (· ∈ c.plan.comparisonImages)
  if TypeName.isMultisampledArray image comparison && !c.options.supports 2 1 then
    .error (.unsupported .multisampledArray)
  else if comparison then TypeName.depthTexture image
  else TypeName.texture image

def opaqueArrayLength (type : ValueType) : Except Fault Nat :=
  let ios := c.options.isIos
  let supported := if ios then c.options.supports 1 2 else c.options.supports 2 0
  if !supported then .error (.unsupported (.textureArrays ios))
  else
    match type.dimensions with
    | [dimension] =>
      match c.program.dimensionLength dimension with
      | 0 => .error (.unsupported .unsizedImageArray)
      | length => .ok length
    | _ => .error (.unsupported .nestedTextureArray)

/-- The name of a type; `fuel` bounds how deep types are wrapped. -/
def typeNameWithin : Nat → Id → Option Id → Except Fault String
  | 0, _, _ => .error .aborted
  | fuel + 1, id, var => do
    let type ← c.program.getType id
    if type.pointer then
      match type.parent with
      | none => .error (.internal (.pointerWithoutPointee id))
      | some pointee =>
        let inner ← typeNameWithin fuel pointee var
        return if type.isOpaque then inner else s!"{(c.addressSpace type).text} {inner}*"
    else if type.isArray && type.isOpaque then
      let length ← c.opaqueArrayLength type
      match type.parent with
      | none => .error (.internal .arrayTypeWithoutElement)
      | some element => return s!"array<{← typeNameWithin fuel element var}, {length}>"
    else
      match type.base with
      | .struct => return c.program.plainName type.baseId
      | .image | .sampledImage =>
        match type.image with
        | none => .error (.internal .imageWithoutInfo)
        | some image =>
          let base := var.map c.baseVariable
          let texture ← c.textureName image base
          let sampled ← typeNameWithin fuel image.sampledType none
          return s!"{texture}<{sampled}{c.accessText type image base}>"
      | .sampler => return "sampler"
      | .void => return "void"
      | base => TypeName.numeric base type.components type.columns

def typeNameFor (id : Id) (var : Option Id) : Except Fault String :=
  c.typeNameWithin c.program.depth id var

def typeName (id : Id) : Except Fault String := c.typeNameFor id none

def arraySuffix (type : ValueType) : String :=
  if type.isOpaque then ""
  else
    String.join (type.dimensions.reverse.map fun
      | .literal 0 => "[1]"
      | .literal count => s!"[{count}]"
      | .spec constant => s!"[{c.program.plainName constant}]")

def declaration (type : Id) (name : String) : Except Fault String := do
  let (data, pointee) ← c.program.pointee type
  return s!"{← c.typeName data} {name}{c.arraySuffix pointee}"

def isReadOnlyBuffer (var : Id) : Except Fault Bool := do
  let base := c.baseVariable var
  if c.program.hasDecoration base .nonWritable then return true
  let (_, type) ← c.program.dataType base
  if !type.isStruct then return false
  let count := (← c.program.getType type.baseId).members.length
  return 0 < count &&
    (List.range count).all fun member =>
      c.program.hasMemberDecoration type.baseId member .nonWritable

def argumentSpace (var : Id) : Except Fault ArgumentSpace := do
  let type ← c.program.getType (← c.program.getVariable var).type
  let space := c.addressSpace type
  if space = .device && type.storage ≠ .output then
    return { space, readOnly := ← c.isReadOnlyBuffer var }
  return { space }

inductive Passing
  | value
  | reference
  | handle

def argumentDeclaration (parameter : Parameter) : Except Fault String := do
  let var ← c.program.getVariable parameter.id
  let type ← c.program.getType parameter.type
  let (data, pointee) ← c.program.pointee parameter.type
  let name :=
    if parameter.threaded then c.nameOf (var.base.getD parameter.id) else c.nameOf parameter.id
  let isOpaqueArray := pointee.isArray && pointee.isOpaque
  let readOnly := !parameter.threaded && type.pointer && parameter.id ∉ c.plan.written
  let const := if readOnly || isOpaqueArray then "const " else ""
  let builtin := c.program.builtin? parameter.id
  let spelled ←
    match builtin with
    | some builtin => c.builtinType builtin
    | none => do
      let spelled ← c.typeNameFor data (some parameter.id)
      let isBufferArray :=
        (type.storage = .uniform || type.storage = .storageBuffer) && pointee.isArray
      pure (if isBufferArray then spelled ++ "*" else spelled)
  let passing : Passing :=
    if type.storage = .uniformConstant then .handle
    else if builtin.isNone && !type.pointer &&
        (type.storage = .function || type.storage = .generic) then .value
    else .reference
  let suffix := c.arraySuffix pointee
  match passing, pointee.isArray, pointee.isOpaque with
  | .value, true, _ => return s!"thread const {const}{spelled} (&{name}){suffix}"
  | .value, false, _ => return s!"{const}{spelled} {name}"
  | _, true, false => return s!"{const}{spelled} (&{name}){suffix}"
  | .reference, _, _ => return s!"{const}{spelled}& {name}"
  | .handle, _, _ => return s!"{const}{spelled} {name}"

end Compiler

end SpirvMetal
