import SpirvMetal.Metal.Instruction.ImageOperands
import SpirvMetal.Metal.Instruction.Value

/-!
Image instructions: samples, gathers, fetches, reads, writes and queries.
-/

namespace SpirvMetal

open Spirv (Op Dim Decoration BuiltIn)

namespace Spirv.Op

def isFetch : Op → Bool
  | .imageFetch | .imageRead => true
  | _ => false

def isGather : Op → Bool
  | .imageGather | .imageDrefGather => true
  | _ => false

def isProjection : Op → Bool
  | .imageSampleProjImplicitLod | .imageSampleProjExplicitLod | .imageSampleProjDrefImplicitLod
  | .imageSampleProjDrefExplicitLod => true
  | _ => false

def isImage (op : Op) : Bool :=
  op.isSample ||
    match op with
    | .sampledImage | .image | .imageRead | .imageWrite | .imageQuerySize | .imageQuerySizeLod
    | .imageQueryLevels | .imageQuerySamples | .imageQueryLod | .imageTexelPointer => true
    | _ => false

end Spirv.Op

/-- How many components a coordinate has, and which follows them: the array layer, or what the
coordinate is divided by. -/
def Spirv.Dim.coordinate : Dim → Except Fault (Nat × String)
  | .dim1D => .ok (1, ".y")
  | .dim2D | .dimRect => .ok (2, ".z")
  | .dim3D | .dimCube => .ok (3, ".w")
  | other => .error (.internal (.coordinateLayout other))

def leadingLetters (count : Nat) : String := String.join ((List.range count).map componentLetter)

namespace Compiler

variable (c : Compiler)

def imageInfo (image : Id) : Except Fault ImageInfo := do
  let type ← c.program.expressionType image
  let type ←
    match type.base, type.image, type.parent with
    | .sampledImage, none, some parent => c.program.getType parent
    | _, _, _ => pure type
  match type.image with
  | some info => return info
  | none => .error (.internal (.notImage image))

def isDepthTexture (image : Id) (info : ImageInfo) : Bool :=
  info.depth ||
    (c.backingVariable? image).any fun var => c.baseVariable var ∈ c.plan.comparisonImages

def isZero (id : Id) : Bool :=
  (c.program.constantAt? id).any fun constant =>
    !constant.specialization && constant.word? = some 0

def rounded (coordinate : Id) (expression : String) : Except Fault String := do
  if (← c.program.expressionType coordinate).base.isFloat then return s!"round({expression})"
  else return expression

def fetchCoordinate (info : ImageInfo) (coordinate : Id) (text : String)
    (leading : Nat → String) : Except Fault (List String) := do
  let (count, type) :=
    match info.dim with
    | .dim1D => (1, "uint")
    | .dim3D => (3, "uint3")
    | _ => (2, "uint2")
  let place := s!"{type}({← c.rounded coordinate (leading count)})"
  if info.dim ≠ .dimCube then return [place]
  let face ← c.rounded coordinate s!"{text}.z"
  return [place, s!"uint({face})"]

/-- The coordinate of an image with a layout of its own: the coordinate itself, then what Metal takes
apart from it. -/
def plainCoordinate (info : ImageInfo) (coordinate : Id) (fetch projection : Bool)
    (text : String) (components : Nat) : Except Fault (List String) := do
  let (count, last) ← info.dim.coordinate
  let leading (n : Nat) := if n < components then s!"{text}.{leadingLetters n}" else text
  let place ←
    if fetch then c.fetchCoordinate info coordinate text leading
    else if projection then pure [s!"{leading count} / {text}{last}"]
    else pure [leading count]
  if info.arrayed && !projection then
    let layer := if fetch && info.dim = .dimCube then s!"{text}.w" else text ++ last
    return place ++ [s!"uint({← c.rounded coordinate layer})"]
  else return place

/-- The coordinate arguments of an access. Texel buffers are addressed through a helper, subpass
inputs by the position of the fragment. -/
def coordinateArguments (info : ImageInfo) (coordinate : Id) (fetch projection : Bool) :
    Except Fault (List String) := do
  let text ← c.textOf coordinate
  let components := (← c.program.expressionType coordinate).components
  match info.dim with
  | .dimBuffer =>
    let index := if 1 < components then s!"{text}.x" else text
    return [s!"spvTexelBufferCoord({← c.rounded coordinate index})"]
  | .dimSubpassData =>
    let position ←
      match c.plan.builtinInputs.find? .fragCoord with
      | some var => c.textOf var
      | none => pure (Builtin.name .fragCoord)
    let place := s!"uint2({position}.xy)"
    return if info.multisampled then [place] else [place, "0"]
  | _ => c.plainCoordinate info coordinate fetch projection text components

structure ImageAccess where
  op : Op
  image : Id
  coordinate : Id
  info : ImageInfo
  extra : Option Id
  operands : ImageOperands

def comparesAtZero (access : ImageAccess) : Bool := access.op.isComparison && c.options.isMacos

def hasLevels (access : ImageAccess) : Bool := access.info.dim ≠ .dim1D

def referenceArgument (access : ImageAccess) : Except Fault (List String) := do
  match access.op.isComparison, access.extra with
  | true, some reference =>
    let value ← c.textOf reference
    if access.op.isProjection then
      let (_, last) ← access.info.dim.coordinate
      return [s!"{value} / {← c.textOf access.coordinate}{last}"]
    else return [value]
  | _, _ => return []

def biasArgument (access : ImageAccess) : Except Fault (List String) := do
  match access.operands.bias with
  | none => return []
  | some bias =>
    if c.comparesAtZero access then
      if c.isZero bias then return [] else .error (.unsupported .compareBias)
    else if hasLevels access then return [s!"bias({← c.textOf bias})"]
    else return []

def levelArgument (access : ImageAccess) : Except Fault (List String) := do
  match access.operands.lod with
  | some lod =>
    if access.op.isFetch then
      if hasLevels access then return [← c.textOf lod] else return []
    else if c.comparesAtZero access then
      if c.isZero lod then return ["level(0)"] else .error (.unsupported .compareLevel)
    else if hasLevels access then return [s!"level({← c.textOf lod})"]
    else return []
  | none =>
    let info := access.info
    if access.op = .imageFetch && hasLevels access && info.dim ≠ .dimBuffer &&
        !info.multisampled && info.sampled ≠ 2 then return ["0"]
    else return []

def gradientName? : Dim → Option String
  | .dim2D => some "gradient2d"
  | .dim3D => some "gradient3d"
  | .dimCube => some "gradientcube"
  | _ => none

def gradientArgument (access : ImageAccess) : Except Fault (List String) := do
  match access.operands.gradient with
  | none => return []
  | some (dx, dy) =>
    if c.comparesAtZero access then
      if c.isZero dx && c.isZero dy then return ["level(0)"]
      else .error (.unsupported .compareGradient)
    else
      match gradientName? access.info.dim with
      | none => return []
      | some name =>
        let first ← c.textOf dx
        return [s!"{name}({first}, {← c.textOf dy})"]

def offsetArgument (access : ImageAccess) : Except Fault (List String) := do
  match access.operands.offset with
  | none => return []
  | some offset =>
    let text ← c.textOf offset
    let components := (← c.program.expressionType offset).components
    match access.info.dim with
    | .dim2D => return [if 2 < components then s!"{text}.xy" else text]
    | .dim3D => return [if 3 < components then s!"{text}.xyz" else text]
    | _ => return []

def componentArguments (access : ImageAccess) (hasOffset : Bool) : Except Fault (List String) := do
  if access.op ≠ .imageGather then return []
  let component ←
    match access.extra with
    | some id => c.program.constantWord id
    | none => pure 0
  let offset := if access.info.dim = .dim2D && !hasOffset then ["int2(0)"] else []
  return offset ++ [s!"component::{componentLetter component}"]

def accessArguments (access : ImageAccess) : Except Fault (List String) := do
  let coordinates ← c.coordinateArguments access.info access.coordinate access.op.isFetch
    access.op.isProjection
  let reference ← c.referenceArgument access
  let bias ← c.biasArgument access
  let level ← c.levelArgument access
  let gradient ← c.gradientArgument access
  let offset ← c.offsetArgument access
  let component ← c.componentArguments access !offset.isEmpty
  let sample ←
    match access.operands.sample with
    | some sample => pure [← c.textOf sample]
    | none => pure []
  return coordinates ++ reference ++ bias ++ level ++ gradient ++ offset ++ component ++ sample

def swizzledGather (access : ImageAccess) (type : Id) (image sampler : String)
    (arguments : List String) : Except Fault String := do
  let scalar ← c.typeName access.info.sampledType
  let base := (c.backingVariable? access.image).map c.baseVariable
  let texture ← c.typeNameFor type base
  let name :=
    if access.op.isComparison then "spvGatherCompareSwizzle" else "spvGatherSwizzle"
  let swizzle ← c.swizzleText access.image
  return applied s!"{name}<{scalar}, {texture}>" ([sampler, image] ++ arguments ++ [swizzle])

def sampleText (access : ImageAccess) : Except Fault String := do
  let op := access.op
  let sampler ← if op.isFetch then pure none else pure (some (← c.samplerText access.image))
  let arguments ← c.accessArguments access
  let image ← c.textOf access.image
  match c.program.typeOf? access.image with
  | none => .error (.internal (.imageWithoutType access.image))
  | some type =>
    let swizzles ← c.needsSwizzle type
    match op.isGather && swizzles, sampler with
    | true, some sampler => c.swizzledGather access type image sampler arguments
    | _, _ =>
      let method := if op.isFetch then "read" else if op.isGather then "gather" else "sample"
      let suffix := if op.isComparison then "_compare" else ""
      let call := applied s!"{image}.{method}{suffix}" (sampler.toList ++ arguments)
      if swizzles && !op.isComparison then
        return s!"spvTextureSwizzle({call}, {← c.swizzleText access.image})"
      else return call

def accessResult (access : ImageAccess) (type : Id) : Except Fault String := do
  let text ← c.sampleText access
  let op := access.op
  if !op.isComparison && !op.isGather && c.isDepthTexture access.image access.info then
    if 1 < (← c.program.getType type).components then
      return s!"{← c.typeName type}({text})"
  return text

def texelText (texel : Id) : Except Fault String := do
  let text ← c.textOf texel
  let type ← c.program.expressionType texel
  match type.components with
  | 1 => return s!"{← TypeName.numeric type.base 4 1}({text})"
  | 2 => return s!"{text}.xyyy"
  | 3 => return s!"{text}.xyzz"
  | _ => return text

def sizeText (type image : Id) (level : Option Id) : Except Fault String := do
  let info ← c.imageInfo image
  let text ← c.textOf image
  let level ←
    match level with
    | some lod =>
      if !info.multisampled && info.dim ≠ .dimBuffer && !c.isZero lod then c.textOf lod
      else pure ""
    | none => pure ""
  if info.dim = .dimBuffer then
    return s!"{← c.typeName type}({text}.get_width() * {text}.get_height())"
  let height := info.dim = .dim2D || info.dim = .dim3D || info.dim = .dimCube || info.dim = .dimRect
  let parts :=
    [s!"{text}.get_width({level})"] ++
    (if height then [s!"{text}.get_height({level})"] else []) ++
    (if info.dim = .dim3D then [s!"{text}.get_depth({level})"] else []) ++
    (if info.arrayed then [s!"{text}.get_array_size()"] else [])
  return applied (← c.typeName type) parts

end Compiler

namespace Emit

/-- Drop the access restriction of the variable behind an image. Its declaration has been written
already, so that the pass is stale. -/
def noteImageAccess (image : Id) (restriction : Decoration) : Emit Unit := do
  let c ← get
  if let some var := c.backingVariable? image then
    let var := c.baseVariable var
    if c.program.hasDecoration var restriction then
      modifyProgram (·.unsetDecoration var restriction)
      modifyPass ({ · with stale := true })

def imageAccess (inst : Instruction) : Emit Unit := do
  if inst.words.length < 4 then fail (.internal (.atLeastFour inst.op))
  let image ← word inst 2
  let info ← (← get).imageInfo image
  let hasExtra := inst.op.isComparison || inst.op = .imageGather
  let extra := if hasExtra then inst.word? 4 else none
  let operands ← ImageOperands.ofWords (inst.words.drop (if hasExtra then 5 else 4))
  if inst.op = .imageRead then noteImageAccess image .nonReadable
  let type ← word inst 0
  let text ← (← get).accessResult
    { op := inst.op, image, coordinate := ← word inst 3, info, extra, operands } type
  define type (← word inst 1) text

def imageWrite (inst : Instruction) : Emit Unit := do
  if inst.words.length < 3 then fail (.internal .imageWriteOperands)
  let image ← word inst 0
  let info ← (← get).imageInfo image
  let operands ← ImageOperands.ofWords (inst.words.drop 3)
  noteImageAccess image .nonWritable
  let c ← get
  let texel ← c.texelText (← word inst 2)
  let coordinates ← c.coordinateArguments info (← word inst 1) true false
  let level ←
    match operands.lod with
    | some lod =>
      if info.dim = .dim1D || info.dim = .dimBuffer then pure [] else pure [← c.textOf lod]
    | none => pure []
  let arguments := [texel] ++ coordinates ++ level
  statement (applied s!"{← c.textOf image}.write" arguments ++ ";")

def sampledImage (inst : Instruction) : Emit Unit := do
  if inst.words.length < 4 then fail (.internal .sampledImageOperands)
  let result ← word inst 1
  let image ← word inst 2
  let sampler ← word inst 3
  setText result (← text image)
  setBacking result image
  modifyPass fun pass =>
    { pass with sampledImages := pass.sampledImages.insert result (image, sampler) }

def imageOf (inst : Instruction) : Emit Unit := do
  if inst.words.length < 3 then fail (.internal .imageOperands)
  let result ← word inst 1
  let combined ← word inst 2
  let image :=
    match (← get).pass.sampledImages.find? combined with
    | some (image, _) => image
    | none => combined
  forward result image (← text image)

def imageSize (inst : Instruction) : Emit Unit := do
  if inst.words.length < 3 then fail (.internal (.atLeastThree inst.op))
  let type ← word inst 0
  define type (← word inst 1) (← (← get).sizeText type (← word inst 2) (inst.word? 3))

def imageCount (inst : Instruction) (method : String) : Emit Unit := do
  if inst.words.length < 3 then fail (.internal (.threeOperands inst.op))
  let type ← word inst 0
  let name ← typeName type
  define type (← word inst 1) s!"{name}({← text (← word inst 2)}.{method}())"

def image (inst : Instruction) : Emit Unit :=
  match inst.op with
  | .sampledImage => sampledImage inst
  | .image => imageOf inst
  | .imageWrite => imageWrite inst
  | .imageQuerySize | .imageQuerySizeLod => imageSize inst
  | .imageQueryLevels => imageCount inst "get_num_mip_levels"
  | .imageQuerySamples => imageCount inst "get_num_samples"
  | .imageQueryLod => fail (.unsupported .queryLod)
  | .imageTexelPointer => fail (.unsupported .imageAtomic)
  | _ => imageAccess inst

end Emit

end SpirvMetal
