import SpirvMetal.Metal.Usage

/-!
The scan at the start of each pass: it registers what the code will need before the header is
written.
-/

namespace SpirvMetal

open Spirv (Op GlslOp)

def Spirv.GlslOp.helper? : GlslOp → Option Helper
  | .radians => some .radians
  | .degrees => some .degrees
  | .findILsb => some .findILsb
  | .findSMsb => some .findSMsb
  | .findUMsb => some .findUMsb
  | .sSign => some .sign
  | _ => none

namespace Emit

def atomicHeader : String := "#include <metal_atomic>"

def requireArrayCopy (depth : Nat) : Emit Unit := do
  if depth = 0 then return ()
  else if Helper.maxArrayDepth < depth then fail (.unsupported .deepArray)
  else requireHelper (.arrayCopy depth)

def noteWriteThrough (pointer : Id) : Emit Unit := do
  let storage := (← (← get).program.expressionType pointer).storage
  if storage = .uniform || storage = .storageBuffer then
    modifyPass ({ · with writesResources := true })

def scanExtended (inst : Instruction) : Emit Unit := do
  let program := (← get).program
  match inst.word? 0, inst.word? 2, inst.word? 3 with
  | some type, some imported, some number =>
    if program.importedSetAt? imported = some .glslStd450 then
      match GlslOp.ofCode? number with
      | some .matrixInverse =>
        let type ← program.getType type
        (Helper.inverse? type.columns).forM requireHelper
      | some op => op.helper?.forM requireHelper
      | none => return ()
  | _, _, _ => return ()

def resultType? (inst : Instruction) : Emit (Option ValueType) := do
  match inst.word? 0 with
  | some type => return some (← (← get).program.getType type)
  | none => return none

def scanInstruction (inst : Instruction) : Emit Unit := do
  let c ← get
  match inst.op with
  | .fMod => requireHelper .mod
  | .functionCall =>
    requirePragma prototypesPragma
    if let some type ← resultType? inst then requireArrayCopy type.dimensions.length
  | .store =>
    if let some value := inst.word? 1 then
      requireArrayCopy (← c.program.expressionType value).dimensions.length
    if let some pointer := inst.word? 0 then noteWriteThrough pointer
  | .load =>
    if let some type ← resultType? inst then
      if !type.isOpaque then requireArrayCopy type.dimensions.length
  | .compositeConstruct =>
    if let some type ← resultType? inst then requireArrayCopy (type.dimensions.length - 1)
  | .imageFetch | .imageRead | .imageWrite =>
    if inst.op = .imageWrite then modifyPass ({ · with writesResources := true })
    if let some image := inst.image? then
      if (← c.program.expressionType image).dim? = some .dimBuffer then
        requireHelper .texelBufferCoords
    if inst.op = .imageFetch && c.options.swizzleTextures then requireHelper .textureSwizzle
  | .extInst => scanExtended inst
  | op =>
    if op.isSample then
      if c.options.swizzleTextures then requireHelper .textureSwizzle
    else if op.isAtomic then
      modifyPass ({ · with usesAtomics := true })
      requireHeader atomicHeader
      requirePragma unusedVariablePragma
      if op ≠ .atomicLoad then
        if let some pointer := inst.atomicPointer? then noteWriteThrough pointer

def scan : Emit Unit := do
  let order := (← get).plan.callGraph.order
  if 1 < order.length then requirePragma prototypesPragma
  for function in order do
    for inst in (← (← get).program.getFunction function).instructions do
      scanInstruction inst
  let c ← get
  if c.pass.writesResources && c.plan.model = .vertex then
    modifyPlan ({ · with rasterizationDisabled := true })

end Emit

end SpirvMetal
