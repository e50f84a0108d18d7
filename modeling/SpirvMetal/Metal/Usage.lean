import SpirvMetal.Metal.Compiler

/-!
How variables are used: which are written, which images are sampled and how. Values that were loaded
or derived from a variable are followed back to it.
-/

namespace SpirvMetal

open Spirv (Op StorageClass Dim)

namespace Spirv.Op

def isSample : Op → Bool
  | .imageSampleImplicitLod | .imageSampleExplicitLod | .imageSampleDrefImplicitLod
  | .imageSampleDrefExplicitLod | .imageSampleProjImplicitLod | .imageSampleProjExplicitLod
  | .imageSampleProjDrefImplicitLod | .imageSampleProjDrefExplicitLod | .imageFetch | .imageGather
  | .imageDrefGather => true
  | _ => false

def isComparison : Op → Bool
  | .imageSampleDrefImplicitLod | .imageSampleDrefExplicitLod | .imageSampleProjDrefImplicitLod
  | .imageSampleProjDrefExplicitLod | .imageDrefGather => true
  | _ => false

def isAtomic : Op → Bool
  | .atomicLoad | .atomicStore | .atomicExchange | .atomicCompareExchange
  | .atomicCompareExchangeWeak | .atomicIIncrement | .atomicIDecrement | .atomicIAdd | .atomicISub
  | .atomicSMin | .atomicUMin | .atomicSMax | .atomicUMax | .atomicAnd | .atomicOr
  | .atomicXor => true
  | _ => false

def derivesValue : Op → Bool
  | .load | .accessChain | .inBoundsAccessChain | .ptrAccessChain | .sampledImage | .image
  | .copyObject => true
  | _ => false

end Spirv.Op

namespace Instruction

def word? (inst : Instruction) (index : Nat) : Option Nat := inst.words[index]?

def image? (inst : Instruction) : Option Id :=
  if inst.op = .imageWrite then inst.word? 0 else inst.word? 2

def atomicPointer? (inst : Instruction) : Option Id :=
  if inst.op = .atomicStore then inst.word? 0 else inst.word? 2

def derivation? (inst : Instruction) : Option (Id × Id) :=
  match inst.op.derivesValue, inst.word? 1, inst.word? 2 with
  | true, some result, some source => some (result, source)
  | _, _, _ => none

end Instruction

def ValueType.isSampled (type : ValueType) : Bool :=
  type.base = .sampledImage || (type.base = .image && type.image.any (·.sampled = 1))

def ValueType.isStorageImage (type : ValueType) : Bool :=
  type.base = .image && type.image.any (·.sampled = 2)

namespace Program

variable (program : Program)

def instructionsOf (functions : List Id) : Except Fault (List Instruction) := do
  return (← functions.mapM program.getFunction).flatMap (·.instructions)

def valueSources (functions : List Id) : Except Fault (IdMap Id) := do
  let derivations := (← program.instructionsOf functions).filterMap (·.derivation?)
  return derivations.foldl (fun sources (result, source) => sources.insert result source) ∅

def traceWithin (sources : IdMap Id) : (steps : Nat) → Id → Option Id
  | 0, _ => none
  | steps + 1, id =>
    if (program.variableAt? id).isSome then some id
    else (sources.find? id).bind (traceWithin sources steps)

/-- The variable that a value was derived from. A chain without a repetition has at most one id more
than there are sources. -/
def traceVariable (sources : IdMap Id) (id : Id) : Option Id :=
  program.traceWithin sources (sources.size + 1) id

/-- The pointers that an instruction writes through. A call may write through all pointers that it
is given. -/
def writeTargets (inst : Instruction) : List Id :=
  match inst.op with
  | .store => (inst.word? 0).toList
  | .functionCall =>
    (inst.words.drop 3).filter fun argument =>
      match program.expressionType argument with
      | .ok type => type.pointer
      | .error _ => false
  | op => if op.isAtomic && op ≠ .atomicLoad then inst.atomicPointer?.toList else []

def writtenVariables (functions : List Id) : Except Fault (List Id) := do
  let sources ← program.valueSources functions
  let targets := (← program.instructionsOf functions).flatMap program.writeTargets
  return targets.filterMap (program.traceVariable sources)

def closeStorageImage (var : Id) : Except Fault Program := do
  let (_, type) ← program.dataType var
  if !type.isStorageImage || program.hasDecoration var .nonWritable ||
      program.hasDecoration var .nonReadable then
    return program
  return (program.setDecoration var .nonWritable 0).setDecoration var .nonReadable 0

end Program

namespace Emit

def noteSampling (sources : IdMap Id) (inst : Instruction) : Emit Unit := do
  if inst.op.isSample then
    if let some image := inst.image? then
      let c ← get
      let type ← c.program.expressionType image
      if type.isSampled then modifyPlan ({ · with usesSwizzle := true })
      if inst.op.isComparison then
        if let some var := c.program.traceVariable sources image then
          let var := c.baseVariable var
          modifyPlan fun plan =>
            { plan with comparisonImages := addNew plan.comparisonImages var }

def noteAllSampling : Emit Unit := do
  let c ← get
  if c.options.swizzleTextures then
    let order := c.plan.callGraph.order
    let sources ← c.program.valueSources order
    for inst in ← c.program.instructionsOf order do
      noteSampling sources inst

def closeStorageImages : Emit Unit := do
  for (var, _) in (← get).program.vars do
    updateProgram (·.closeStorageImage var)

def noteWritten : Emit Unit := do
  let c ← get
  let written ← c.program.writtenVariables c.plan.callGraph.order
  modifyPlan fun plan => { plan with written := written.foldl addNew plan.written }

end Emit

end SpirvMetal
