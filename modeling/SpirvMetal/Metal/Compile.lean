import SpirvMetal.Metal.Implicit
import SpirvMetal.Metal.ModuleScope
import SpirvMetal.Metal.Scan
import SpirvMetal.Metal.Signature

/-!
Compilation. The program is prepared once; then passes write the text until a pass discovers nothing
that belongs ahead of what it has already written.
-/

namespace SpirvMetal

open Spirv (BuiltIn)

namespace Emit

def paragraph (lines : List String) : Emit Unit := do
  lines.forM statement
  if !lines.isEmpty then statement ""

def header : Emit Unit := do
  let session := (← get).session
  paragraph session.pragmas
  paragraph (["#include <metal_stdlib>", "#include <simd/simd.h>"] ++ session.headers)
  paragraph ["using namespace metal;"]
  paragraph session.typedefs
  modifyPass ({ · with headerWritten := true })

def entryFixups : Emit Unit := do
  let c ← get
  let images ←
    if c.plan.auxBuffer.isSome then
      (c.activeWith (· = .uniformConstant)).filterM fun var => do
        let (_, type) ← c.program.dataType var
        return type.base = .image || type.base = .sampledImage
    else pure []
  let position := (c.plan.builtinInputs.find? .samplePosition).filter
    (· ∈ c.plan.activeVariables)
  let fixups := images.map Fixup.bindSwizzleConstant ++
    position.toList.map Fixup.computeSamplePosition
  modifyEntry fun f => { f with fixupsIn := f.fixupsIn ++ fixups }

def survey : Emit Unit := do
  let point ← (← get).program.entryPoint
  modifyPlan ({ · with entry := point.id, model := point.model })
  updateProgram (·.legalizeNames point.id)
  let program := (← get).program
  let callGraph ← program.callGraph point.id
  modifyPlan ({ · with callGraph })
  let activeVariables ← program.activeVariables point.id
  modifyPlan ({ · with activeVariables })
  let activeBuiltins ← program.activeBuiltins point.id
  modifyPlan ({ · with activeBuiltins })
  let c ← get
  modifyPlan
    ({ · with rasterizationDisabled := c.options.disableRasterization || c.capturesOutput })
  noteAllSampling
  implicitInputs
  closeStorageImages
  noteWritten
  modifyPlan ({ · with position := "" })
  let stageOut ← interface .output
  modifyPlan ({ · with stageOut })
  let stageIn ← interface .input
  modifyPlan ({ · with stageIn })
  if point.model = .vertex && stageOut.isNone then
    modifyPlan ({ · with rasterizationDisabled := true })
  localizeGlobals

def prepare : Emit Unit := do
  survey
  threadGlobals
  layoutStructs
  entryFixups

def interfaceStruct (var : Id) : Emit Unit := do
  struct (← (← get).program.dataType var).1

def contents : Emit Unit := do
  constantsAndStructs
  moduleConstants
  let plan := (← get).plan
  plan.stageOut.forM interfaceStruct
  plan.stageIn.forM interfaceStruct
  helpers
  plan.callGraph.order.forM function

def pass : Emit Unit := do
  scan
  header
  contents

def afresh (c : Compiler) : Compiler := { c with pass := {}, passCount := c.passCount + 1 }

def maxPasses : Nat := 3

abbrev Compilation := EStateM Error Compiler

instance : MonadLift Emit Compilation where
  monadLift step := fun c =>
    match step c with
    | .ok value c => .ok value c
    | .error fault c => .error fault c

/-- Run passes until one is not stale; `left` more are allowed. -/
def passes : (left : Nat) → Compilation Unit
  | 0 => throw (.internal (.tooManyPasses maxPasses))
  | left + 1 => do
    modify afresh
    pass
    if (← get).pass.stale then passes left

/-- Compile the entry point and give the text. The program is prepared by the first compilation
that gets that far. -/
def compile : Compilation String := do
  if !(← get).prepared then
    prepare
    modify ({ · with prepared := true })
  modify ({ · with passCount := 0 })
  passes maxPasses
  return (← get).output

end Emit

end SpirvMetal
