import SpirvMetal.Metal.Builtin
import SpirvMetal.Metal.Usage

/-!
Inputs that the generated code needs although the program does not declare them.
-/

namespace SpirvMetal

open Spirv (BuiltIn)

namespace ValueType

def scalar (base : BaseType) (width : Nat) : ValueType := { base, width }

def vector (base : BaseType) (width components : Nat) : ValueType := { base, width, components }

end ValueType

namespace Program

variable (program : Program)

def addBuiltinInput (builtin : BuiltIn) (type : ValueType) : Id × Program :=
  let (first, program) := program.reserve 3
  let type := { type with baseId := first }
  let program := program.set first (.type type)
  let program := program.set (first + 1) (.type (type.pointerTo first .input))
  let var : Variable := { type := first + 1, storage := .input, builtin := true }
  let program := program.set (first + 2) (.variable var)
  let program := program.setDecoration (first + 2) .builtIn builtin.code
  (first + 2, program.setName (first + 2) (Builtin.name builtin))

def addAuxBuffer (slot : Nat) : Id × Program :=
  let (uint, program) := program.reserve 5
  let array := uint + 1
  let struct := uint + 2
  let pointer := uint + 3
  let var := uint + 4
  let element := { ValueType.scalar .uint 32 with baseId := uint }
  let block := { ValueType.scalar .struct 0 with members := [array], baseId := struct }
  let buffer : Variable := { type := pointer, storage := .uniform }
  let program := program.set uint (.type element)
  let program := program.set array (.type (element.arrayOf uint (.literal 0)))
  let program := program.set struct (.type block)
  let program := program.set pointer (.type (block.pointerTo struct .uniform))
  let program := program.set var (.variable buffer)
  let program := program.setDecoration array .arrayStride 4
  let program := program.setDecoration struct .block 0
  let program := program.setName struct "spvAux"
  let program := program.setMemberName struct 0 "swizzleConst"
  let program := program.setMemberDecoration struct 0 .offset 0
  let program := program.setName var "spvAuxBuffer"
  let program := program.setDecoration var .descriptorSet Options.auxBufferSet
  (var, program.setDecoration var .binding slot)

def builtinInputs : List (Id × BuiltIn) :=
  (program.vars.filter (·.2.storage = .input)).filterMap fun (id, _) =>
    (program.builtin? id).map (id, ·)

end Program

namespace Compiler

variable (c : Compiler)

def usesSubpassInput : Except Fault Bool :=
  c.plan.activeVariables.foldlM
    (fun found var =>
      if found then .ok true
      else return (← c.program.dataType var).2.dim? = some .dimSubpassData)
    false

def wantedBuiltins : Except Fault (List (BuiltIn × ValueType)) := do
  let uint := ValueType.scalar .uint 32
  let subpass ← if c.plan.model = .fragment then c.usesSubpassInput else .ok false
  let coordinate := if subpass then [(.fragCoord, .vector .float 32 4)] else []
  let sample := if .samplePosition ∈ c.plan.activeBuiltins.inputs then [(.sampleId, uint)] else []
  let capture :=
    if c.capturesOutput then
      [.vertexIndex, .baseVertex, .instanceIndex, .baseInstance].map (·, uint)
    else []
  return coordinate ++ sample ++ capture

end Compiler

namespace Emit

def ensureBuiltin (builtin : BuiltIn) (type : ValueType) : Emit Unit := do
  let c ← get
  let var ←
    match c.plan.builtinInputs.find? builtin with
    | some existing => pure existing
    | none =>
      let (var, program) := c.program.addBuiltinInput builtin type
      set { c with program }
      modifyPlan fun plan => { plan with builtinInputs := plan.builtinInputs.insert builtin var }
      pure var
  modifyPlan fun plan =>
    { plan with
      activeVariables := addNew plan.activeVariables var
      activeBuiltins := plan.activeBuiltins.add .input builtin }

def implicitInputs : Emit Unit := do
  let c ← get
  let wanted ← c.wantedBuiltins
  for (id, builtin) in c.program.builtinInputs do
    modifyPlan fun plan =>
      if plan.builtinInputs.contains builtin then plan
      else { plan with builtinInputs := plan.builtinInputs.insert builtin id }
  for (builtin, type) in wanted do
    ensureBuiltin builtin type
  for (id, builtin) in (← get).program.builtinInputs do
    modifyProgram (·.setName id (Builtin.name builtin))
  let c ← get
  if c.plan.usesSwizzle then
    let (var, program) := c.program.addAuxBuffer c.options.auxBufferIndex
    set { c with program }
    modifyPlan fun plan =>
      { plan with
        activeVariables := addNew plan.activeVariables var, auxBuffer := some var }

end Emit

end SpirvMetal
