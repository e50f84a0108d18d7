import SpirvMetal.Metal.Function
import SpirvMetal.Metal.Globals

/-!
Signatures of functions, and of the entry point with its resources.
-/

namespace SpirvMetal

open Spirv (ExecutionModel StorageClass)

namespace Compiler

variable (c : Compiler)

def parameterText (parameter : Parameter) : Except Fault String := do
  let space := (← c.argumentSpace parameter.id).text
  let declaration ← c.argumentDeclaration parameter
  let first := if space.isEmpty then declaration else s!"{space} {declaration}"
  let (_, type) ← c.program.pointee parameter.type
  let sampler ←
    if needsSampler type then pure [s!"thread const sampler {← c.samplerText parameter.id}"]
    else pure []
  let swizzle ←
    if ← c.needsSwizzle parameter.type then
      pure [s!"constant uint32_t& {← c.swizzleText parameter.id}"]
    else pure []
  return ", ".intercalate ([first] ++ sampler ++ swizzle)

def functionSignature (id : Id) : Except Fault String := do
  let function ← c.program.getFunction id
  if (← c.program.getType function.returnType).isArray then
    .error (.unsupported .returnedArray)
  let parameters ← function.parameters.mapM c.parameterText
  let returned ← c.typeName function.returnType
  return applied s!"{returned} {c.program.plainName id}" parameters

def stageQualifier : Except Fault String := do
  match c.plan.model with
  | .vertex => return "vertex"
  | .fragment =>
    if .earlyFragmentTests ∈ (← c.program.entryPoint).modes then
      return "fragment [[ early_fragment_tests ]]"
    else return "fragment"
  | .glCompute | .kernel => return "kernel"
  | other => .error (.unsupported (.executionModel other))

def bufferCount (type : ValueType) : Except Fault Nat :=
  match type.dimensions with
  | [] => .error .aborted
  | [dimension] =>
    match c.program.dimensionLength dimension with
    | 0 => .error (.unsupported .unsizedBufferArray)
    | count => .ok count
  | _ => .error (.unsupported .nestedBufferArray)

def activeWith (accepts : StorageClass → Bool) : List Id :=
  let found := c.program.vars.filter fun (id, var) =>
    accepts var.storage && id ∈ c.plan.activeVariables
  sortBy (· ≤ ·) (found.map (·.1))

end Compiler

structure ResourceArgument where
  rank : Nat
  slot : Nat
  text : String

def ResourceArgument.before (a b : ResourceArgument) : Bool :=
  if a.rank = b.rank then a.slot ≤ b.slot else a.rank ≤ b.rank

namespace Emit

def bufferArguments (var : Id) (type : ValueType) : Emit (List ResourceArgument) := do
  let c ← get
  let name := c.program.plainName var
  if (← c.program.getType type.baseId).members.isEmpty then return []
  let space := (← c.argumentSpace var).text
  let struct ← c.typeName type.baseId
  let index ← slot var .buffer
  if type.isArray then
    let count ← c.bufferCount type
    return (List.range count).map fun i =>
      ⟨0, index + i, s!"{space} {struct}* {name}_{i} [[buffer({index + i})]]"⟩
  else return [⟨0, index, s!"{space} {struct}& {name} [[buffer({index})]]"⟩]

def textureArguments (var data : Id) (type : ValueType) : Emit (List ResourceArgument) := do
  let name := (← get).program.plainName var
  let index ← slot var .texture
  let c ← get
  let texture ← c.typeNameFor data (some var)
  let rank := if type.base = .sampledImage then 2 else 1
  let argument : ResourceArgument := ⟨rank, index, s!"{texture} {name} [[texture({index})]]"⟩
  if Compiler.needsSampler type then
    let sampler ← slot var .sampler
    let samplerType :=
      match type.dimensions.head? with
      | some dimension => s!"array<sampler, {c.program.dimensionLength dimension}>"
      | none => "sampler"
    return [argument, ⟨3, sampler, s!"{samplerType} {name}Smplr [[sampler({sampler})]]"⟩]
  else return [argument]

def samplerArguments (var data : Id) : Emit (List ResourceArgument) := do
  let index ← slot var .sampler
  let c ← get
  let spelled ← c.typeNameFor data (some var)
  return [⟨3, index, s!"{spelled} {c.program.plainName var} [[sampler({index})]]"⟩]

def resourceArguments (var : Id) : Emit (List ResourceArgument) := do
  let (data, type) ← (← get).program.dataType var
  match type.base with
  | .struct => bufferArguments var type
  | .image | .sampledImage => textureArguments var data type
  | .sampler => samplerArguments var data
  | _ => return []

def entryArguments : Emit (List String) := do
  let c ← get
  let stageIn ←
    match c.plan.stageIn with
    | some var =>
      pure [s!"{← c.structNameOf var} {c.program.plainName var} [[stage_in]]"]
    | none => pure []
  let resources ← (c.activeWith StorageClass.isBuffer).mapM resourceArguments
  let sorted := sortBy ResourceArgument.before resources.flatten
  let c ← get
  let builtins ← c.builtinArguments.mapM fun (var, builtin) => do
    let type ← c.builtinType builtin
    return s!"{type} {c.program.plainName var} [[{← c.builtinAttribute builtin}]]"
  let capture ←
    match c.capturesOutput, c.plan.stageOut with
    | true, some out =>
      pure [
        s!"device {← c.structNameOf out}* spvOut [[buffer({c.options.outputBufferIndex})]]",
        "device uint* spvIndirectParams " ++
          s!"[[buffer({c.options.indirectParamsBufferIndex})]]"]
    | _, _ => pure []
  return stageIn ++ sorted.map (·.text) ++ builtins ++ capture

def entrySignature : Emit String := do
  let c ← get
  let qualifier ← c.stageQualifier
  let returned ←
    match c.returnsOutput, c.plan.stageOut with
    | true, some out => c.structNameOf out
    | _, _ => pure "void"
  let arguments ← entryArguments
  let name := (← get).program.plainName c.plan.entry
  return applied s!"{qualifier} {returned} {name}" arguments

def bufferArray (var : Id) : Emit Unit := do
  let c ← get
  let (_, type) ← c.program.dataType var
  let struct ← c.typeName type.baseId
  let space := (← c.argumentSpace var).text
  let count ← c.bufferCount type
  let name := c.program.plainName var
  statement s!"{space} {struct}* {name}[] ="
  beginScope
  (List.range count).forM fun i => statement s!"{name}_{i},"
  endDeclaration
  statement ""

def bufferArrays : Emit Unit := do
  let c ← get
  ((c.activeWith (· ≠ .function)).filter c.isBufferArray).forM bufferArray

def function (id : Id) : Emit Unit := do
  modifyPass ({ · with currentFunction := some id })
  distinguish id
  let c ← get
  let isEntry := decide (id = c.plan.entry)
  statement (← if isEntry then entrySignature else c.functionSignature id)
  beginScope
  (← (← get).program.getFunction id).locals.forM localVariable
  if isEntry then
    bufferArrays
    (← (← get).program.getFunction id).fixupsIn.forM fixup
  body id
  endScope
  statement ""
  modifyPass ({ · with currentFunction := none })

end Emit

end SpirvMetal
