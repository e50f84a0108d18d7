import SpirvMetal.Metal.Flow.Hoist
import SpirvMetal.Metal.Flow.Structure
import SpirvMetal.Metal.Instruction

/-!
Functions: locals, the statements that an entry point starts and ends with, and bodies.
-/

namespace SpirvMetal

open Spirv (BuiltIn)

namespace Compiler

variable (c : Compiler)

def returnsOutput : Bool := c.plan.stageOut.isSome && !c.plan.rasterizationDisabled

def structNameOf (var : Id) : Except Fault String := do
  c.typeName (← c.program.dataType var).1

def localPart (var : Id) (member index : Option Nat) : Except Fault (String × Id) := do
  let (type, _) ← c.program.dataType var
  let name := c.program.plainName var
  let (text, type) ←
    match member with
    | none => pure (name, type)
    | some member =>
      let found ← c.program.getType type
      match found.members[member]? with
      | none => .error (.internal (.noMember found.baseId member))
      | some part =>
        pure (s!"{name}.{c.program.plainMemberName found.baseId member}", part)
  match index with
  | none => return (text, type)
  | some index =>
    match (← c.program.getType type).parent with
    | none => .error (.internal (.notIndexable type))
    | some part => return (s!"{text}[{index}]", part)

def interfacePart (var member : Nat) : Except Fault (String × Id) := do
  let (struct, type) ← c.program.dataType var
  match type.members[member]? with
  | none => .error (.internal (.noInterfaceMember struct member))
  | some part =>
    return (s!"{c.program.plainName var}.{c.program.plainMemberName struct member}", part)

def widenedText (text : String) (type : Id) (components : Nat) : Except Fault String := do
  let found ← c.program.getType type
  if components = 0 || components ≤ found.components || 1 < found.columns then return text
  let zero ← Literal.ofScalar found.base 0
  let parts := text :: List.replicate (components - found.components) zero
  return applied (← TypeName.numeric found.base components 1) parts

def captureInput (builtin : BuiltIn) : Except Fault String :=
  match c.plan.builtinInputs.find? builtin with
  | some var => .ok (c.program.plainName var)
  | none => .error (.internal (.builtinForCapture builtin))

end Compiler

namespace Emit

def assign (target value : String) : Emit Unit := statement s!"{target} = {value};"

def copyOut (var : Id) (member index : Option Nat) (block blockMember components : Nat) :
    Emit Unit := do
  let c ← get
  let (source, type) ← c.localPart var member index
  let (target, _) ← c.interfacePart block blockMember
  assign target (← c.widenedText source type components)

def fixup : Fixup → Emit Unit
  | .initializeOutput var => do
    let c ← get
    if let some value := (← c.program.getVariable var).initializer then
      assign (c.nameOf var) (← c.textOf value)
  | .copyInToLocal var member index block blockMember => do
    let c ← get
    let (target, targetType) ← c.localPart var member index
    let (source, sourceType) ← c.interfacePart block blockMember
    let name ← c.typeName targetType
    if name ≠ (← c.typeName sourceType) then assign target s!"{name}({source})"
    else assign target source
  | .copyLocalToOut var member index block blockMember components =>
    copyOut var member index block blockMember components
  | .padOutput var block blockMember components =>
    copyOut var none none block blockMember components
  | .bindCapturedOutput block => do
    let c ← get
    let vertex ← c.captureInput .vertexIndex
    let baseVertex ← c.captureInput .baseVertex
    let inst ← c.captureInput .instanceIndex
    let baseInstance ← c.captureInput .baseInstance
    let struct ← c.structNameOf block
    let index := s!"({inst} - {baseInstance}) * spvIndirectParams[0] + {vertex} - {baseVertex}"
    statement s!"device {struct}& {c.program.plainName block} = spvOut[{index}];"
  | .bindSwizzleConstant var => do
    match (← get).plan.auxBuffer with
    | none => fail (.internal .swizzleWithoutAux)
    | some aux =>
      let index ← slot var .texture
      let c ← get
      let name ← c.swizzleText var
      statement s!"constant uint32_t& {name} = {c.program.plainName aux}.swizzleConst[{index}];"
  | .computeSamplePosition var => do
    let c ← get
    match c.plan.builtinInputs.find? .sampleId with
    | none => fail (.internal .samplePositionWithoutId)
    | some sample =>
      statement (s!"float2 {c.program.plainName var} = " ++
        s!"get_sample_position({c.program.plainName sample});")

def positionFixups : Emit Unit := do
  let c ← get
  let p := c.plan.position
  if !p.isEmpty && c.plan.model = .vertex then
    if c.options.fixupClipSpace then
      statement s!"{p}.z = ({p}.z + {p}.w) * 0.5;       // Adjust clip-space for Metal"
    if c.options.flipVertexY then
      statement s!"{p}.y = -({p}.y);    // Invert Y-axis for Metal"

def returnFrom (value : Option Id) (last : Bool) : Emit Unit := do
  match value with
  | some value => statement s!"return {← text value};"
  | none => if !last then statement "return;"

def returnFromEntry (last : Bool) : Emit Unit := do
  let c ← get
  (← c.program.getFunction c.plan.entry).fixupsOut.forM fixup
  positionFixups
  match c.plan.stageOut with
  | some out =>
    if c.returnsOutput then statement s!"return {c.program.plainName out};"
    else if !last then statement "return;"
  | none => if !last then statement "return;"

def block (found : Block) : Emit Unit := do
  modifyPass ({ · with transposed := ∅ })
  found.body.forM instruction

def scope (part : Emit Unit) : Emit Unit := do
  beginScope
  part
  endScope

def condition (id : Id) (expected : Bool) : Emit Unit := do
  let value ← text id
  if expected then statement s!"if ({value})" else statement s!"if (!{enclose value})"

def listing (blocks : List Block) : Listing → Emit Unit
  | .skip => return ()
  | .seq first second => do
    listing blocks first
    listing blocks second
  | .block label => (blocks.find? (·.label = label)).forM block
  | .assign phi value => do assign (temporary phi) (← text value)
  | .when id expected arm => do
    condition id expected
    scope (listing blocks arm)
  | .branch id expected arm other => do
    condition id expected
    scope (listing blocks arm)
    statement "else"
    scope (listing blocks other)
  | .loop body => do
    statement "for (;;)"
    scope (listing blocks body)
  | .switch selector arms => do
    statement s!"switch ({← text selector})"
    scope (listing blocks arms)
  | .arm literals isDefault body => do
    literals.forM fun literal => statement s!"case {literal}:"
    if isDefault then statement "default:"
    scope (listing blocks body)
  | .leave => statement "break;"
  | .again => statement "continue;"
  | .ret value last => do
    if (← get).inEntry then returnFromEntry last else returnFrom value last
  | .discard => statement "discard_fragment();"

def hoist (id : Id) : Emit Unit := do
  let c ← get
  match c.program.typeOf? id with
  | none => fail (.internal (.resultWithoutType id))
  | some type =>
    statement s!"{← c.declaration type (temporary id)};"
    setText id (temporary id)

def body (function : Id) : Emit Unit := do
  let program := (← get).program
  let blocks := (← program.getFunction function).blocks
  match blocks with
  | [] => return ()
  | first :: _ =>
    let hoisted ← program.hoistedResults blocks
    hoisted.forM hoist
    modifyPass ({ · with hoisted })
    let listed := structureBlocks program blocks first.label
    listing blocks listed.listing
    listed.result

def localVariable (id : Id) : Emit Unit := do
  let c ← get
  let var ← c.program.getVariable id
  let (data, type) ← c.program.dataType id
  let name := c.program.plainName id
  if type.isOpaque then return ()
  else if some id = c.plan.stageOut then
    statement s!"{← c.typeName data} {name} = \x7b\x7d;"
  else
    let declaration ← c.declaration var.type name
    if var.storage = .workgroup then statement s!"threadgroup {declaration};"
    else
      match var.initializer with
      | none => statement s!"{declaration};"
      | some value =>
        let isConstant := (c.program.constantAt? value).isSome
        let text ← if type.isArray && isConstant then c.constantText value else c.textOf value
        statement s!"{declaration} = {text};"

/-- Give the parameters and locals of a function different names. Those whose name was taken before
get their id appended. -/
def distinguish (function : Id) : Emit Unit := do
  let found ← (← get).program.getFunction function
  let own := (found.parameters.filter (!·.threaded)).map (·.id)
  let _ ← (own ++ found.locals).foldlM (fun seen id => do
    let program := (← get).program
    let name := program.name id
    if name.isEmpty || (program.standIn? id).isSome then return seen
    else if name ∈ seen then
      let renamed := s!"{name}_{id}"
      modifyProgram (·.setName id renamed)
      return renamed :: seen
    else return name :: seen) ([] : List String)

end Emit

end SpirvMetal
