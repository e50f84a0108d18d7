import SpirvMetal.Metal.Session
import SpirvMetal.Options.Basic
import SpirvMetal.Program.Active

/-!
The state of a compilation: the program, what was planned for it once, what all passes have
discovered, and what the current pass has written.
-/

namespace SpirvMetal

open Spirv (Op BuiltIn ExecutionModel)

inductive SlotKind
  | buffer | texture | sampler
deriving DecidableEq

structure Line where
  depth : Nat
  text : String

def Line.render (line : Line) : String :=
  if line.text.isEmpty then "\n"
  else String.join (List.replicate line.depth "    ") ++ line.text ++ "\n"

structure Pass where
  lines : Array Line := #[]
  depth : Nat := 0
  stale : Bool := false
  headerWritten : Bool := false
  nextBuffer : Nat := 0
  nextTexture : Nat := 0
  nextSampler : Nat := 0
  slots : Assoc (Id × SlotKind) Nat := ∅
  /-- Texts of values: names of temporaries, or expressions that are used in place. -/
  expressions : IdMap String := ∅
  backing : IdMap Id := ∅
  sampledImages : IdMap (Id × Id) := ∅
  hoisted : List Id := []
  rowMajor : List Id := []
  packed : List Id := []
  /-- Matrices whose stored, transposed value has a name. -/
  transposed : IdMap String := ∅
  previousOp : Option Op := none
  currentFunction : Option Id := none
  usesAtomics : Bool := false
  writesResources : Bool := false

structure Plan where
  entry : Id
  model : ExecutionModel
  callGraph : CallGraph := {}
  activeVariables : List Id := []
  activeBuiltins : ActiveBuiltins := {}
  stageIn : Option Id := none
  stageOut : Option Id := none
  interfaceStructs : List Id := []
  builtinInputs : Assoc BuiltIn Id := ∅
  auxBuffer : Option Id := none
  position : String := ""
  rasterizationDisabled : Bool := false
  usesSwizzle : Bool := false
  comparisonImages : List Id := []
  /-- Vertex inputs whose member has the unsigned type of the host. -/
  convertedInputs : List Id := []
  /-- Private variables that are never written and stay outside of functions. -/
  lookupTables : List Id := []
  localized : List Id := []
  packableStructs : List Id := []
  written : List Id := []

structure Compiler where
  program : Program
  options : Options
  session : Session := {}
  plan : Plan
  pass : Pass := {}
  passCount : Nat := 0
  prepared : Bool := false

abbrev Emit := EStateM Fault Compiler

instance : MonadLift (Except Fault) Emit where
  monadLift result := fun state =>
    match result with
    | .ok value => .ok value state
    | .error error => .error error state

namespace Compiler

def new (program : Program) (options : Options) : Compiler where
  program
  options
  plan :=
    { entry := program.defaultEntry
      model := (program.executionModel.toOption).getD .vertex }

def output (c : Compiler) : String := String.join (c.pass.lines.toList.map Line.render)

def capturesOutput (c : Compiler) : Bool := c.options.captureOutput && c.plan.model = .vertex

def inEntry (c : Compiler) : Bool := c.pass.currentFunction = some c.plan.entry

def baseVariable (c : Compiler) (var : Id) : Id :=
  ((c.program.variableAt? var).bind (·.base)).getD var

def matchesBinding (c : Compiler) (descriptorSet binding : Nat) (entry : ResourceBinding) : Bool :=
  entry.stage = c.plan.model && entry.descriptorSet = descriptorSet && entry.binding = binding

end Compiler

namespace Emit

def fail {α : Type} (fault : Fault) : Emit α := throw fault

def modifyProgram (change : Program → Program) : Emit Unit :=
  modify fun c => { c with program := change c.program }

def modifyPass (change : Pass → Pass) : Emit Unit := modify fun c => { c with pass := change c.pass }

def modifyPlan (change : Plan → Plan) : Emit Unit := modify fun c => { c with plan := change c.plan }

def updateProgram (update : Program → Except Fault Program) : Emit Unit := do
  let program ← update (← get).program
  modifyProgram fun _ => program

def edit {α : Type} (step : EStateM Fault Program α) : Emit α := fun c =>
  match step c.program with
  | .ok value program => .ok value { c with program }
  | .error error program => .error error { c with program }

def statement (text : String) : Emit Unit :=
  modifyPass fun pass => { pass with lines := pass.lines.push ⟨pass.depth, text⟩ }

def beginScope : Emit Unit := do
  statement "\x7b"
  modifyPass fun pass => { pass with depth := pass.depth + 1 }

def endScopeWith (text : String) : Emit Unit := do
  modifyPass fun pass => { pass with depth := pass.depth - 1 }
  statement text

def endScope : Emit Unit := endScopeWith "\x7d"

def endDeclaration : Emit Unit := endScopeWith "\x7d;"

/-- Extend the session. What is new after the header was written makes the pass stale. -/
def discover (add : Session → Bool × Session) : Emit Unit :=
  modify fun c =>
    let (added, session) := add c.session
    let stale := c.pass.stale || (added && c.pass.headerWritten)
    { c with session, pass := { c.pass with stale } }

def prototypesPragma : String := "#pragma clang diagnostic ignored \"-Wmissing-prototypes\""

def unusedVariablePragma : String := "#pragma clang diagnostic ignored \"-Wunused-variable\""

def requirePragma (line : String) : Emit Unit := discover (·.addPragma line)

def requireHeader (line : String) : Emit Unit := discover (·.addHeader line)

def requireTypedef (line : String) : Emit Unit := discover (·.addTypedef line)

def requireHelper (helper : Helper) : Emit Unit := do
  discover (·.addHelper helper)
  requirePragma prototypesPragma

def takeSlot (kind : SlotKind) (count : Nat) : Emit Nat := do
  let pass := (← get).pass
  match kind with
  | .buffer =>
    modifyPass ({ · with nextBuffer := pass.nextBuffer + count })
    return pass.nextBuffer
  | .texture =>
    modifyPass ({ · with nextTexture := pass.nextTexture + count })
    return pass.nextTexture
  | .sampler =>
    modifyPass ({ · with nextSampler := pass.nextSampler + count })
    return pass.nextSampler

def modifyFirst {α : Type} (condition : α → Bool) (change : α → α) : List α → List α
  | [] => []
  | x :: rest => if condition x then change x :: rest else x :: modifyFirst condition change rest

def allocateSlot (var : Id) (kind : SlotKind) : Emit Nat := do
  let c ← get
  let storage := (← c.program.getVariable var).storage
  let (descriptorSet, binding) :=
    if storage = .pushConstant then (Options.pushConstantSet, Options.pushConstantBinding)
    else (c.program.getDecoration var .descriptorSet, c.program.getDecoration var .binding)
  let wanted := c.matchesBinding descriptorSet binding
  match c.options.resourceBindings.find? wanted with
  | some entry =>
    let resourceBindings := modifyFirst wanted ({ · with used := true }) c.options.resourceBindings
    set { c with options := { c.options with resourceBindings } }
    match kind with
    | .buffer => return entry.buffer
    | .texture => return entry.texture
    | .sampler => return entry.sampler
  | none =>
    if c.program.hasDecoration var .binding then return binding
    let (_, type) ← c.program.dataType var
    takeSlot kind (max (c.program.elementCount type.dimensions) 1)

def slot (var : Id) (kind : SlotKind) : Emit Nat := do
  match (← get).pass.slots.find? (var, kind) with
  | some index => return index
  | none =>
    let index ← allocateSlot var kind
    modifyPass fun pass => { pass with slots := pass.slots.insert (var, kind) index }
    return index

end Emit

end SpirvMetal
