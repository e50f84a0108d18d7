import SpirvMetal.Layout.Packing
import SpirvMetal.Metal.Interface.Build
import SpirvMetal.Metal.Usage

/-!
Metal has no mutable globals. Private and workgroup variables move into the entry point, and every
function that touches a global gets it as a parameter.
-/

namespace SpirvMetal

open Spirv (Op StorageClass)

def Spirv.StorageClass.isThreaded : StorageClass → Bool
  | .input | .output | .uniform | .uniformConstant | .pushConstant | .storageBuffer => true
  | _ => false

def Spirv.StorageClass.isBuffer : StorageClass → Bool
  | .uniform | .uniformConstant | .pushConstant | .storageBuffer => true
  | _ => false

namespace Compiler

variable (c : Compiler)

def isLookupTable (id : Id) : Except Fault Bool := do
  let var ← c.program.getVariable id
  if var.storage ≠ .privateScope || id ∈ c.plan.written then return false
  match var.initializer.bind c.program.constantAt? with
  | none => return false
  | some _ => return (← c.program.dataType id).2.isArray

def threadedVariables : Except Fault (List Id) := do
  let entry ← c.program.getFunction c.plan.entry
  let locals ← entry.locals.filterM fun id =>
    return (← c.program.getVariable id).storage ≠ .function
  return (c.program.vars.filter (·.2.storage.isThreaded)).map (·.1) ++ locals

def readsSubpass (inst : Instruction) : Bool :=
  match inst.op with
  | .load | .accessChain | .inBoundsAccessChain | .ptrAccessChain =>
    ((inst.word? 0).bind c.program.typeAt?).any (·.dim? = some .dimSubpassData)
  | _ => false

def insertId (ids : List Id) (id : Id) : List Id := insertAscending (fun a b => a < b) id ids

def directUses (threaded : List Id) (function : Function) : List Id :=
  let coordinate := c.plan.builtinInputs.find? .fragCoord
  function.instructions.foldl
    (fun uses inst =>
      let uses := (inst.references.filter (· ∈ threaded)).foldl insertId uses
      if c.readsSubpass inst then coordinate.toList.foldl insertId uses else uses)
    []

/-- The threaded variables of all functions, callees first: what a function uses and what the
functions that it calls use. -/
def uses (threaded : List Id) : List Id → IdMap (List Id) → Except Fault (IdMap (List Id))
  | [], known => .ok known
  | function :: rest, known => do
    let direct := c.directUses threaded (← c.program.getFunction function)
    let inherited := (c.plan.callGraph.calleesOf function).flatMap fun callee =>
      (known.find? callee).getD []
    uses threaded rest (known.insert function (inherited.foldl insertId direct))

end Compiler

namespace Emit

def reserve (count : Nat) : Emit Id := do
  let c ← get
  let (first, program) := c.program.reserve count
  set { c with program }
  return first

def localizeGlobals : Emit Unit := do
  for (id, var) in (← get).program.globals do
    if var.storage = .privateScope || var.storage = .workgroup then
      if ← (← get).isLookupTable id then
        modifyPlan fun plan => { plan with lookupTables := addNew plan.lookupTables id }
      else
        modifyEntry (·.addLocal id)
        modifyPlan fun plan => { plan with localized := plan.localized ++ [id] }

def threadBuiltin (function : Id) (var : Variable) (block index type : Nat) : Emit Unit := do
  let c ← get
  match c.program.memberBuiltin? block index with
  | none => return ()
  | some builtin =>
    if c.plan.activeBuiltins.isActive builtin var.storage then
      let pointer ← reserve 2
      let parameter := pointer + 1
      let pointee ← (← get).program.getType type
      modifyProgram (·.set pointer (.type (pointee.pointerTo type var.storage)))
      modifyProgram (·.set parameter
        (.variable { type := pointer, storage := .function, builtin := true }))
      let decorations :=
        { c.program.memberDecorations block index with
          name := Builtin.name builtin, standIn := none }
      modifyProgram (·.modifyOwn parameter fun _ => decorations)
      updateProgram (·.modifyFunction function
        (·.addParameter { id := parameter, type := pointer, threaded := true }))

def threadGlobal (function global : Id) : Emit Unit := do
  let program := (← get).program
  let var ← program.getVariable global
  let (_, data) ← program.dataType global
  if var.builtin && data.isStruct then
    for (type, index) in data.members.zipIdx do
      threadBuiltin function var data.baseId index type
  else
    modifyProgram (·.setName global (Name.avoidTemporary (program.plainName global) "v"))
    let parameter ← reserve 1
    modifyProgram (·.set parameter
      (.variable
        { type := var.type, storage := .function, builtin := var.builtin, base := some global }))
    let notes := ((← get).program.notes? global).getD {}
    modifyProgram (·.modifyNotes parameter fun _ =>
      { notes with own := { notes.own with standIn := none } })
    updateProgram (·.modifyFunction function
      (·.addParameter { id := parameter, type := var.type, threaded := true }))

def threadGlobals : Emit Unit := do
  let c ← get
  let order := c.plan.callGraph.order
  let uses ← c.uses (← c.threadedVariables) order ∅
  for function in order do
    if function ≠ c.plan.entry then
      for global in (uses.find? function).getD [] do
        threadGlobal function global

def markStructs : Nat → (pending : List Id) → Emit Unit
  | 0, _ => fail .aborted
  | _ + 1, [] => return ()
  | fuel + 1, id :: pending => do
    let c ← get
    let type ← c.program.getType id
    if type.isStruct && type.baseId ∉ c.plan.packableStructs then
      modifyPlan fun plan =>
        { plan with packableStructs := Compiler.insertId plan.packableStructs type.baseId }
      let members := (← c.program.getType type.baseId).members
      markStructs fuel (members.reverse ++ pending)
    else markStructs fuel pending

def isLaidOut (program : Program) (var : Variable) : Except Fault Bool := do
  if var.storage = .function then return false
  let type ← program.getType var.type
  return type.pointer && type.storage.isBuffer &&
    (program.hasDecoration type.baseId .block || program.hasDecoration type.baseId .bufferBlock)

/-- Decide packing and padding of all structs that lie in buffers. Every struct is marked once, so
the members of all types bound how many types are looked at. -/
def layoutStructs : Emit Unit := do
  let program := (← get).program
  let buffers ← program.vars.filterM fun (_, var) => isLaidOut program var
  let roots := (buffers.map (·.2.type)).reverse
  let memberCount := program.types.foldl (fun count (_, type) => count + type.members.length) 0
  markStructs (roots.length + memberCount + 1) roots
  for struct in (← get).plan.packableStructs do
    edit (Layout.alignStruct struct)

end Emit

end SpirvMetal
