import SpirvMetal.Metal.Interface.Plan

/-!
The input and output structs of an entry point. Metal has no free-standing stage variables: every
active one becomes members of one struct per direction.
-/

namespace SpirvMetal

open Spirv (StorageClass)

namespace Program

variable (program : Program)

def addInterfaceStruct (storage : StorageClass) (members : List Id) : Id × Program :=
  let (struct, program) := program.reserve 3
  let pointer := struct + 1
  let var := struct + 2
  let block : ValueType := { base := .struct, width := 0, storage, baseId := struct, members }
  let program := program.set struct (.type block)
  let program := program.set pointer (.type (block.pointerTo struct storage))
  let program := program.set var (.variable { type := pointer, storage })
  (struct, program.setDecoration struct .block 0)

end Program

namespace Compiler

variable (c : Compiler)

def isStageVariable (storage : StorageClass) (interface : List Id) (id : Id) (var : Variable) :
    Except Fault Bool := do
  if var.storage ≠ storage || id ∉ interface || id ∉ c.plan.activeVariables ||
      (var.builtin && storage ≠ .output) then
    return false
  return (← c.program.getType var.type).pointer

def stageVariables (storage : StorageClass) : Except Fault (List Id) := do
  let interface := (← c.program.entryPoint).interface
  let selected ← c.program.vars.filterM fun (id, var) =>
    c.isStageVariable storage interface id var
  return selected.map (·.1)

end Compiler

namespace Emit

def modifyEntry (change : Function → Function) : Emit Unit := do
  let entry := (← get).plan.entry
  updateProgram (·.modifyFunction entry change)

def bindMember (storage : StorageClass) (block index : Nat) (qualified : String) :
    MemberBinding → Emit Unit
  | .alias var => do
    modifyProgram (·.setStandIn var qualified)
    let hasInitializer := (← (← get).program.getVariable var).initializer.isSome
    if storage = .output && hasInitializer then
      modifyEntry fun f => { f with fixupsIn := f.fixupsIn ++ [.initializeOutput var] }
  | .padded var components =>
    modifyEntry fun f =>
      { f.addLocal var with
        fixupsOut := f.fixupsOut ++ [.padOutput var block index components] }
  | .blockBuiltin struct member => do
    if (← get).program.memberBuiltin? struct member = some .position then
      modifyPlan ({ · with position := qualified })
    modifyProgram (·.setMemberStandIn struct member qualified)
  | .copy var member element components =>
    modifyEntry fun f =>
      let f := f.addLocal var
      if storage = .input then
        { f with fixupsIn := f.fixupsIn ++ [.copyInToLocal var member element block index] }
      else
        { f with
          fixupsOut := f.fixupsOut ++ [.copyLocalToOut var member element block index components] }

def interfaceName (storage : StorageClass) : String := if storage = .output then "out" else "in"

def buildStruct (storage : StorageClass) (members : List PlannedMember) : Emit Id := do
  let c ← get
  let (struct, program) := c.program.addInterfaceStruct storage (members.map (·.type))
  let var := struct + 2
  let name := interfaceName storage
  let program := program.setName struct s!"{program.plainName c.plan.entry}_{name}"
  set { c with program := program.setName var name }
  modifyPlan fun plan => { plan with interfaceStructs := addNew plan.interfaceStructs struct }
  if storage = .output then
    if c.capturesOutput then
      modifyEntry fun f => { f with fixupsIn := f.fixupsIn ++ [.bindCapturedOutput var] }
    else modifyEntry (·.addLocal var)
  for (member, index) in members.zipIdx do
    modifyProgram (·.modifyMember struct index fun _ => member.decorations)
    bindMember storage var index s!"{name}.{member.decorations.name}" member.binding
  return var

def interface (storage : StorageClass) : Emit (Option Id) := do
  let vars ← (← get).stageVariables storage
  let planned := (← vars.mapM (planVariable storage)).flatten
  if planned.isEmpty then return none
  return some (← buildStruct storage (sortBy PlannedMember.before planned))

end Emit

end SpirvMetal
