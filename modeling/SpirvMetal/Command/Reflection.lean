import SpirvMetal.Program.Active

/-!
A program described for its host: the entry point, and the variables it uses by location or binding.
-/

namespace SpirvMetal.Command

open Spirv (StorageClass)

def variableLine? (program : Program) (id : Id) (found : Variable) : Option String :=
  let name := if program.name id = "" then s!"_{id}" else program.name id
  let head := s!"  {found.storage.name} {name}"
  match found.storage with
  | .input | .output =>
    match program.builtin? id with
    | some builtin => some s!"{head} builtin {builtin.name}"
    | none => some s!"{head} location {program.getDecoration id .location}"
  | .uniform | .uniformConstant | .storageBuffer | .pushConstant =>
    let set := program.getDecoration id .descriptorSet
    some s!"{head} set {set} binding {program.getDecoration id .binding}"
  | _ => none

def reflectionLines (program : Program) : Except Fault (List String) := do
  let entry ← program.entryPoint
  let size :=
    if entry.model = .glCompute then
      let (x, y, z) := entry.workgroupSize
      [s!"  workgroup size {x} x {y} x {z}"]
    else []
  let active := sortBy (· ≤ ·) (← program.activeVariables entry.id)
  let lines ← active.mapM fun id => do
    return variableLine? program id (← program.getVariable id)
  return s!"entry point '{entry.name}' ({entry.model.name})" :: size ++ lines.filterMap id

def reflection (program : Program) : Except Fault String := do
  return String.join ((← reflectionLines program).map (· ++ "\n"))

end SpirvMetal.Command
