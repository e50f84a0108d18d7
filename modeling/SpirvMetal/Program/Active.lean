import SpirvMetal.Program.CallGraph

/-!
What an entry point uses: global variables and builtins.
-/

namespace SpirvMetal

open Spirv (Op StorageClass BuiltIn)

structure ActiveBuiltins where
  inputs : List BuiltIn := []
  outputs : List BuiltIn := []

namespace ActiveBuiltins

def isActive (active : ActiveBuiltins) (builtin : BuiltIn) : StorageClass → Bool
  | .input => builtin ∈ active.inputs
  | .output => builtin ∈ active.outputs
  | _ => false

def add (active : ActiveBuiltins) (storage : StorageClass) (builtin : BuiltIn) : ActiveBuiltins :=
  match storage with
  | .input => { active with inputs := addNew active.inputs builtin }
  | .output => { active with outputs := addNew active.outputs builtin }
  | _ => active

end ActiveBuiltins

namespace Program

variable (program : Program)

def reachedInstructions (entry : Id) : Except Fault (List Instruction) := do
  let graph ← program.callGraph entry
  let functions ← graph.order.mapM program.getFunction
  return functions.flatMap (·.instructions)

def isGlobalVariable (id : Id) : Bool :=
  (program.variableAt? id).any (·.storage ≠ .function)

def activeVariables (entry : Id) : Except Fault (List Id) := do
  let references := (← program.reachedInstructions entry).flatMap (·.references)
  return (references.filter program.isGlobalVariable).foldl addNew []

/-- The builtins that an instruction uses through its first reference. Of a block of builtins, a
chain into it uses the member it selects and anything else uses all. -/
def usedBuiltins (inst : Instruction) : Except Fault (List (StorageClass × BuiltIn)) := do
  match inst.references with
  | [] => return []
  | base :: indices =>
    match program.variableAt? base with
    | none => return []
    | some var =>
      if !var.builtin then return []
      match program.builtin? base with
      | some builtin => return [(var.storage, builtin)]
      | none =>
        let (_, block) ← program.dataType base
        let members :=
          match inst.op with
          | .accessChain | .inBoundsAccessChain =>
            (indices.head?.bind program.constantWord?).toList
          | _ => List.range block.members.length
        return (members.filterMap (program.memberBuiltin? block.baseId)).map (var.storage, ·)

def activeBuiltins (entry : Id) : Except Fault ActiveBuiltins := do
  let used ← (← program.reachedInstructions entry).mapM program.usedBuiltins
  return used.flatten.foldl (fun active (storage, builtin) => active.add storage builtin) {}

end Program

end SpirvMetal
