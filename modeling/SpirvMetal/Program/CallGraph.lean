import SpirvMetal.Program.Basic

/-!
The functions that an entry point reaches, callees first.
-/

namespace SpirvMetal

structure CallGraph where
  /-- Every function comes after all that it calls; the entry point is last. -/
  order : List Id := []
  callees : IdMap (List Id) := ∅

namespace CallGraph

def calleesOf (graph : CallGraph) (function : Id) : List Id :=
  (graph.callees.find? function).getD []

end CallGraph

def addNew {α : Type} [DecidableEq α] (list : List α) (x : α) : List α :=
  if x ∈ list then list else list ++ [x]

namespace Program

variable (program : Program)

def directCallees (function : Id) : Except Fault (List Id) := do
  let calls := (← program.getFunction function).instructions.filter (·.op = .functionCall)
  return (calls.filterMap (·.references.head?)).foldl addNew []

/-- Visit a function that was called along `path`, then append it. A call back into the path is a
recursion; functions that are in the order already are passed over. -/
def visitCalls : Nat → List Id → Id → CallGraph → Except Fault CallGraph
  | 0, _, _, _ => .error .aborted
  | fuel + 1, path, function, graph => do
    let callees ← program.directCallees function
    let graph := { graph with callees := graph.callees.insert function callees }
    let graph ← callees.foldlM
      (fun graph callee =>
        if callee = function ∨ callee ∈ path then
          .error (.unsupported (.recursion function callee))
        else if callee ∈ graph.order then .ok graph
        else visitCalls fuel (function :: path) callee graph)
      graph
    return { graph with order := graph.order ++ [function] }

/-- The call graph of an entry point. A path of calls does not repeat a function, so the number of
records bounds its length. -/
def callGraph (entry : Id) : Except Fault CallGraph :=
  program.visitCalls program.depth [] entry {}

end Program

end SpirvMetal
