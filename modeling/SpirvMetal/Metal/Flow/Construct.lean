import SpirvMetal.Error

/-!
The constructs around a block, and what a branch means inside of them.
-/

namespace SpirvMetal

inductive Construct
  | selection (merge : Id)
  | switch (merge : Id) (targets : List Id)
  | loop (header merge continueTarget : Id)
deriving DecidableEq

inductive Edge
  | stop
  | fallthrough
  | leave
  | continueBlock (label : Id)
  | backEdge
  | next (label : Id)
deriving DecidableEq

def Edge.isStructural : Edge → Bool
  | .next _ => false
  | _ => true

def loopEdge? (header merge continueTarget target : Id) : Option Edge :=
  if target = header then some .backEdge
  else if target = merge then some .leave
  else if target = continueTarget then some (.continueBlock continueTarget)
  else none

/-- Classify a target against the constructs, innermost first. Metal can leave only the innermost
loop, and not from inside a switch. -/
def classifyWithin (target : Id) :
    (insideSwitch insideLoop : Bool) → List Construct → Except Fault Edge
  | _, _, [] => .ok (.next target)
  | insideSwitch, insideLoop, .selection merge :: rest =>
    if target = merge then .ok .stop else classifyWithin target insideSwitch insideLoop rest
  | _, insideLoop, .switch merge targets :: rest =>
    if target = merge then .ok .leave
    else if target ∈ targets then .ok .fallthrough
    else classifyWithin target true insideLoop rest
  | insideSwitch, insideLoop, .loop header merge continueTarget :: rest =>
    match loopEdge? header merge continueTarget target with
    | none => classifyWithin target insideSwitch true rest
    | some edge =>
      if insideLoop then .error (.unsupported .branchOutOfNestedLoops)
      else if insideSwitch && edge = .leave then .error (.unsupported .breakLoopFromSwitch)
      else .ok edge

def classify (constructs : List Construct) (target : Id) : Except Fault Edge :=
  classifyWithin target false false constructs

end SpirvMetal
