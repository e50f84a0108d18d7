import SpirvMetal.Metal.Flow.Construct
import SpirvMetal.Metal.Flow.Listing
import SpirvMetal.Metal.Flow.Phi
import SpirvMetal.Metal.Literal
import SpirvMetal.Program.Basic

/-!
From blocks to a structured listing. Each branch is a fall-through, a way out of a construct, or
goes on with another block; the end of an iteration is listed wherever the loop continues.
-/

namespace SpirvMetal

open Spirv (Op)

namespace Structure

inductive Task
  | chain (label : Id)
  | iterationEnd (label : Id)

variable (program : Program) (blocks : List Block)

def findBlock (label : Id) : Except Fault Block :=
  match blocks.find? (·.label = label) with
  | some block => .ok block
  | none => .error (.internal (.branchToUnknown label))

def word (inst : Instruction) (index : Nat) : Except Fault Nat :=
  match inst.words[index]? with
  | some word => .ok word
  | none => .error .aborted

def terminator (block : Block) : Except Fault Instruction :=
  match block.terminator? with
  | some inst => .ok inst
  | none => .error (.internal (.noTerminator block.label))

def mergeOf (block : Block) (op : Op) : Option Instruction := block.merge?.filter (·.op = op)

def loopMerge (block : Block) : Except Fault (Option (Id × Id)) :=
  match mergeOf block .loopMerge with
  | none => .ok none
  | some inst => return some (← word inst 0, ← word inst 1)

def selectionMerge (block : Block) : Except Fault (Option Id) :=
  match mergeOf block .selectionMerge with
  | none => .ok none
  | some inst => return some (← word inst 0)

def moves (source target : Id) : Except Fault (List (Id × Id)) := do
  (← findBlock blocks target).movesFrom source

def hasMoves (source target : Id) : Except Fault Bool :=
  return !(← moves blocks source target).isEmpty

def listMoves (source target : Id) : Listed Unit := do
  let found ← moves blocks source target
  Listed.emit (.ofList (found.map fun (phi, value) => .assign phi value))

def caseLiteral (selector : ValueType) (bits : Nat) : String :=
  match selector.base.isSigned, selector.width with
  | true, 64 => toString (Literal.signed 64 bits)
  | true, _ => toString (Literal.signed 32 bits)
  | false, 64 => s!"{bits}ul"
  | false, _ => s!"{Literal.unsigned 32 bits}u"

/-- Literals of two words, the low one first, and their targets. -/
def wideCases : List Nat → List (Nat × Id)
  | low :: high :: target :: rest => (low + high * 4294967296, target) :: wideCases rest
  | _ => []

structure Arm where
  target : Id
  literals : List String := []

def addCase (arms : List Arm) (target : Id) (literal : String) : List Arm :=
  match arms with
  | [] => [⟨target, [literal]⟩]
  | arm :: rest =>
    if arm.target = target then { arm with literals := arm.literals ++ [literal] } :: rest
    else arm :: addCase rest target literal

def caseArms (selector : ValueType) (words : List Nat) : List Arm :=
  let cases := if selector.width = 64 then wideCases words else pairs words
  cases.foldl
    (fun arms (bits, target) => addCase arms target (caseLiteral selector bits)) []

/-- Whether the default of a switch is listed. It goes to the merge block without an arm of its own,
unless phis move. -/
def listsDefault (label default merge : Id) : Except Fault Bool :=
  if default ≠ merge then .ok true else hasMoves blocks label merge

def withDefault (cases : List Arm) (default : Id) (hasDefault : Bool) : List Arm :=
  if hasDefault && cases.all (·.target ≠ default) then cases ++ [⟨default, []⟩] else cases

variable (run : Task → List Construct → Listed Unit)

def edge (constructs : List Construct) (source : Option Id) (target : Id) :
    Listed (Option Id) := do
  if let some source := source then listMoves blocks source target
  match ← classify constructs target with
  | .stop | .fallthrough => return none
  | .leave =>
    Listed.emit .leave
    return none
  | .backEdge =>
    Listed.emit .again
    return none
  | .continueBlock label =>
    run (.iterationEnd label) constructs
    return none
  | .next label => return some label

def arm (constructs : List Construct) (source target : Id) : Listed Unit := do
  if let some next ← edge blocks run constructs (some source) target then
    run (.chain next) constructs

def closingEdge (constructs : List Construct) (label target : Id) : Listed Unit := do
  if (← edge blocks run constructs (some label) target).isSome then
    Listed.fail (.unsupported (.continueTarget label))

def iterationEnd (constructs : List Construct) (label : Id) : Listed Unit := do
  let block ← findBlock blocks label
  Listed.emit (.block label)
  let inst ← terminator block
  match inst.op with
  | .branch => closingEdge blocks run constructs label (← word inst 0)
  | .branchConditional =>
    Listed.branch (← word inst 0) true
      (do closingEdge blocks run constructs label (← word inst 1))
      fun _ => do closingEdge blocks run constructs label (← word inst 2)
  | op => Listed.fail (.unsupported (.continueTerminator op))

def fork (constructs : List Construct) (label condition accepted rejected merge : Id) :
    Listed Unit :=
  let inner := Construct.selection merge :: constructs
  if accepted = merge ∧ rejected ≠ merge then
    Listed.conditional condition false (arm blocks run inner label rejected)
      (hasMoves blocks label merge) fun _ => listMoves blocks label merge
  else
    let needed :=
      if rejected ≠ merge then .ok true
      else if accepted = merge then .ok false
      else hasMoves blocks label merge
    Listed.conditional condition true (arm blocks run inner label accepted) needed
      fun _ => arm blocks run inner label rejected

def selection (constructs : List Construct) (label condition accepted rejected merge : Id) :
    Listed (Option Id) := do
  fork blocks run constructs label condition accepted rejected merge
  edge blocks run constructs none merge

def exitShape (constructs : List Construct) (label accepted rejected : Id) :
    Except Fault (Bool × Bool) := do
  let first ← classify constructs accepted
  let second ← classify constructs rejected
  if !first.isStructural && !second.isStructural then
    .error (.unsupported (.unstructuredBranch label))
  return (first.isStructural, second.isStructural)

def conditionalExit (constructs : List Construct) (label condition accepted rejected : Id) :
    Listed (Option Id) := do
  let armTo (target : Id) : Listed Unit := arm blocks run constructs label target
  let edgeTo (target : Id) : Listed (Option Id) :=
    edge blocks run constructs (some label) target
  if accepted = rejected then edgeTo accepted
  else
    match exitShape constructs label accepted rejected with
    | .error error =>
      Listed.emit (.when condition true .skip)
      Listed.fail error
    | .ok (true, true) =>
      Listed.branch condition true (armTo accepted) fun _ => armTo rejected
      return none
    | .ok (false, _) =>
      Listed.when condition false (armTo rejected)
      edgeTo accepted
    | .ok (true, false) =>
      Listed.when condition true (armTo accepted)
      edgeTo rejected

def switch (constructs : List Construct) (label : Id) (inst : Instruction) (merge : Id) :
    Listed (Option Id) := do
  let selector ← word inst 0
  let default ← word inst 1
  let cases := caseArms (← program.expressionType selector) (inst.words.drop 2)
  let hasDefault ← listsDefault blocks label default merge
  let arms := withDefault cases default hasDefault
  let inner := Construct.switch merge (arms.map (·.target)) :: constructs
  Listed.inside (.switch selector) do
    arms.forM fun found =>
      Listed.inside (.arm found.literals (hasDefault && found.target = default))
        (arm blocks run inner label found.target)
  edge blocks run constructs none merge

def follow (constructs : List Construct) (block : Block) : Listed (Option Id) := do
  let inst ← terminator block
  let merge ← selectionMerge block
  match inst.op with
  | .branch => edge blocks run constructs (some block.label) (← word inst 0)
  | .branchConditional =>
    let condition ← word inst 0
    let accepted ← word inst 1
    let rejected ← word inst 2
    match merge with
    | some merge => selection blocks run constructs block.label condition accepted rejected merge
    | none => conditionalExit blocks run constructs block.label condition accepted rejected
  | .switch =>
    match merge with
    | some merge => switch program blocks run constructs block.label inst merge
    | none => Listed.fail (.unsupported .switchWithoutMerge)
  | .ret =>
    Listed.emit (.ret none constructs.isEmpty)
    return none
  | .returnValue =>
    Listed.emit (.ret (some (← word inst 0)) constructs.isEmpty)
    return none
  | .kill =>
    Listed.emit .discard
    return none
  | .unreachable => return none
  | op => Listed.fail (.unsupported (.terminator op))

def goOn (constructs : List Construct) : Option Id → Listed Unit
  | some label => run (.chain label) constructs
  | none => return ()

def chain (constructs : List Construct) (label : Id) : Listed Unit := do
  let block ← findBlock blocks label
  match ← loopMerge block with
  | none =>
    Listed.emit (.block label)
    goOn run constructs (← follow program blocks run constructs block)
  | some (merge, continueTarget) =>
    let inner := Construct.loop label merge continueTarget :: constructs
    Listed.inside .loop do
      Listed.emit (.block label)
      goOn run inner (← follow program blocks run inner block)
    goOn run constructs (← edge blocks run constructs none merge)

/-- List a task; `fuel` bounds how many blocks follow each other on one way. -/
def listWithin : Nat → Task → List Construct → Listed Unit
  | 0, _, _ => Listed.fail .aborted
  | fuel + 1, .chain label, constructs => chain program blocks (listWithin fuel) constructs label
  | fuel + 1, .iterationEnd label, constructs =>
    iterationEnd blocks (listWithin fuel) constructs label

/-- On one way a block can be met again only inside of more constructs than before, and there are no
more constructs than blocks. -/
def fuelFor : Nat := (blocks.length + 1) * (blocks.length + 2)

end Structure

def structureBlocks (program : Program) (blocks : List Block) (first : Id) : Listed Unit :=
  Structure.listWithin program blocks (Structure.fuelFor blocks) (.chain first) []

end SpirvMetal
