import SpirvMetal.Metal.Flow.Structure

/-!
The stack of constructs. Blocks are listed inside the constructs that are open around them.
-/

namespace SpirvMetal

/-- Listing with a stack of constructs that is changed in place. -/
def Stacked (α : Type) : Type := List Construct → Listed (α × List Construct)

namespace Stacked

open Structure (Task)

variable {α β : Type}

instance : Monad Stacked where
  pure a stack := pure (a, stack)
  bind step next stack := step stack >>= fun (a, stack) => next a stack

/-- A listing that depends on the stack and leaves it alone. -/
def restoring (part : List Construct → Listed α) : Stacked α := fun stack =>
  ⟨(part stack).listing, (part stack).result.map (·, stack)⟩

instance : MonadLift Listed Stacked := ⟨fun part => restoring fun _ => part⟩

instance : MonadLift (Except Fault) Stacked := ⟨fun result => restoring fun _ => liftM result⟩

def fail (fault : Fault) : Stacked α := restoring fun _ => Listed.fail fault

/-- Push a construct, and pop what is on top afterwards. -/
def within (construct : Construct) (part : Stacked α) : Stacked α := fun stack =>
  let run := part (construct :: stack)
  ⟨run.listing, run.result.map fun (a, stack) => (a, stack.tail)⟩

def inside (wrap : Listing → Listing) (part : Stacked α) : Stacked α := fun stack =>
  (part stack).inside wrap

def conditional (condition : Id) (expected : Bool) (arm : Stacked Unit)
    (needed : Except Fault Bool) (other : Stacked Unit) : Stacked Unit := fun stack =>
  let arm := arm stack
  match arm.result, needed with
  | .error error, _ | .ok _, .error error => ⟨.when condition expected arm.listing, .error error⟩
  | .ok result, .ok false => ⟨.when condition expected arm.listing, .ok result⟩
  | .ok (_, stack), .ok true =>
    let other := other stack
    ⟨.branch condition expected arm.listing other.listing, other.result⟩

variable (program : Program) (blocks : List Block) (run : Task → Stacked Unit)

def edge (source : Option Id) (target : Id) : Stacked (Option Id) := do
  if let some source := source then Structure.listMoves blocks source target
  match ← restoring fun stack => liftM (classify stack target) with
  | .stop | .fallthrough => return none
  | .leave =>
    Listed.emit .leave
    return none
  | .backEdge =>
    Listed.emit .again
    return none
  | .continueBlock label =>
    run (.iterationEnd label)
    return none
  | .next label => return some label

def arm (source target : Id) : Stacked Unit := do
  if let some next ← edge blocks run (some source) target then run (.chain next)

def closingEdge (label target : Id) : Stacked Unit := do
  if (← edge blocks run (some label) target).isSome then
    fail (.unsupported (.continueTarget label))

def iterationEnd (label : Id) : Stacked Unit := do
  let block ← Structure.findBlock blocks label
  Listed.emit (.block label)
  let inst ← Structure.terminator block
  match inst.op with
  | .branch => closingEdge blocks run label (← Structure.word inst 0)
  | .branchConditional =>
    conditional (← Structure.word inst 0) true
      (do closingEdge blocks run label (← Structure.word inst 1)) (.ok true)
      (do closingEdge blocks run label (← Structure.word inst 2))
  | op => fail (.unsupported (.continueTerminator op))

def selection (label condition accepted rejected merge : Id) : Stacked (Option Id) := do
  within (.selection merge) <| if accepted = merge ∧ rejected ≠ merge then
      conditional condition false (arm blocks run label rejected)
        (Structure.hasMoves blocks label merge) (liftM (Structure.listMoves blocks label merge))
    else
      conditional condition true (arm blocks run label accepted)
        (if rejected ≠ merge then .ok true
        else if accepted = merge then .ok false
        else Structure.hasMoves blocks label merge)
        (arm blocks run label rejected)
  edge blocks run none merge

def conditionalExit (label condition accepted rejected : Id) : Stacked (Option Id) :=
  let armTo (target : Id) : Stacked Unit := arm blocks run label target
  let edgeTo (target : Id) : Stacked (Option Id) := edge blocks run (some label) target
  if accepted = rejected then edgeTo accepted
  else fun stack =>
    let next : Stacked (Option Id) :=
      match Structure.exitShape stack label accepted rejected with
      | .error error => do
        Listed.emit (.when condition true .skip)
        fail error
      | .ok (true, true) => do
        conditional condition true (armTo accepted) (.ok true) (armTo rejected)
        return none
      | .ok (false, _) => do
        inside (.when condition false) (armTo rejected)
        edgeTo accepted
      | .ok (true, false) => do
        inside (.when condition true) (armTo accepted)
        edgeTo rejected
    next stack

def switch (label : Id) (inst : Instruction) (merge : Id) : Stacked (Option Id) := do
  let selector ← Structure.word inst 0
  let default ← Structure.word inst 1
  let cases := Structure.caseArms (← program.expressionType selector) (inst.words.drop 2)
  let hasDefault ← Structure.listsDefault blocks label default merge
  let arms := Structure.withDefault cases default hasDefault
  inside (.switch selector) <| within (.switch merge (arms.map (·.target))) <|
    arms.forM fun found =>
      inside (.arm found.literals (hasDefault && found.target = default))
        (arm blocks run label found.target)
  edge blocks run none merge

def follow (block : Block) : Stacked (Option Id) := do
  let inst ← Structure.terminator block
  let merge ← Structure.selectionMerge block
  match inst.op with
  | .branch => edge blocks run (some block.label) (← Structure.word inst 0)
  | .branchConditional =>
    let condition ← Structure.word inst 0
    let accepted ← Structure.word inst 1
    let rejected ← Structure.word inst 2
    match merge with
    | some merge => selection blocks run block.label condition accepted rejected merge
    | none => conditionalExit blocks run block.label condition accepted rejected
  | .switch =>
    match merge with
    | some merge => switch program blocks run block.label inst merge
    | none => fail (.unsupported .switchWithoutMerge)
  | .ret =>
    restoring fun stack => Listed.emit (.ret none stack.isEmpty)
    return none
  | .returnValue =>
    let value ← Structure.word inst 0
    restoring fun stack => Listed.emit (.ret (some value) stack.isEmpty)
    return none
  | .kill =>
    Listed.emit .discard
    return none
  | .unreachable => return none
  | op => fail (.unsupported (.terminator op))

def goOn : Option Id → Stacked Unit
  | some label => run (.chain label)
  | none => return ()

def chain (label : Id) : Stacked Unit := do
  let block ← Structure.findBlock blocks label
  match ← Structure.loopMerge block with
  | none =>
    Listed.emit (.block label)
    goOn run (← follow program blocks run block)
  | some (merge, continueTarget) =>
    inside .loop <| within (.loop label merge continueTarget) do
      Listed.emit (.block label)
      goOn run (← follow program blocks run block)
    goOn run (← edge blocks run none merge)

def listWithin : Nat → Task → Stacked Unit
  | 0, _ => fail .aborted
  | fuel + 1, .chain label => chain program blocks (listWithin fuel) label
  | fuel + 1, .iterationEnd label => iterationEnd blocks (listWithin fuel) label

/-- List the blocks of a function from an empty stack, and check that it is empty again. -/
def structureBlocks (function first : Id) : Listed Unit :=
  let run := listWithin program blocks (Structure.fuelFor blocks) (.chain first) []
  { listing := run.listing
    result := run.result.bind fun (_, stack) =>
      if stack.isEmpty then .ok ()
      else .error (.internal (.unbalancedConstructs function)) }

/-- Listing with the stack in place is listing inside of the constructs that are found on it, and
they are left there. -/
class Restores (stacked : Stacked α) (part : outParam (List Construct → Listed α)) : Prop where
  same : stacked = restoring part

namespace Restores

variable {program blocks run} {step : Stacked α} {part : List Construct → Listed α}
  {next : α → Stacked β} {rest : α → List Construct → Listed β}

theorem run_eq (step : Stacked α) [restores : Restores step part] (stack : List Construct) :
    step stack = Stacked.restoring part stack := congrFun restores.same stack

instance restoring : Restores (restoring part) part := ⟨rfl⟩

instance fail (fault : Fault) : Restores (fail fault : Stacked α) fun _ => Listed.fail fault :=
  ⟨rfl⟩

instance pure (a : α) : Restores (pure a) fun _ => pure a := ⟨rfl⟩

instance lift (part : Listed α) : Restores (liftM part) fun _ => part := ⟨rfl⟩

instance read (result : Except Fault α) : Restores (liftM result) fun _ => liftM result := ⟨rfl⟩

instance bind [first : Restores step part] [second : ∀ a, Restores (next a) (rest a)] :
    Restores (step >>= next) fun stack => part stack >>= fun a => rest a stack where
  same := by
    funext stack
    obtain rfl : next = fun a => Stacked.restoring (rest a) := funext fun a => (second a).same
    rw [first.same]
    simp only [Bind.bind, Stacked.restoring]
    cases (part stack).result <;> rfl

theorem andThen (_ : Restores step part) (_ : ∀ a, Restores (next a) (rest a)) :
    Restores (step >>= next) fun stack => part stack >>= fun a => rest a stack := bind

theorem onward [Restores step part] (_ : ∀ a, Restores (next a) (rest a)) :
    Restores (step >>= next) fun stack => part stack >>= fun a => rest a stack := bind

instance within (construct : Construct) [inner : Restores step part] :
    Restores (within construct step) fun stack => part (construct :: stack) where
  same := by
    funext stack
    rw [inner.same]
    simp only [Stacked.within, Stacked.restoring]
    cases (part (construct :: stack)).result <;> rfl

instance inside (wrap : Listing → Listing) [inner : Restores step part] :
    Restores (inside wrap step) fun stack => (part stack).inside wrap where
  same := by
    rw [inner.same]
    rfl

instance conditional (condition : Id) (expected : Bool) {arm other : Stacked Unit}
    (needed : Except Fault Bool) {armPart otherPart : List Construct → Listed Unit}
    [first : Restores arm armPart] [second : Restores other otherPart] :
    Restores (conditional condition expected arm needed other) fun stack =>
      Listed.conditional condition expected (armPart stack) needed fun _ => otherPart stack where
  same := by
    funext stack
    rw [first.same, second.same]
    simp only [Stacked.conditional, Listed.conditional, Stacked.restoring]
    rcases (armPart stack).result with _ | _ <;> rcases needed with _ | _ | _ <;> rfl

instance forM (items : List α) {each : α → Stacked Unit} {part : α → List Construct → Listed Unit}
    [∀ a, Restores (each a) (part a)] :
    Restores (items.forM each) fun stack => items.forM fun a => part a stack := by
  induction items with
  | nil => exact pure ()
  | cons a rest ih => exact onward fun _ => ih

instance ite (condition : Prop) [Decidable condition] {other : Stacked α}
    {otherPart : List Construct → Listed α} [first : Restores step part]
    [second : Restores other otherPart] :
    Restores (if condition then step else other) fun stack =>
      if condition then part stack else otherPart stack := by
  split
  · exact first
  · exact second

variable {lexical : Task → List Construct → Listed Unit}
variable [∀ task, Restores (run task) (lexical task)]

instance edge (source : Option Id) (target : Id) :
    Restores (edge blocks run source target) fun stack =>
      Structure.edge blocks lexical stack source target := by
  cases source with
  | none =>
    refine andThen restoring fun found => ?_
    cases found <;> infer_instance
  | some source =>
    refine onward fun _ => andThen restoring fun found => ?_
    cases found <;> infer_instance

instance arm (source target : Id) : Restores (arm blocks run source target) fun stack =>
      Structure.arm blocks lexical stack source target := by
  refine onward fun next => ?_
  cases next <;> infer_instance

instance closingEdge (label target : Id) :
    Restores (closingEdge blocks run label target) fun stack =>
      Structure.closingEdge blocks lexical stack label target :=
  andThen inferInstance inferInstance

instance iterationEnd (label : Id) : Restores (iterationEnd blocks run label) fun stack =>
      Structure.iterationEnd blocks lexical stack label := by
  refine onward fun block => onward fun _ =>
    onward fun inst => ?_
  generalize inst.op = op
  cases op <;> infer_instance

instance selection (label condition accepted rejected merge : Id) :
    Restores (selection blocks run label condition accepted rejected merge) fun stack =>
      Structure.selection blocks lexical stack label condition accepted rejected merge :=
  andThen inferInstance inferInstance

instance conditionalExit (label condition accepted rejected : Id) :
    Restores (conditionalExit blocks run label condition accepted rejected) fun stack =>
      Structure.conditionalExit blocks lexical stack label condition accepted rejected := by
  refine @ite _ _ _ _ _ _ _ inferInstance ⟨funext fun stack => ?_⟩
  simp only [Stacked.restoring]
  rcases Structure.exitShape stack label accepted rejected with error | ⟨_ | _, _ | _⟩
  all_goals exact (run_eq _ stack).trans rfl

instance switch (label : Id) (inst : Instruction) (merge : Id) :
    Restores (switch program blocks run label inst merge) fun stack =>
      Structure.switch program blocks lexical stack label inst merge := by
  refine onward fun selector => onward fun default =>
    onward fun type => onward fun hasDefault => ?_
  exact andThen inferInstance inferInstance

instance follow (block : Block) : Restores (follow program blocks run block) fun stack =>
      Structure.follow program blocks lexical stack block := by
  refine onward fun inst => onward fun merge => ?_
  generalize inst.op = op
  cases op <;> cases merge <;> infer_instance

instance goOn (next : Option Id) :
    Restores (goOn run next) fun stack => Structure.goOn lexical stack next := by
  cases next <;> simp only [Stacked.goOn, Structure.goOn] <;> infer_instance

instance chain (label : Id) : Restores (chain program blocks run label) fun stack =>
      Structure.chain program blocks lexical stack label := by
  refine onward fun block => onward fun merge => ?_
  cases merge <;> infer_instance

instance listWithin (fuel : Nat) (task : Task) : Restores (listWithin program blocks fuel task)
      (Structure.listWithin program blocks fuel task) := by
  induction fuel generalizing task with
  | zero => exact fail .aborted
  | succ fuel ih =>
    cases task with
    | chain label => exact chain label
    | iterationEnd label => exact iterationEnd label

end Restores

theorem structureBlocks_eq (program : Program) (blocks : List Block) (function first : Id) :
    structureBlocks program blocks function first =
      SpirvMetal.structureBlocks program blocks first := by
  simp only [structureBlocks, Restores.run_eq, restoring, SpirvMetal.structureBlocks]
  obtain ⟨_, _ | _⟩ :=
    Structure.listWithin program blocks (Structure.fuelFor blocks) (.chain first) [] <;> rfl

end Stacked

end SpirvMetal
