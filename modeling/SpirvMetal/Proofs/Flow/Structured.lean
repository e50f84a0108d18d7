import Mathlib.Data.List.Forall2
import SpirvMetal.Metal.Flow.Structure

/-!
Structured code as rules, and how it runs. A rule says which statements stand where a branch leads,
for a block with all that follows it, and for the end of an iteration. A run is the sequence of
blocks that are entered, with the state that each starts in.
-/

namespace SpirvMetal

def Listing.parts : Listing → List Listing
  | .skip => []
  | .seq first second => first.parts ++ second.parts
  | statement => [statement]

def assigns (moves : List (Id × Id)) : List Listing :=
  moves.map fun (phi, value) => .assign phi value

inductive Ending
  | branch (target : Id)
  | conditional (condition accepted rejected : Id)
  | switch (selector default : Id) (cases : List Nat)
  | ret (value : Option Id)
  | kill
  | unreachable
deriving DecidableEq

def Block.ending? (block : Block) : Option Ending :=
  block.terminator?.bind fun inst =>
    match inst.op, inst.words with
    | .branch, target :: _ => some (.branch target)
    | .branchConditional, condition :: accepted :: rejected :: _ =>
      some (.conditional condition accepted rejected)
    | .switch, selector :: default :: cases => some (.switch selector default cases)
    | .ret, _ => some (.ret none)
    | .returnValue, value :: _ => some (.ret (some value))
    | .kill, _ => some .kill
    | .unreachable, _ => some .unreachable
    | _, _ => none

namespace Structure

inductive Part
  /-- What stands where a branch goes to a block. -/
  | way (target : Id)
  | chain (label : Id)
  | rest (block : Block)
  | iterationEnd (label : Id)

def Leads (constructs : List Construct) (target : Id) : Prop :=
  ∃ edge, classify constructs target = .ok edge ∧ edge.isStructural = true

/-- The statement that a selection spells for its two arms. An arm without statements may be left
out. If both arms are the merge block, the rejected one is left out whatever it holds. -/
inductive Forks (condition : Id) (accepted rejected : List Listing) (bothMerge : Prop) :
    Listing → Prop
  | both {arm other : Listing} (differ : ¬ bothMerge) (accepts : arm.parts = accepted)
      (rejects : other.parts = rejected) :
      Forks condition accepted rejected bothMerge (.branch condition true arm other)
  | swapped {arm other : Listing} (differ : ¬ bothMerge) (rejects : arm.parts = rejected)
      (accepts : other.parts = accepted) :
      Forks condition accepted rejected bothMerge (.branch condition false arm other)
  | accepted {arm : Listing} (accepts : arm.parts = accepted)
      (nothing : rejected = [] ∨ bothMerge) :
      Forks condition accepted rejected bothMerge (.when condition true arm)
  | rejected {arm : Listing} (differ : ¬ bothMerge) (rejects : arm.parts = rejected)
      (nothing : accepted = []) :
      Forks condition accepted rejected bothMerge (.when condition false arm)

variable (program : Program) (blocks : List Block)

/-- An arm of a switch spells the assignments of its edge, and that control leaves if it goes to the
merge block. -/
def SpellsArm (label merge default : Id) (hasDefault : Bool) (found : Arm) (statement : Listing) :
    Prop :=
  ∃ body edgeMoves, statement = .arm found.literals (hasDefault && found.target = default) body ∧
    moves blocks label found.target = .ok edgeMoves ∧
    body.parts = assigns edgeMoves ++ if found.target = merge then [.leave] else []

inductive Structured : Part → List Construct → List Listing → Prop
  | stop {target constructs} (classified : classify constructs target = .ok .stop) :
      Structured (.way target) constructs []
  | leave {target constructs} (classified : classify constructs target = .ok .leave) :
      Structured (.way target) constructs [.leave]
  | again {target constructs} (classified : classify constructs target = .ok .backEdge) :
      Structured (.way target) constructs [.again]
  | iteration {target constructs code}
      (classified : classify constructs target = .ok (.continueBlock target))
      (ends : Structured (.iterationEnd target) constructs code) :
      Structured (.way target) constructs code
  | next {target constructs code} (classified : classify constructs target = .ok (.next target))
      (goesOn : Structured (.chain target) constructs code) :
      Structured (.way target) constructs code
  | closing {label block target edgeMoves constructs code}
      (found : findBlock blocks label = .ok block) (ending : block.ending? = some (.branch target))
      (leads : Leads constructs target) (moved : moves blocks label target = .ok edgeMoves)
      (way : Structured (.way target) constructs code) :
      Structured (.iterationEnd label) constructs (.block label :: (assigns edgeMoves ++ code))
  | closingEither {label block condition accepted rejected constructs acceptedMoves rejectedMoves
        acceptedCode rejectedCode arm other}
      (found : findBlock blocks label = .ok block)
      (ending : block.ending? = some (.conditional condition accepted rejected))
      (acceptedLeads : Leads constructs accepted) (rejectedLeads : Leads constructs rejected)
      (acceptedMoved : moves blocks label accepted = .ok acceptedMoves)
      (rejectedMoved : moves blocks label rejected = .ok rejectedMoves)
      (accepts : arm.parts = assigns acceptedMoves ++ acceptedCode)
      (rejects : other.parts = assigns rejectedMoves ++ rejectedCode)
      (acceptedWay : Structured (.way accepted) constructs acceptedCode)
      (rejectedWay : Structured (.way rejected) constructs rejectedCode) :
      Structured (.iterationEnd label) constructs [.block label, .branch condition true arm other]
  | plain {label block constructs code}
      (found : findBlock blocks label = .ok block) (merge : loopMerge block = .ok none)
      (rest : Structured (.rest block) constructs code) :
      Structured (.chain label) constructs (.block label :: code)
  | loop {label block merge continueTarget constructs body code after}
      (found : findBlock blocks label = .ok block)
      (merges : loopMerge block = .ok (some (merge, continueTarget)))
      (spells : body.parts = .block label :: code)
      (rest : Structured (.rest block) (.loop label merge continueTarget :: constructs) code)
      (way : Structured (.way merge) constructs after) :
      Structured (.chain label) constructs (.loop body :: after)
  | branch {block target edgeMoves constructs code}
      (ending : block.ending? = some (.branch target))
      (moved : moves blocks block.label target = .ok edgeMoves)
      (way : Structured (.way target) constructs code) :
      Structured (.rest block) constructs (assigns edgeMoves ++ code)
  | selection {block condition accepted rejected merge constructs acceptedMoves rejectedMoves
        acceptedCode rejectedCode statement after}
      (ending : block.ending? = some (.conditional condition accepted rejected))
      (merges : selectionMerge block = .ok (some merge))
      (acceptedMoved : moves blocks block.label accepted = .ok acceptedMoves)
      (rejectedMoved : moves blocks block.label rejected = .ok rejectedMoves)
      (forks : Forks condition (assigns acceptedMoves ++ acceptedCode)
        (assigns rejectedMoves ++ rejectedCode) (accepted = merge ∧ rejected = merge) statement)
      (acceptedWay : Structured (.way accepted) (.selection merge :: constructs) acceptedCode)
      (rejectedWay : Structured (.way rejected) (.selection merge :: constructs) rejectedCode)
      (way : Structured (.way merge) constructs after) :
      Structured (.rest block) constructs (statement :: after)
  | onlyTarget {block condition target edgeMoves constructs code}
      (ending : block.ending? = some (.conditional condition target target))
      (merges : selectionMerge block = .ok none)
      (moved : moves blocks block.label target = .ok edgeMoves)
      (way : Structured (.way target) constructs code) :
      Structured (.rest block) constructs (assigns edgeMoves ++ code)
  | exits {block condition accepted rejected constructs acceptedMoves rejectedMoves
        acceptedCode rejectedCode arm other}
      (ending : block.ending? = some (.conditional condition accepted rejected))
      (merges : selectionMerge block = .ok none) (distinct : accepted ≠ rejected)
      (acceptedLeads : Leads constructs accepted) (rejectedLeads : Leads constructs rejected)
      (acceptedMoved : moves blocks block.label accepted = .ok acceptedMoves)
      (rejectedMoved : moves blocks block.label rejected = .ok rejectedMoves)
      (accepts : arm.parts = assigns acceptedMoves ++ acceptedCode)
      (rejects : other.parts = assigns rejectedMoves ++ rejectedCode)
      (acceptedWay : Structured (.way accepted) constructs acceptedCode)
      (rejectedWay : Structured (.way rejected) constructs rejectedCode) :
      Structured (.rest block) constructs [.branch condition true arm other]
  | exit {block condition accepted rejected constructs exit onward exitMoves onwardMoves exitCode
        onwardCode} (expected : Bool) {arm}
      (ending : block.ending? = some (.conditional condition accepted rejected))
      (merges : selectionMerge block = .ok none)
      (chosen : (exit, onward) = if expected then (accepted, rejected) else (rejected, accepted))
      (exitLeads : Leads constructs exit)
      (onwardNext : classify constructs onward = .ok (.next onward))
      (exitMoved : moves blocks block.label exit = .ok exitMoves)
      (onwardMoved : moves blocks block.label onward = .ok onwardMoves)
      (spells : arm.parts = assigns exitMoves ++ exitCode)
      (exitWay : Structured (.way exit) constructs exitCode)
      (onwardWay : Structured (.way onward) constructs onwardCode) :
      Structured (.rest block) constructs
        (.when condition expected arm :: (assigns onwardMoves ++ onwardCode))
  | switch {block selector default words merge type hasDefault constructs arms after}
      (ending : block.ending? = some (.switch selector default words))
      (merges : selectionMerge block = .ok (some merge))
      (typed : program.expressionType selector = .ok type)
      (defaults : listsDefault blocks block.label default merge = .ok hasDefault)
      (spells : List.Forall₂ (SpellsArm blocks block.label merge default hasDefault)
        (withDefault (caseArms type words) default hasDefault) arms.parts)
      (way : Structured (.way merge) constructs after) :
      Structured (.rest block) constructs (.switch selector arms :: after)
  | ret {block value constructs} (ending : block.ending? = some (.ret value)) :
      Structured (.rest block) constructs [.ret value constructs.isEmpty]
  | kill {block constructs} (ending : block.ending? = some .kill) :
      Structured (.rest block) constructs [.discard]
  | unreachable {block constructs} (ending : block.ending? = some .unreachable) :
      Structured (.rest block) constructs []

theorem mem_of_findBlock {blocks : List Block} {label : Id} {block : Block}
    (found : findBlock blocks label = .ok block) : block ∈ blocks := by
  unfold findBlock at found
  split at found
  · rename_i stored
    cases found
    exact List.mem_of_find?_eq_some stored
  · cases found

theorem label_of_findBlock {blocks : List Block} {label : Id} {block : Block}
    (found : findBlock blocks label = .ok block) : block.label = label := by
  unfold findBlock at found
  split at found
  · rename_i stored
    cases found
    simpa using List.find?_some stored
  · cases found

def NoSwitch (constructs : List Construct) : Prop :=
  ∀ merge targets, Construct.switch merge targets ∉ constructs

variable {constructs : List Construct} {target : Id} {edge : Edge}

theorem NoSwitch.selection (clear : NoSwitch constructs) (merge : Id) :
    NoSwitch (.selection merge :: constructs) := by
  intro merge targets
  simpa using clear merge targets

theorem NoSwitch.loop (clear : NoSwitch constructs) (header merge continueTarget : Id) :
    NoSwitch (.loop header merge continueTarget :: constructs) := by
  intro merge targets
  simpa using clear merge targets

theorem loopEdge?_cases {header merge continueTarget : Id}
    (found : loopEdge? header merge continueTarget target = some edge) :
    edge = .backEdge ∧ target = header ∨ edge = .leave ∧ target = merge ∨
      edge = .continueBlock target ∧ target = continueTarget := by
  unfold loopEdge? at found
  split at found
  · exact .inl ⟨by simpa using found.symm, ‹_›⟩
  · split at found
    · exact .inr (.inl ⟨by simpa using found.symm, ‹_›⟩)
    · split at found
      · rename_i same
        exact .inr (.inr ⟨by simpa [same] using found.symm, same⟩)
      · contradiction

theorem classifyWithin_loop {header merge continueTarget : Id} {insideSwitch insideLoop : Bool}
    (classified : classifyWithin target insideSwitch insideLoop
      (.loop header merge continueTarget :: constructs) = .ok edge) :
    loopEdge? header merge continueTarget target = some edge ∨
      loopEdge? header merge continueTarget target = none ∧
        classifyWithin target insideSwitch true constructs = .ok edge := by
  simp only [classifyWithin] at classified
  cases found : loopEdge? header merge continueTarget target with
  | none =>
    simp only [found] at classified
    exact .inr ⟨rfl, classified⟩
  | some loopEdge =>
    simp only [found] at classified
    split at classified
    · cases classified
    · split at classified
      · cases classified
      · exact .inl (by simpa using classified)

/-- What a construct makes of a target that it knows. -/
inductive Means (target : Id) : Construct → Edge → Prop
  | stop : Means target (.selection target) .stop
  | leaveSwitch {targets} : Means target (.switch target targets) .leave
  | arm {merge targets} (member : target ∈ targets) :
      Means target (.switch merge targets) .fallthrough
  | again {merge continueTarget} : Means target (.loop target merge continueTarget) .backEdge
  | leave {header continueTarget} : Means target (.loop header target continueTarget) .leave
  | iteration {header merge} : Means target (.loop header merge target) (.continueBlock target)

theorem classifyWithin_means (insideSwitch insideLoop : Bool)
    (classified : classifyWithin target insideSwitch insideLoop constructs = .ok edge) :
    edge = .next target ∨ ∃ construct ∈ constructs, Means target construct edge := by
  induction constructs generalizing insideSwitch insideLoop with
  | nil => exact .inl (by simpa [classifyWithin] using classified.symm)
  | cons construct rest ih =>
    have deeper {switch loop : Bool}
        (classified : classifyWithin target switch loop rest = .ok edge) :
        edge = .next target ∨ ∃ found ∈ construct :: rest, Means target found edge := by
      rcases ih _ _ classified with next | ⟨found, member, means⟩
      · exact .inl next
      · exact .inr ⟨found, List.mem_cons_of_mem _ member, means⟩
    have here (means : Means target construct edge) :
        edge = .next target ∨ ∃ found ∈ construct :: rest, Means target found edge :=
      .inr ⟨construct, List.mem_cons_self, means⟩
    cases construct with
    | selection merge =>
      simp only [classifyWithin] at classified
      split at classified
      · subst merge
        cases classified
        exact here .stop
      · exact deeper classified
    | switch merge targets =>
      simp only [classifyWithin] at classified
      split at classified
      · subst merge
        cases classified
        exact here .leaveSwitch
      · split at classified
        · cases classified
          exact here (.arm ‹_›)
        · exact deeper classified
    | loop header merge continueTarget =>
      rcases classifyWithin_loop classified with found | ⟨_, classified⟩
      · rcases loopEdge?_cases found with ⟨rfl, rfl⟩ | ⟨rfl, rfl⟩ | ⟨rfl, rfl⟩
        · exact here .again
        · exact here .leave
        · exact here .iteration
      · exact deeper classified

theorem classify_means (classified : classify constructs target = .ok edge) :
    edge = .next target ∨ ∃ construct ∈ constructs, Means target construct edge :=
  classifyWithin_means false false classified

theorem classify_cases (clear : NoSwitch constructs)
    (classified : classify constructs target = .ok edge) :
    edge = .stop ∨ edge = .leave ∨ edge = .backEdge ∨ edge = .continueBlock target ∨
      edge = .next target := by
  rcases classify_means classified with rfl | ⟨construct, member, means⟩
  · simp
  · cases means with
    | arm => exact absurd member (clear _ _)
    | _ => simp

variable {program blocks} {code : List Listing}

theorem way_merge {merge : Id} :
    Structured program blocks (.way merge) (.selection merge :: constructs) code ↔ code = [] := by
  have classified : classify (.selection merge :: constructs) merge = .ok .stop := by
    simp [classify, classifyWithin]
  constructor
  · intro way
    cases way <;> simp_all
  · rintro rfl
    exact .stop classified

theorem way_omitted {accepted rejected merge : Id} {edgeMoves : List (Id × Id)}
    (way : Structured program blocks (.way rejected) (.selection merge :: constructs) code)
    (nothing : assigns edgeMoves ++ code = [] ∨ (accepted = merge ∧ rejected = merge)) :
    code = [] := by
  rcases nothing with nothing | ⟨_, rfl⟩
  · exact (List.append_eq_nil_iff.mp nothing).2
  · exact way_merge.mp way

theorem way_next (way : Structured program blocks (.way target) constructs code)
    (classified : classify constructs target = .ok (.next target)) :
    Structured program blocks (.chain target) constructs code := by
  cases way with
  | next _ goesOn => exact goesOn
  | _ other => simp [classified] at other

theorem Leads.not_next (leads : Leads constructs target) :
    classify constructs target ≠ .ok (.next target) := by
  obtain ⟨edge, classified, structural⟩ := leads
  intro other
  rw [classified] at other
  cases other
  cases structural

end Structure

variable {σ : Type}

structure Meaning (σ : Type) where
  body : Id → σ → σ
  holds : Id → σ → Bool
  /-- The text of the case that a selector selects. -/
  literal : Id → σ → String
  assign : Id → Id → σ → σ

/-- The blocks that are entered, each with the state it starts in. -/
inductive Run (σ : Type)
  | cut
  | done
  | enter (label : Id) (start : σ) (rest : Run σ)

def Run.labels : Run σ → List Id
  | .cut | .done => []
  | .enter label _ rest => label :: rest.labels

/-- What comes after a statement, for the number of blocks that are left to follow. -/
structure Exits (σ : Type) where
  next : Nat → σ → Run σ
  leave : Nat → σ → Run σ
  again : Nat → σ → Run σ

def Exits.ends : Exits σ := ⟨fun _ _ => .done, fun _ _ => .done, fun _ _ => .done⟩

/-- At most `count` iterations, each given what the following ones do. -/
def iterate (step : (Nat → σ → Run σ) → Nat → σ → Run σ) : (count : Nat) → Nat → σ → Run σ
  | 0, _, _ => .cut
  | count + 1, n, s => step (iterate step count) n s

namespace Meaning

variable (meaning : Meaning σ)

mutual

/-- Run a listing. A return that is last in the text goes on to the end of it, and discarding a
fragment does not change where control goes. Every iteration of a loop enters a block, so there are
no more iterations than blocks to follow. -/
def exec : Listing → Exits σ → Nat → σ → Run σ
  | .skip, exits, n, s => exits.next n s
  | .seq first second, exits, n, s => exec first { exits with next := exec second exits } n s
  | .block _, _, 0, _ => .cut
  | .block label, exits, n + 1, s => .enter label s (exits.next n (meaning.body label s))
  | .assign phi value, exits, n, s => exits.next n (meaning.assign phi value s)
  | .when condition expected arm, exits, n, s =>
    if meaning.holds condition s = expected then exec arm exits n s else exits.next n s
  | .branch condition expected arm other, exits, n, s =>
    if meaning.holds condition s = expected then exec arm exits n s else exec other exits n s
  | .loop body, exits, n, s =>
    iterate (fun again => exec body { next := again, leave := exits.next, again }) (n + 1) n s
  | .switch selector arms, exits, n, s =>
    let inner := { exits with leave := exits.next }
    let literal := meaning.literal selector s
    execFrom (fun literals _ => literal ∈ literals) arms inner
      (execFrom (fun _ isDefault => isDefault) arms inner exits.next) n s
  | .arm _ _ body, exits, n, s => exec body exits n s
  | .leave, exits, n, s => exits.leave n s
  | .again, exits, n, s => exits.again n s
  | .ret _ last, exits, n, s => if last then exits.next n s else .done
  | .discard, exits, n, s => exits.next n s

/-- Run the arms of a switch from the first one that is selected, or what is given for the case
that there is none. -/
def execFrom (selected : List String → Bool → Bool) :
    Listing → Exits σ → (Nat → σ → Run σ) → Nat → σ → Run σ
  | .seq first second, exits, missed, n, s =>
    execFrom selected first { exits with next := exec second exits }
      (execFrom selected second exits missed) n s
  | .arm literals isDefault body, exits, missed, n, s =>
    if selected literals isDefault then exec body exits n s else missed n s
  | _, _, missed, n, s => missed n s

end

def execAll : List Listing → Exits σ → Nat → σ → Run σ
  | [], exits => exits.next
  | statement :: rest, exits => meaning.exec statement { exits with next := execAll rest exits }

def move (moves : List (Id × Id)) (s : σ) : σ :=
  moves.foldl (fun s (phi, value) => meaning.assign phi value s) s

@[simp] theorem move_nil (s : σ) : meaning.move [] s = s := rfl

@[simp] theorem move_cons (first : Id × Id) (rest : List (Id × Id)) (s : σ) :
    meaning.move (first :: rest) s = meaning.move rest (meaning.assign first.1 first.2 s) := rfl

theorem move_append (front back : List (Id × Id)) (s : σ) :
    meaning.move (front ++ back) s = meaning.move back (meaning.move front s) := List.foldl_append

@[simp] theorem execAll_nil (exits : Exits σ) : meaning.execAll [] exits = exits.next := rfl

@[simp] theorem execAll_cons (statement : Listing) (rest : List Listing) (exits : Exits σ) :
    meaning.execAll (statement :: rest) exits =
      meaning.exec statement { exits with next := meaning.execAll rest exits } := rfl

theorem execAll_append (front back : List Listing) (exits : Exits σ) :
    meaning.execAll (front ++ back) exits =
      meaning.execAll front { exits with next := meaning.execAll back exits } := by
  induction front with
  | nil => rfl
  | cons statement rest ih => rw [List.cons_append, execAll_cons, ih, execAll_cons]

theorem exec_parts (listing : Listing) (exits : Exits σ) :
    meaning.execAll listing.parts exits = meaning.exec listing exits := by
  induction listing generalizing exits with
  | skip =>
    funext n s
    rw [Listing.parts, execAll_nil, exec]
  | seq first second firstIh secondIh =>
    funext n s
    rw [Listing.parts, execAll_append, firstIh, secondIh, exec]
  | _ => rfl

theorem exec_eq {listing : Listing} {code : List Listing} (spells : listing.parts = code)
    (exits : Exits σ) : meaning.exec listing exits = meaning.execAll code exits := by
  rw [← spells, exec_parts]

theorem execAll_assigns (moves : List (Id × Id)) (code : List Listing) (exits : Exits σ) (n : Nat)
    (s : σ) :
    meaning.execAll (assigns moves ++ code) exits n s =
      meaning.execAll code exits n (meaning.move moves s) := by
  induction moves generalizing s with
  | nil => rfl
  | cons first rest ih =>
    change meaning.exec (.assign first.1 first.2) _ n s = _
    rw [exec]
    exact ih _

/-- Run statements from the first arm among them that is selected. -/
def execFromAll (selected : List String → Bool → Bool) :
    List Listing → Exits σ → (Nat → σ → Run σ) → Nat → σ → Run σ
  | [], _, missed => missed
  | statement :: rest, exits, missed =>
    meaning.execFrom selected statement { exits with next := meaning.execAll rest exits }
      (execFromAll selected rest exits missed)

theorem execFromAll_append (selected : List String → Bool → Bool) (front back : List Listing)
    (exits : Exits σ) (missed : Nat → σ → Run σ) :
    meaning.execFromAll selected (front ++ back) exits missed =
      meaning.execFromAll selected front { exits with next := meaning.execAll back exits }
        (meaning.execFromAll selected back exits missed) := by
  induction front with
  | nil => rfl
  | cons statement rest ih =>
    rw [List.cons_append, execFromAll, ih, execFromAll, execAll_append]

theorem execFrom_parts (selected : List String → Bool → Bool) (listing : Listing) (exits : Exits σ)
    (missed : Nat → σ → Run σ) :
    meaning.execFromAll selected listing.parts exits missed =
      meaning.execFrom selected listing exits missed := by
  induction listing generalizing exits missed with
  | skip =>
    funext n s
    rw [Listing.parts, execFromAll, execFrom]
    all_goals nofun
  | seq first second firstIh secondIh =>
    funext n s
    rw [Listing.parts, execFromAll_append, firstIh, secondIh, exec_parts, execFrom]
  | _ => rfl

theorem enters_chain {program : Program} {blocks : List Block} {label : Id}
    {constructs : List Construct} {code : List Listing}
    (structured : Structure.Structured program blocks (.chain label) constructs code)
    (exits : Exits σ) (s : σ) :
    meaning.execAll code exits 0 s = .cut ∧
      ∀ k, ∃ rest, meaning.execAll code exits (k + 1) s = .enter label s rest := by
  cases structured with
  | plain => simp [exec]
  | loop found merges spells =>
    simp only [execAll_cons, exec, iterate, meaning.exec_eq spells]
    simp

end Meaning

end SpirvMetal
