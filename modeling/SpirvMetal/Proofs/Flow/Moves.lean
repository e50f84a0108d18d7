import SpirvMetal.Proofs.Flow.Graph

/-!
Assignments to phis. Between the end of a block and the start of the one that control goes to, the
text makes the assignments for that edge, in order and once.
-/

namespace SpirvMetal

open Meaning

variable {σ : Type}

namespace Meaning

variable (meaning : Meaning σ)

def selects (program : Program) (block : Block) (s : σ) : Option Id :=
  match block.ending? with
  | some (.switch selector default words) =>
    match program.expressionType selector with
    | .ok type =>
      let literal := meaning.literal selector s
      let found := (Structure.caseArms type words).find? (literal ∈ ·.literals)
      some (found.elim default (·.target))
    | .error _ => none
  | _ => meaning.chooses block s

/-- Both arms of the selection are its merge block, and the condition does not hold. -/
def Skips (block : Block) (s : σ) : Prop :=
  ∃ condition merge, block.ending? = some (.conditional condition merge merge) ∧
    Structure.selectionMerge block = .ok (some merge) ∧ meaning.holds condition s = false

end Meaning

namespace Structure

variable {edgeMoves onwardMoves : List (Id × Id)}
  {condition accepted rejected merge continueTarget onward default selector : Id}
  {falls hasDefault : Bool} {after onwardCode : List Listing} {arms : Listing}

def ClosesLoop (blocks : List Block) (label : Id) : Prop :=
  ∃ header block merge, findBlock blocks header = .ok block ∧
    loopMerge block = .ok (some (merge, label))

variable (program : Program) (blocks : List Block) (meaning : Meaning σ)

/-- If the run goes on where the block sends it, other than into an arm of a switch, then it starts
there with the assignments for the edge made, or without them if they are skipped. A block that ends
an iteration is listed with both of its arms. -/
def Hands (block : Block) (s : σ) (run : Run σ) : Prop :=
  ∀ next start rest, run = .enter next start rest →
    meaning.selects program block s = some next → PassesTo block next →
    ∃ edgeMoves, moves blocks block.label next = .ok edgeMoves ∧
      (¬ meaning.Skips block s → start = meaning.move edgeMoves s) ∧
      (meaning.Skips block s →
        start = s ∨ ClosesLoop blocks block.label ∧ start = meaning.move edgeMoves s)

/-- Every block hands over to the next one in this way. -/
def HandsOver : Run σ → Prop
  | .cut | .done => True
  | .enter label s rest =>
    (∀ block, findBlock blocks label = .ok block →
      Hands program blocks meaning block (meaning.body label s) rest) ∧ HandsOver rest

/-- The run makes no assignments before it enters a block. -/
def Silent (run : Run σ) (s : σ) : Prop :=
  ∀ label start rest, run = .enter label start rest → start = s

def SilentAt (target : Id) (run : Run σ) (s : σ) : Prop :=
  ∀ start rest, run = .enter target start rest → start = s

/-- What comes after the statements makes no assignments on its own account. Where the text of
another target follows, the run enters no block that the innermost selection could end with. -/
structure Orderly (falls : Bool) (constructs : List Construct) (exits : Exits σ) : Prop where
  loops : ∀ header merge continueTarget, .loop header merge continueTarget ∈ constructs →
    ClosesLoop blocks continueTarget
  next : ∀ n s, HandsOver program blocks meaning (exits.next n s) ∧
    (falls = false → Silent (exits.next n s) s) ∧
    ∀ target, classify constructs target = .ok .stop → SilentAt target (exits.next n s) s
  leave : ∀ n s, HandsOver program blocks meaning (exits.leave n s) ∧ Silent (exits.leave n s) s
  again : ∀ n s, HandsOver program blocks meaning (exits.again n s) ∧ Silent (exits.again n s) s

/-- The statements of a part make the assignments of the edges that they take. -/
def Assigns (part : Part) (constructs : List Construct) (code : List Listing) : Prop :=
  match part with
  | .way target => ∀ falls exits n s, Orderly program blocks meaning falls constructs exits →
      (falls = true → Leads constructs target) →
      HandsOver program blocks meaning (meaning.execAll code exits n s) ∧
        (falls = false → Silent (meaning.execAll code exits n s) s) ∧
        SilentAt target (meaning.execAll code exits n s) s
  | .chain _ => ∀ exits n s, Orderly program blocks meaning false constructs exits →
      HandsOver program blocks meaning (meaning.execAll code exits n s) ∧
        Silent (meaning.execAll code exits n s) s
  | .iterationEnd label => ∀ falls exits n s,
      Orderly program blocks meaning falls constructs exits → ClosesLoop blocks label →
      HandsOver program blocks meaning (meaning.execAll code exits n s) ∧
        Silent (meaning.execAll code exits n s) s
  | .rest block => ∀ exits n s, Orderly program blocks meaning false constructs exits →
      HandsOver program blocks meaning (meaning.execAll code exits n s) ∧
        Hands program blocks meaning block s (meaning.execAll code exits n s)

variable {program blocks meaning} {constructs : List Construct} {code : List Listing}
  {target label : Id} {block : Block} {exits : Exits σ} {n : Nat} {s : σ} {run : Run σ}

theorem Silent.at (silent : Silent run s) (target : Id) : SilentAt target run s :=
  fun start rest same => silent target start rest same

theorem hands_of_silent (selected : meaning.selects program block s = some target)
    (moved : moves blocks block.label target = .ok edgeMoves)
    (silent : SilentAt target run (meaning.move edgeMoves s))
    (made : meaning.Skips block s → ClosesLoop blocks block.label) :
    Hands program blocks meaning block s run := by
  intro next start rest same chosen _
  rw [selected] at chosen
  cases chosen
  have started := silent start rest same
  exact ⟨edgeMoves, moved, fun _ => started, fun skips => .inr ⟨made skips, started⟩⟩

theorem selects_branch (ending : block.ending? = some (.branch target)) :
    meaning.selects program block s = some target := by
  simp [selects, chooses, ending]

theorem selects_conditional
    (ending : block.ending? = some (.conditional condition accepted rejected)) :
    meaning.selects program block s =
      some (if meaning.holds condition s then accepted else rejected) := by
  simp [selects, chooses, ending]

theorem skips_branch (ending : block.ending? = some (.branch target)) :
    ¬ meaning.Skips block s := by
  rintro ⟨_, _, other, _⟩
  rw [ending] at other
  cases other

theorem skips_unmerged (merges : selectionMerge block = .ok none) : ¬ meaning.Skips block s := by
  rintro ⟨_, _, _, other, _⟩
  rw [merges] at other
  cases other

theorem handsOver_block (found : findBlock blocks label = .ok block)
    (follows : ∀ k, HandsOver program blocks meaning
        (meaning.execAll code exits k (meaning.body label s)) ∧
      Hands program blocks meaning block (meaning.body label s)
        (meaning.execAll code exits k (meaning.body label s))) :
    HandsOver program blocks meaning (meaning.execAll (.block label :: code) exits n s) ∧
      Silent (meaning.execAll (.block label :: code) exits n s) s := by
  rw [execAll_cons]
  cases n with
  | zero =>
    rw [exec]
    exact ⟨trivial, by rintro _ _ _ ⟨⟩⟩
  | succ k =>
    rw [exec]
    refine ⟨⟨fun other foundOther => ?_, (follows k).1⟩, fun _ _ _ same => ?_⟩
    · rw [found] at foundOther
      cases foundOther
      exact (follows k).2
    · cases same
      rfl

theorem Orderly.closesLoop {other : Id}
    (orderly : Orderly program blocks meaning falls constructs exits)
    (classified : classify constructs target = .ok (.continueBlock other)) :
    ClosesLoop blocks target := by
  rcases classify_means classified with next | ⟨construct, member, means⟩
  · cases next
  · cases means
    exact orderly.loops _ _ _ member

theorem hands_edge (orderly : Orderly program blocks meaning falls constructs exits)
    (selected : meaning.selects program block s = some target)
    (leads : falls = true → Leads constructs target)
    (moved : moves blocks block.label target = .ok edgeMoves)
    (way : Assigns program blocks meaning (.way target) constructs code)
    (made : meaning.Skips block s → ClosesLoop blocks block.label) :
    HandsOver program blocks meaning (meaning.execAll (assigns edgeMoves ++ code) exits n s) ∧
      Hands program blocks meaning block s
        (meaning.execAll (assigns edgeMoves ++ code) exits n s) := by
  rw [meaning.execAll_assigns]
  obtain ⟨handsOver, _, silent⟩ := way falls exits n (meaning.move edgeMoves s) orderly leads
  exact ⟨handsOver, hands_of_silent selected moved silent made⟩

section

variable {condition accepted rejected : Id} {acceptedMoves rejectedMoves : List (Id × Id)}
  {acceptedCode rejectedCode : List Listing} {arm other : Listing} {falls : Bool}

theorem hands_arm (taken : Bool) {edgeMoves : List (Id × Id)}
    (orderly : Orderly program blocks meaning falls constructs exits)
    (ending : block.ending? = some (.conditional condition accepted rejected))
    (leads : falls = true → Leads constructs (cond taken accepted rejected))
    (moved : moves blocks block.label (cond taken accepted rejected) = .ok edgeMoves)
    (way : Assigns program blocks meaning (.way (cond taken accepted rejected)) constructs code)
    (made : taken = false → meaning.Skips block s → ClosesLoop blocks block.label)
    (held : meaning.holds condition s = taken) :
    HandsOver program blocks meaning (meaning.execAll (assigns edgeMoves ++ code) exits n s) ∧
      Hands program blocks meaning block s
        (meaning.execAll (assigns edgeMoves ++ code) exits n s) := by
  refine hands_edge orderly ?_ leads moved way fun skips => ?_
  · rw [selects_conditional ending, held]
    cases taken <;> rfl
  · have ⟨_, _, same, _, rejects⟩ := skips
    rw [ending] at same
    cases same
    exact made (held.symm.trans rejects) skips

variable (ending : block.ending? = some (.conditional condition accepted rejected))
  (accepts : arm.parts = assigns acceptedMoves ++ acceptedCode)
  (rejects : other.parts = assigns rejectedMoves ++ rejectedCode)
  (acceptedWay : Assigns program blocks meaning (.way accepted) constructs acceptedCode)
  (rejectedWay : Assigns program blocks meaning (.way rejected) constructs rejectedCode)

include ending accepts rejects acceptedWay rejectedWay

theorem hands_branch (orderly : Orderly program blocks meaning falls constructs exits)
    (acceptedLeads : falls = true → Leads constructs accepted)
    (rejectedLeads : falls = true → Leads constructs rejected)
    (acceptedMoved : moves blocks block.label accepted = .ok acceptedMoves)
    (rejectedMoved : moves blocks block.label rejected = .ok rejectedMoves)
    (made : meaning.Skips block s → ClosesLoop blocks block.label) :
    HandsOver program blocks meaning (meaning.exec (.branch condition true arm other) exits n s) ∧
      Hands program blocks meaning block s
        (meaning.exec (.branch condition true arm other) exits n s) := by
  rw [exec, meaning.exec_eq accepts, meaning.exec_eq rejects]
  cases held : meaning.holds condition s with
  | true =>
    exact hands_arm true orderly ending acceptedLeads acceptedMoved acceptedWay (by simp) held
  | false =>
    exact hands_arm false orderly ending rejectedLeads rejectedMoved rejectedWay (fun _ => made)
      held

end

theorem Orderly.loop {header : Id} {again : Nat → σ → Run σ}
    (orderly : Orderly program blocks meaning false constructs exits)
    (closes : ClosesLoop blocks continueTarget)
    (way : Assigns program blocks meaning (.way merge) constructs after)
    (iterates : ∀ n s, HandsOver program blocks meaning (again n s) ∧ Silent (again n s) s) :
    Orderly program blocks meaning false (.loop header merge continueTarget :: constructs)
      { next := again, leave := meaning.execAll after exits, again } where
  loops other otherMerge target member := by
    rcases List.mem_cons.mp member with same | member
    · cases same
      exact closes
    · exact orderly.loops other otherMerge target member
  next n s :=
    ⟨(iterates n s).1, fun _ => (iterates n s).2, fun target _ => (iterates n s).2.at target⟩
  leave n s := by
    obtain ⟨handsOver, silent, _⟩ := way false exits n s orderly (by simp)
    exact ⟨handsOver, silent rfl⟩
  again := iterates

theorem assigns_loop {body : Listing} (found : findBlock blocks label = .ok block)
    (merges : loopMerge block = .ok (some (merge, continueTarget)))
    (spells : body.parts = .block label :: code)
    (rest : Assigns program blocks meaning (.rest block)
      (.loop label merge continueTarget :: constructs) code)
    (way : Assigns program blocks meaning (.way merge) constructs after) :
    Assigns program blocks meaning (.chain label) constructs (.loop body :: after) := by
  intro exits n s orderly
  let step (again : Nat → σ → Run σ) : Nat → σ → Run σ := meaning.execAll (.block label :: code)
    { next := again, leave := meaning.execAll after exits, again }
  have closes : ClosesLoop blocks continueTarget := ⟨label, block, merge, found, merges⟩
  -- By induction on the iterations: the header is entered at once, whatever iterations follow.
  have iterates : ∀ count n s, HandsOver program blocks meaning (iterate step count n s) ∧
      Silent (iterate step count n s) s := by
    intro count
    induction count with
    | zero => exact fun _ _ => ⟨trivial, by rintro _ _ _ ⟨⟩⟩
    | succ count ih =>
      intro n s
      exact handsOver_block found fun k =>
        rest _ k (meaning.body label s) (orderly.loop closes way ih)
  rw [execAll_cons, exec]
  simp only [meaning.exec_eq spells]
  exact iterates (n + 1) n s

theorem Orderly.selection (orderly : Orderly program blocks meaning false constructs exits)
    (way : Assigns program blocks meaning (.way merge) constructs after) :
    Orderly program blocks meaning false (.selection merge :: constructs)
      { exits with next := meaning.execAll after exits } where
  loops header other continueTarget member := by
    rcases List.mem_cons.mp member with same | member
    · cases same
    · exact orderly.loops header other continueTarget member
  next n s := by
    obtain ⟨handsOver, silent, _⟩ := way false exits n s orderly (by simp)
    exact ⟨handsOver, silent, fun target _ => (silent rfl).at target⟩
  leave := orderly.leave
  again := orderly.again

section

variable {condition accepted rejected merge : Id} {acceptedMoves rejectedMoves : List (Id × Id)}
  {acceptedCode rejectedCode after : List Listing} {statement : Listing}

/-- An arm that is left out holds no assignments, other than if both arms are the merge block. -/
theorem hands_omitted {edgeMoves : List (Id × Id)}
    (selected : meaning.selects program block s = some target)
    (moved : moves blocks block.label target = .ok edgeMoves) (silent : Silent run s)
    (omitted : edgeMoves = [] ∨ meaning.Skips block s) :
    Hands program blocks meaning block s run := by
  intro next start rest same chosen _
  rw [selected] at chosen
  cases chosen
  have started := silent _ start rest same
  refine ⟨edgeMoves, moved, fun unskipped => ?_, fun _ => .inl started⟩
  rcases omitted with rfl | skips
  · exact started
  · exact absurd skips unskipped

theorem assigns_selection
    (ending : block.ending? = some (.conditional condition accepted rejected))
    (merges : selectionMerge block = .ok (some merge))
    (acceptedMoved : moves blocks block.label accepted = .ok acceptedMoves)
    (rejectedMoved : moves blocks block.label rejected = .ok rejectedMoves)
    (forks : Forks condition (assigns acceptedMoves ++ acceptedCode)
      (assigns rejectedMoves ++ rejectedCode) (accepted = merge ∧ rejected = merge) statement)
    (acceptedWay : Assigns program blocks meaning (.way accepted) (.selection merge :: constructs)
      acceptedCode)
    (rejectedWay : Assigns program blocks meaning (.way rejected) (.selection merge :: constructs)
      rejectedCode)
    (way : Assigns program blocks meaning (.way merge) constructs after) :
    Assigns program blocks meaning (.rest block) constructs (statement :: after) := by
  intro exits n s orderly
  have inner := orderly.selection way
  have made (differ : ¬ (accepted = merge ∧ rejected = merge)) :
      meaning.Skips block s → ClosesLoop blocks block.label := by
    rintro ⟨_, both, same, merged, _⟩
    rw [ending] at same
    rw [merges] at merged
    cases same
    cases merged
    exact absurd ⟨rfl, rfl⟩ differ
  have follows := inner.next n s
  rw [execAll_cons]
  cases forks with
  | both differ accepts rejects =>
    exact hands_branch ending accepts rejects acceptedWay rejectedWay inner (by simp) (by simp)
      acceptedMoved rejectedMoved (made differ)
  | swapped differ rejects accepts =>
    rw [exec, meaning.exec_eq accepts, meaning.exec_eq rejects]
    cases held : meaning.holds condition s with
    | true => exact hands_arm true inner ending (by simp) acceptedMoved acceptedWay (by simp) held
    | false =>
      exact hands_arm false inner ending (by simp) rejectedMoved rejectedWay
        (fun _ => made differ) held
  | accepted accepts nothing =>
    rw [exec, meaning.exec_eq accepts]
    cases held : meaning.holds condition s with
    | true => exact hands_arm true inner ending (by simp) acceptedMoved acceptedWay (by simp) held
    | false =>
      have selected : meaning.selects program block s = some rejected := by
        rw [selects_conditional ending, held]
        rfl
      refine ⟨follows.1, hands_omitted selected rejectedMoved (follows.2.1 rfl) ?_⟩
      rcases nothing with nothing | ⟨rfl, rfl⟩
      · have none := (List.append_eq_nil_iff.mp nothing).1
        exact .inl (by simpa [assigns] using none)
      · exact .inr ⟨condition, _, ending, merges, held⟩
  | rejected differ rejects nothing =>
    rw [exec, meaning.exec_eq rejects]
    cases held : meaning.holds condition s with
    | false =>
      exact hands_arm false inner ending (by simp) rejectedMoved rejectedWay
        (fun _ => made differ) held
    | true =>
      have selected : meaning.selects program block s = some accepted := by
        rw [selects_conditional ending, held]
        rfl
      have none := (List.append_eq_nil_iff.mp nothing).1
      exact ⟨follows.1, hands_omitted selected acceptedMoved (follows.2.1 rfl)
        (.inl (by simpa [assigns] using none))⟩

end

theorem Orderly.exit (orderly : Orderly program blocks meaning false constructs exits)
    (onwardNext : classify constructs onward = .ok (.next onward))
    (structured : Structured program blocks (.way onward) constructs onwardCode)
    (way : Assigns program blocks meaning (.way onward) constructs onwardCode) :
    Orderly program blocks meaning true constructs
      { exits with next := meaning.execAll (assigns onwardMoves ++ onwardCode) exits } where
  loops := orderly.loops
  next n s := by
    simp only [meaning.execAll_assigns]
    refine ⟨(way false exits n _ orderly (by simp)).1, by simp,
      fun target stops start rest same => ?_⟩
    -- The text behind the way out enters its own block, and no selection ends with that one.
    have enters := meaning.enters_chain (way_next structured onwardNext) exits
      (meaning.move onwardMoves s)
    cases n with
    | zero =>
      rw [enters.1] at same
      cases same
    | succ k =>
      obtain ⟨_, entered⟩ := enters.2 k
      rw [entered] at same
      cases same
      rw [onwardNext] at stops
      cases stops
  leave := orderly.leave
  again := orderly.again

section

variable {merge default : Id} {hasDefault : Bool} {found : List Arm} {arms : List Listing}

variable (meaning)

theorem exec_arms
    (spells : List.Forall₂ (SpellsArm blocks label merge default hasDefault) found arms)
    (same : exits.leave = exits.next) (n : Nat) (s : σ) :
    ∃ start, meaning.execAll arms exits n s = exits.next n start := by
  induction spells generalizing s with
  | nil => exact ⟨s, rfl⟩
  | cons spelled _ ih =>
    obtain ⟨body, edgeMoves, rfl, _, spelled⟩ := spelled
    rw [execAll_cons, exec, meaning.exec_eq spelled, meaning.execAll_assigns]
    split
    · rw [execAll_cons, exec, same]
      exact ⟨_, rfl⟩
    · exact ih _

/-- The first arm that is selected decides. The one for the merge block makes the assignments of its
edge and leaves. -/
theorem execFrom_arms (selected : List String → Bool → Bool)
    (spells : List.Forall₂ (SpellsArm blocks label merge default hasDefault) found arms)
    (same : exits.leave = exits.next) (missed : Nat → σ → Run σ) (n : Nat) (s : σ) :
    match found.find? fun arm => selected arm.literals (hasDefault && arm.target = default) with
    | none => meaning.execFromAll selected arms exits missed n s = missed n s
    | some arm => ∃ edgeMoves start, moves blocks label arm.target = .ok edgeMoves ∧
        meaning.execFromAll selected arms exits missed n s = exits.next n start ∧
        (arm.target = merge → start = meaning.move edgeMoves s) := by
  induction spells with
  | nil => rfl
  | @cons arm _ _ _ spelled rest ih =>
    obtain ⟨body, edgeMoves, rfl, moved, spelled⟩ := spelled
    rw [List.find?_cons, execFromAll, execFrom]
    cases chosen : selected arm.literals (hasDefault && arm.target = default) with
    | false => exact ih
    | true =>
      rw [if_pos rfl, meaning.exec_eq spelled, meaning.execAll_assigns]
      by_cases leaves : arm.target = merge
      · rw [if_pos leaves, execAll_cons, exec, same]
        exact ⟨edgeMoves, _, moved, rfl, fun _ => rfl⟩
      · rw [if_neg leaves, execAll_nil]
        obtain ⟨start, follows⟩ := exec_arms meaning rest same n (meaning.move edgeMoves s)
        exact ⟨edgeMoves, start, moved, follows, fun target => absurd target leaves⟩

end

theorem find?_withDefault (cases : List Arm) (default : Id) (hasDefault : Bool) (literal : String) :
    (withDefault cases default hasDefault).find? (literal ∈ ·.literals) =
      cases.find? (literal ∈ ·.literals) := by
  unfold withDefault
  split
  · simp [List.find?_append]
  · rfl

theorem find?_default (cases : List Arm) (default : Id) :
    ∃ arm, (withDefault cases default true).find? (·.target = default) = some arm ∧
      arm.target = default := by
  have listed : ((withDefault cases default true).find? (·.target = default)).isSome := by
    rw [List.find?_isSome]
    unfold withDefault
    split
    · exact ⟨⟨default, []⟩, by simp, by simp⟩
    · rename_i shared
      simpa using shared
  obtain ⟨arm, found⟩ := Option.isSome_iff_exists.mp listed
  exact ⟨arm, found, by simpa using List.find?_some found⟩

theorem moves_of_listsDefault (defaults : listsDefault blocks label default merge = .ok false) :
    default = merge ∧ moves blocks label merge = .ok [] := by
  unfold listsDefault at defaults
  split at defaults
  · cases defaults
  · rename_i same
    exact ⟨not_not.mp same, moves_of_hasMoves defaults⟩

/-- A switch goes on with what follows it. If it was sent there, it made the assignments of the edge
and no others. -/
theorem exec_switch {cases : List Arm}
    (defaults : listsDefault blocks label default merge = .ok hasDefault)
    (spells : List.Forall₂ (SpellsArm blocks label merge default hasDefault)
      (withDefault cases default hasDefault) arms.parts) (meaning : Meaning σ) (exits : Exits σ)
    (n : Nat) (s : σ)
    (selected : (cases.find? (meaning.literal selector s ∈ ·.literals)).elim default (·.target) =
      target) :
    ∃ edgeMoves start, moves blocks label target = .ok edgeMoves ∧
      meaning.exec (.switch selector arms) exits n s = exits.next n start ∧
      (target = merge → start = meaning.move edgeMoves s) := by
  let inner : Exits σ := { exits with leave := exits.next }
  let otherwise := meaning.execFromAll (fun _ isDefault => isDefault) arms.parts inner exits.next
  have runs : meaning.exec (.switch selector arms) exits n s =
      meaning.execFromAll (fun literals _ => meaning.literal selector s ∈ literals) arms.parts
        inner otherwise n s := by
    rw [exec, meaning.execFrom_parts]
    simp only [inner, otherwise, meaning.execFrom_parts]
  rw [runs]
  have joins : inner.leave = inner.next := rfl
  have byLiteral := execFrom_arms meaning (fun literals _ => meaning.literal selector s ∈ literals)
    spells joins otherwise n s
  have byDefault := execFrom_arms meaning (fun _ isDefault => isDefault) spells joins exits.next n s
  rw [find?_withDefault] at byLiteral
  cases found : cases.find? (meaning.literal selector s ∈ ·.literals) with
  | some arm =>
    simp only [found] at byLiteral selected
    cases selected
    exact byLiteral
  | none =>
    -- No case has the literal, so the default decides, with or without an arm.
    simp only [found] at byLiteral selected
    cases selected
    rw [byLiteral]
    cases hasDefault with
    | true =>
      obtain ⟨arm, listed, same⟩ := find?_default cases default
      simp only [Bool.true_and, listed, same] at byDefault
      exact byDefault
    | false =>
      obtain ⟨rfl, moved⟩ := moves_of_listsDefault defaults
      have unlisted : (withDefault cases default false).find? (fun _ => false) = none := by simp
      simp only [Bool.false_and, unlisted] at byDefault
      exact ⟨[], s, moved, byDefault, fun _ => rfl⟩

theorem hands_nothing (selected : meaning.selects program block s = none) :
    Hands program blocks meaning block s run := by
  intro next start rest _ chosen
  rw [selected] at chosen
  cases chosen

theorem Structured.assigns {part : Part}
    (structured : Structured program blocks part constructs code) :
    Assigns program blocks meaning part constructs code := by
  induction structured with
  | stop classified =>
    intro falls exits n s orderly _
    obtain ⟨handsOver, silent, silentAt⟩ := orderly.next n s
    exact ⟨handsOver, silent, silentAt _ classified⟩
  | leave =>
    intro falls exits n s orderly _
    rw [execAll_cons, exec]
    obtain ⟨handsOver, silent⟩ := orderly.leave n s
    exact ⟨handsOver, fun _ => silent, silent.at _⟩
  | again =>
    intro falls exits n s orderly _
    rw [execAll_cons, exec]
    obtain ⟨handsOver, silent⟩ := orderly.again n s
    exact ⟨handsOver, fun _ => silent, silent.at _⟩
  | iteration classified _ ih =>
    intro falls exits n s orderly _
    obtain ⟨handsOver, silent⟩ := ih falls exits n s orderly (orderly.closesLoop classified)
    exact ⟨handsOver, fun _ => silent, silent.at _⟩
  | next classified _ ih =>
    intro falls exits n s orderly leads
    cases falls with
    | true => exact absurd classified (leads rfl).not_next
    | false =>
      obtain ⟨handsOver, silent⟩ := ih exits n s orderly
      exact ⟨handsOver, fun _ => silent, silent.at _⟩
  | closing found ending leads moved _ ih =>
    intro falls exits n s orderly closes
    refine handsOver_block found fun k => ?_
    rw [← label_of_findBlock found] at moved closes
    exact hands_edge orderly (selects_branch ending) (fun _ => leads) moved ih fun _ => closes
  | closingEither found ending acceptedLeads rejectedLeads acceptedMoved rejectedMoved accepts
      rejects _ _ acceptedIh rejectedIh =>
    intro falls exits n s orderly closes
    refine handsOver_block found fun k => ?_
    rw [← label_of_findBlock found] at acceptedMoved rejectedMoved closes
    exact hands_branch ending accepts rejects acceptedIh rejectedIh orderly
      (fun _ => acceptedLeads) (fun _ => rejectedLeads) acceptedMoved rejectedMoved fun _ => closes
  | plain found _ _ ih =>
    intro exits n s orderly
    exact handsOver_block found fun k => ih exits k (meaning.body _ s) orderly
  | loop found merges spells _ _ restIh wayIh =>
    exact assigns_loop found merges spells restIh wayIh
  | branch ending moved _ ih =>
    intro exits n s orderly
    exact hands_edge orderly (selects_branch ending) (by simp) moved ih
      fun skips => absurd skips (skips_branch ending)
  | selection ending merges acceptedMoved rejectedMoved forks _ _ _ acceptedIh rejectedIh ih =>
    exact assigns_selection ending merges acceptedMoved rejectedMoved forks acceptedIh rejectedIh ih
  | onlyTarget ending merges moved _ ih =>
    intro exits n s orderly
    refine hands_edge orderly ?_ (by simp) moved ih
      fun skips => absurd skips (skips_unmerged merges)
    rw [selects_conditional ending, ite_self]
  | exits ending merges _ acceptedLeads rejectedLeads acceptedMoved rejectedMoved accepts rejects
      _ _ acceptedIh rejectedIh =>
    intro exits n s orderly
    exact hands_branch ending accepts rejects acceptedIh rejectedIh orderly
      (fun _ => acceptedLeads) (fun _ => rejectedLeads) acceptedMoved rejectedMoved
      fun skips => absurd skips (skips_unmerged merges)
  | @exit block condition _ _ constructs _ _ _ onwardMoves _ onwardCode expected _ ending merges
      chosen exitLeads onwardNext exitMoved onwardMoved spells _ onwardWay exitIh onwardIh =>
    intro exits n s orderly
    have inner : Orderly program blocks meaning true constructs
        { exits with
          next := meaning.execAll (SpirvMetal.assigns onwardMoves ++ onwardCode) exits } :=
      orderly.exit onwardNext onwardWay onwardIh
    have made : meaning.Skips block s → ClosesLoop blocks block.label :=
      fun skips => absurd skips (skips_unmerged merges)
    rw [execAll_cons, exec, meaning.exec_eq spells]
    cases expected with
    | true =>
      cases chosen
      cases held : meaning.holds condition s with
      | true =>
        exact hands_arm true inner ending (fun _ => exitLeads) exitMoved exitIh (by simp) held
      | false =>
        exact hands_arm false orderly ending (by simp) onwardMoved onwardIh (fun _ => made) held
    | false =>
      cases chosen
      cases held : meaning.holds condition s with
      | true => exact hands_arm true orderly ending (by simp) onwardMoved onwardIh (by simp) held
      | false =>
        exact hands_arm false inner ending (fun _ => exitLeads) exitMoved exitIh (fun _ => made) held
  | @switch _ _ _ _ merge _ _ _ _ after ending merges typed defaults spells _ ih =>
    intro exits n s orderly
    let inner : Exits σ := { exits with next := meaning.execAll after exits }
    obtain ⟨edgeMoves, start, moved, runs, made⟩ :=
      exec_switch defaults spells meaning inner n s rfl
    rw [execAll_cons, runs]
    obtain ⟨handsOver, silent, _⟩ := ih false exits n start orderly (by simp)
    refine ⟨handsOver, fun next _ rest same chosen passes => ?_⟩
    have atMerge : next = merge := by
      rw [passesTo_switch ending, merges] at passes
      cases passes
      rfl
    simp only [selects, ending, typed, Option.some.injEq] at chosen
    rw [chosen] at moved made
    refine ⟨edgeMoves, moved, fun _ => ?_, ?_⟩
    · rw [← made atMerge]
      exact silent rfl _ _ _ same
    · rintro ⟨_, _, other, _⟩
      rw [ending] at other
      cases other
  | ret ending =>
    intro exits n s orderly
    refine ⟨?_, hands_nothing (by simp [selects, chooses, ending])⟩
    rw [execAll_cons, exec]
    split
    · exact (orderly.next n s).1
    · trivial
  | kill ending =>
    intro exits n s orderly
    refine ⟨?_, hands_nothing (by simp [selects, chooses, ending])⟩
    rw [execAll_cons, exec]
    exact (orderly.next n s).1
  | unreachable ending =>
    intro exits n s orderly
    exact ⟨(orderly.next n s).1, hands_nothing (by simp [selects, chooses, ending])⟩

theorem orderly_ends : Orderly program blocks meaning false [] Exits.ends where
  loops := by simp
  next _ _ := ⟨trivial, fun _ => by rintro _ _ _ ⟨⟩, fun _ _ => by rintro _ _ ⟨⟩⟩
  leave _ _ := ⟨trivial, by rintro _ _ _ ⟨⟩⟩
  again _ _ := ⟨trivial, by rintro _ _ _ ⟨⟩⟩

theorem handsOver_listed {listing : Listing} {first : Id}
    (structured : Structured program blocks (.chain first) [] listing.parts) (n : Nat) (s : σ) :
    HandsOver program blocks meaning (meaning.exec listing Exits.ends n s) := by
  rw [← meaning.exec_parts]
  exact (structured.assigns Exits.ends n s orderly_ends).1

end Structure

end SpirvMetal
