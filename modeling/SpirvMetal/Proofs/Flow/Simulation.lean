import SpirvMetal.Proofs.Flow.Graph

/-!
The listing of a function runs as its graph does, as long as no branch falls into the text of
another target.
-/

namespace SpirvMetal

open List
open Meaning

def Ending.isPlain : Ending → Bool
  | .branch _ | .conditional _ _ _ | .ret _ => true
  | .switch _ _ _ | .kill | .unreachable => false

namespace Structure

variable {σ : Type} (meaning : Meaning σ) (blocks : List Block) (reach : Spot → Prop)
variable {falls : Bool} {spot : Spot} {arm statement : Listing}
  {acceptedMoves rejectedMoves : List (Id × Id)}
  {merge continueTarget header condition accepted rejected onward : Id} {edge : Edge}
  {after acceptedCode rejectedCode onwardCode : List Listing}

def InReach (falls : Bool) (constructs : List Construct) (target : Id) : Prop :=
  ∀ spot, arrive falls constructs target = some spot → reach spot

/-- What comes after the statements does what the graph does just if the run is safe, as long as no
more than `n` blocks are followed. -/
structure Faithful (falls : Bool) (constructs : List Construct) (exits : Exits σ) (n : Nat) :
    Prop where
  clear : NoSwitch constructs
  next : ∀ target, constructs.head? = some (.selection target) → Proper constructs target →
    InReach reach falls constructs target → ∀ k ≤ n, ∀ s,
      exits.next k s = meaning.graph blocks k target s ↔
        SafeWay blocks meaning k falls constructs target s
  leave : ∀ target, classify constructs target = .ok .leave → Proper constructs target →
    InReach reach falls constructs target → ∀ k ≤ n, ∀ s,
      exits.leave k s = meaning.graph blocks k target s ↔
        SafeWay blocks meaning k falls constructs target s
  again : ∀ target, classify constructs target = .ok .backEdge → Proper constructs target →
    InReach reach falls constructs target → ∀ k ≤ n, ∀ s,
      exits.again k s = meaning.graph blocks k target s ↔
        SafeWay blocks meaning k falls constructs target s
  last : constructs = [] → ∀ k s, exits.next k s = .done

def Plain (block : Block) : Prop :=
  ∀ ending, block.ending? = some ending → ending.isPlain = true

/-- The statements of a part do what the graph does just if the run is safe. -/
def Simulates (part : Part) (constructs : List Construct) (code : List Listing) : Prop :=
  match part with
  | .way target => ∀ falls exits n s, Faithful meaning blocks reach falls constructs exits n →
      Proper constructs target → InReach reach falls constructs target →
      (falls = true → Leads constructs target) →
      (meaning.execAll code exits n s = meaning.graph blocks n target s ↔
        SafeWay blocks meaning n falls constructs target s)
  | .chain label => ∀ exits n s, Faithful meaning blocks reach false constructs exits n →
      reach { label, constructs } →
      (meaning.execAll code exits n s = meaning.graph blocks n label s ↔
        Safe blocks meaning n { label, constructs } s)
  | .iterationEnd label => ∀ falls exits n s,
      Faithful meaning blocks reach falls constructs exits n →
      reach { label, constructs, closes := true, falls } →
      (meaning.execAll code exits n s = meaning.graph blocks n label s ↔
        Safe blocks meaning n { label, constructs, closes := true, falls } s)
  | .rest block => ∀ exits n s, Faithful meaning blocks reach false constructs exits n →
      Plain block → (∀ target ∈ block.jumps, Proper (forked block constructs) target ∧
        InReach reach (loneExit block constructs target) (forked block constructs) target) →
      (meaning.execAll code exits n s = meaning.graphAfter blocks n block s ↔
        ∀ target, meaning.chooses block s = some target →
          SafeWay blocks meaning n (loneExit block constructs target) (forked block constructs)
            target s)

/-- Assignments do nothing, blocks end plainly, control stays in reach, and branches there are
proper. -/
structure Regular : Prop where
  still : ∀ phi value s, meaning.assign phi value s = s
  plain : ∀ label block, findBlock blocks label = .ok block → Plain block
  goes : ∀ spot next, reach spot → Goes blocks spot next → reach next
  proper : ∀ spot block target, reach spot → findBlock blocks spot.label = .ok block →
    target ∈ block.jumps → Proper (spot.around block) target

variable {meaning blocks reach} {program : Program} {constructs : List Construct}
  {code : List Listing} {target label : Id} {block : Block} {exits : Exits σ} {n : Nat} {s : σ}

theorem Faithful.mono {k : Nat} (faithful : Faithful meaning blocks reach falls constructs exits n)
    (le : k ≤ n) : Faithful meaning blocks reach falls constructs exits k where
  clear := faithful.clear
  next target head proper inReach j below := faithful.next target head proper inReach j (by omega)
  leave target out proper inReach j below := faithful.leave target out proper inReach j (by omega)
  again target out proper inReach j below := faithful.again target out proper inReach j (by omega)
  last := faithful.last

theorem safe_succ (found : findBlock blocks spot.label = .ok block) :
    Safe blocks meaning (n + 1) spot s ↔
      ∀ target, meaning.chooses block (meaning.body spot.label s) = some target →
        SafeWay blocks meaning n (spot.fallsTo block target) (spot.around block) target
          (meaning.body spot.label s) := by
  constructor
  · intro safe target chosen
    exact safe block target found chosen
  · intro safe other target foundOther chosen
    rw [found] at foundOther
    cases foundOther
    exact safe target chosen

theorem enters (spot : Spot) (found : findBlock blocks spot.label = .ok block)
    (follows : ∀ k < n,
      (meaning.execAll code exits k (meaning.body spot.label s) =
          meaning.graphAfter blocks k block (meaning.body spot.label s) ↔
        ∀ target, meaning.chooses block (meaning.body spot.label s) = some target →
          SafeWay blocks meaning k (spot.fallsTo block target) (spot.around block) target
            (meaning.body spot.label s))) :
    meaning.execAll (.block spot.label :: code) exits n s = meaning.graph blocks n spot.label s ↔
      Safe blocks meaning n spot s := by
  cases n with
  | zero => simp [exec, graph, Safe]
  | succ k =>
    rw [meaning.graph_succ found, safe_succ found, ← follows k (by omega), execAll_cons, exec]
    simp

theorem Proper.head_of_stop (proper : Proper constructs target)
    (classified : classify constructs target = .ok .stop) :
    constructs.head? = some (.selection target) := by
  have member : Construct.selection target ∈ constructs := by
    rcases classify_means classified with next | ⟨construct, member, means⟩
    · cases next
    · cases means
      exact member
  cases constructs with
  | nil => cases member
  | cons construct rest =>
    rcases mem_cons.mp member with same | outer
    · rw [same]
      rfl
    · exact absurd outer proper

theorem safeWay_next (classified : classify constructs target = .ok (.next target)) :
    SafeWay blocks meaning n falls constructs target s ↔
      Safe blocks meaning n { label := target, constructs } s := by
  simp [SafeWay, classified, arrive_next classified]

theorem safeWay_iteration (classified : classify constructs target = .ok (.continueBlock target)) :
    SafeWay blocks meaning n falls constructs target s ↔
      Safe blocks meaning n { label := target, constructs, closes := true, falls } s := by
  simp [SafeWay, classified, arrive_iteration classified]

section

variable (regular : Regular meaning blocks reach)

include regular

theorem Regular.move_eq (moves : List (Id × Id)) (s : σ) : meaning.move moves s = s := by
  induction moves generalizing s with
  | nil => rfl
  | cons first rest ih =>
    rw [move_cons, regular.still]
    exact ih s

theorem Regular.exec_arm {moves : List (Id × Id)} (spells : arm.parts = assigns moves ++ code) :
    meaning.exec arm exits n s = meaning.execAll code exits n s := by
  rw [meaning.exec_eq spells, meaning.execAll_assigns, regular.move_eq]

theorem Regular.inReach (reached : reach spot)
    (found : findBlock blocks spot.label = .ok block) (jumps : target ∈ block.jumps) :
    InReach reach (spot.fallsTo block target) (spot.around block) target := fun next arrives =>
  regular.goes spot next reached ⟨block, target, found, jumps, arrives⟩

end

theorem leads_of (out : Leads constructs target) : leads constructs target = true := by
  obtain ⟨edge, classified, structural⟩ := out
  simpa [leads, classified] using structural

theorem looped_none (merges : loopMerge block = .ok none) :
    looped block label constructs = constructs := by
  simp [looped, merges]

theorem looped_some (merges : loopMerge block = .ok (some (merge, continueTarget))) :
    looped block label constructs = .loop label merge continueTarget :: constructs := by
  simp [looped, merges]

theorem Regular.branches (regular : Regular meaning blocks reach)
    (reached : reach { label, constructs }) (found : findBlock blocks label = .ok block) :
    ∀ target ∈ block.jumps, Proper (forked block (looped block label constructs)) target ∧
        InReach reach (loneExit block (looped block label constructs) target)
          (forked block (looped block label constructs)) target := fun target jumps =>
  ⟨regular.proper _ block target reached found jumps, regular.inReach reached found jumps⟩

theorem classifyWithin_insideLoop {insideSwitch : Bool} (clear : NoSwitch constructs)
    (classified : classifyWithin target insideSwitch true constructs = .ok edge) :
    edge = .stop ∨ edge = .next target := by
  induction constructs generalizing insideSwitch with
  | nil => exact .inr (by simpa [classifyWithin] using classified.symm)
  | cons construct rest ih =>
    have clearRest : NoSwitch rest := fun merge targets member =>
      clear merge targets (mem_cons_of_mem _ member)
    cases construct with
    | selection merge =>
      simp only [classifyWithin] at classified
      split at classified
      · exact .inl (by simpa using classified.symm)
      · exact ih clearRest classified
    | switch merge targets => exact absurd mem_cons_self (clear merge targets)
    | loop header merge continueTarget =>
      simp only [classifyWithin] at classified
      split at classified
      · exact ih clearRest classified
      · cases classified

theorem classify_loop_cases (clear : NoSwitch constructs)
    (classified : classify (.loop header merge continueTarget :: constructs) target = .ok edge)
    (out : edge = .leave ∨ edge = .backEdge) :
    edge = .leave ∧ target = merge ∨ edge = .backEdge ∧ target = header := by
  rcases classifyWithin_loop classified with found | ⟨_, classified⟩
  · rcases loopEdge?_cases found with ⟨rfl, same⟩ | ⟨rfl, same⟩ | ⟨rfl, _⟩
    · exact .inr ⟨rfl, same⟩
    · exact .inl ⟨rfl, same⟩
    · simp at out
  · rcases classifyWithin_insideLoop clear classified with rfl | rfl <;> simp at out

theorem safeWay_leave
    (classified : classify (.loop header merge continueTarget :: constructs) merge = .ok .leave) :
    SafeWay blocks meaning n falls (.loop header merge continueTarget :: constructs) merge s ↔
      SafeWay blocks meaning n false constructs merge s := by
  simp [SafeWay, classified, arrive_leave classified]

theorem safeWay_again :
    SafeWay blocks meaning n falls (.loop header merge continueTarget :: constructs) header s ↔
      Safe blocks meaning n { label := header, constructs } s := by
  simp [SafeWay, classify_loop_header, arrive_again]

/-- The exits of the body of a loop, if the next iteration and what follows the loop are as they
should be. -/
theorem Faithful.loop {again : Nat → σ → Run σ}
    (faithful : Faithful meaning blocks reach false constructs exits n)
    (way : Simulates meaning blocks reach (.way merge) constructs after)
    (iterates : ∀ k ≤ n, ∀ s, again k s = meaning.graph blocks k header s ↔
      Safe blocks meaning k { label := header, constructs } s) :
    Faithful meaning blocks reach false (.loop header merge continueTarget :: constructs)
      { next := again, leave := meaning.execAll after exits, again } n where
  clear := faithful.clear.loop header merge continueTarget
  next target head := by simp at head
  leave target classified proper inReach k below s := by
    obtain rfl : target = merge := by
      simpa using classify_loop_cases faithful.clear classified (.inl rfl)
    rw [safeWay_leave classified]
    refine way false exits k s (faithful.mono below) ?_ ?_ (by simp)
    · exact fun member => proper (mem_of_mem_tail member)
    · exact fun spot arrives => inReach spot ((arrive_leave classified).trans arrives)
  again target classified proper inReach k below s := by
    obtain rfl : target = header := by
      simpa using classify_loop_cases faithful.clear classified (.inr rfl)
    rw [safeWay_again]
    exact iterates k below s
  last := by simp

theorem simulates_loop (regular : Regular meaning blocks reach) {body : Listing}
    (found : findBlock blocks label = .ok block)
    (merges : loopMerge block = .ok (some (merge, continueTarget)))
    (spells : body.parts = .block label :: code)
    (rest : Simulates meaning blocks reach (.rest block)
      (.loop label merge continueTarget :: constructs) code)
    (way : Simulates meaning blocks reach (.way merge) constructs after) :
    Simulates meaning blocks reach (.chain label) constructs (.loop body :: after) := by
  intro exits n s faithful reached
  have branches := regular.branches reached found
  rw [looped_some merges] at branches
  let step (again : Nat → σ → Run σ) : Nat → σ → Run σ := meaning.execAll (.block label :: code)
    { next := again, leave := meaning.execAll after exits, again }
  -- With more iterations than blocks to follow, the loop is not cut short.
  have iterates : ∀ count, ∀ k < count, k ≤ n → ∀ s,
      (iterate step count k s = meaning.graph blocks k label s ↔
        Safe blocks meaning k { label, constructs } s) := by
    intro count
    induction count with
    | zero => exact fun k below => absurd below (Nat.not_lt_zero k)
    | succ count ih =>
      intro k below le s
      refine enters { label, constructs } found fun j less => ?_
      have inner : Faithful meaning blocks reach false
          (.loop label merge continueTarget :: constructs)
          { next := iterate step count, leave := meaning.execAll after exits,
            again := iterate step count } j :=
        (faithful.mono (by omega)).loop way fun i small s => ih i (by omega) (by omega) s
      have follows := rest _ j (meaning.body label s) inner (regular.plain label block found)
        branches
      simpa [Spot.around, Spot.fallsTo, looped_some merges] using follows
  rw [execAll_cons, exec]
  simp only [meaning.exec_eq spells]
  exact iterates (n + 1) n (Nat.lt_succ_self n) (Nat.le_refl n) s

theorem Regular.exec_forks (regular : Regular meaning blocks reach)
    (forks : Forks condition (assigns acceptedMoves ++ acceptedCode)
      (assigns rejectedMoves ++ rejectedCode) (accepted = merge ∧ rejected = merge) statement)
    (way : Structured program blocks (.way rejected) (.selection merge :: constructs)
      rejectedCode) :
    meaning.exec statement exits n s =
      meaning.execAll (if meaning.holds condition s then acceptedCode else rejectedCode) exits n
        s := by
  cases forks with
  | both _ accepts rejects =>
    rw [exec, regular.exec_arm accepts, regular.exec_arm rejects]
    split <;> rfl
  | swapped _ rejects accepts =>
    rw [exec, regular.exec_arm accepts, regular.exec_arm rejects]
    cases meaning.holds condition s <;> rfl
  | accepted accepts nothing =>
    rw [exec, regular.exec_arm accepts, way_omitted way nothing]
    split <;> rfl
  | rejected _ rejects nothing =>
    rw [exec, regular.exec_arm rejects, (append_eq_nil_iff.mp nothing).2]
    cases meaning.holds condition s <;> rfl

theorem safeWay_stop : SafeWay blocks meaning n false (.selection merge :: constructs) merge s ↔
      SafeWay blocks meaning n false constructs merge s := by
  simp [SafeWay, arrive_stop]

theorem safeWay_past (out : classify (.selection merge :: constructs) target = .ok .leave ∨
      classify (.selection merge :: constructs) target = .ok .backEdge) :
    SafeWay blocks meaning n false (.selection merge :: constructs) target s ↔
      SafeWay blocks meaning n false constructs target s := by
  simp [SafeWay, arrive_past out]

theorem classify_past (classified : classify (.selection merge :: constructs) target = .ok edge)
    (out : edge = .leave ∨ edge = .backEdge) : classify constructs target = .ok edge := by
  have other : target ≠ merge := by
    rintro rfl
    rw [classify_selection] at classified
    cases classified
    simp at out
  rwa [classify_selection_of_ne other] at classified

theorem Faithful.selection (faithful : Faithful meaning blocks reach false constructs exits n)
    (way : Simulates meaning blocks reach (.way merge) constructs after) :
    Faithful meaning blocks reach false (.selection merge :: constructs)
      { exits with next := meaning.execAll after exits } n where
  clear := faithful.clear.selection merge
  next target head proper inReach k below s := by
    obtain rfl : merge = target := by simpa using head
    rw [safeWay_stop]
    refine way false exits k s (faithful.mono below) ?_ ?_ (by simp)
    · exact fun member => proper (mem_of_mem_tail member)
    · exact fun spot arrives => inReach spot (arrive_stop.trans arrives)
  leave target classified proper inReach k below s := by
    rw [safeWay_past (.inl classified)]
    refine faithful.leave target (classify_past classified (.inl rfl)) ?_ ?_ k below s
    · exact fun member => proper (mem_of_mem_tail member)
    · exact fun spot arrives => inReach spot ((arrive_past (.inl classified)).trans arrives)
  again target classified proper inReach k below s := by
    rw [safeWay_past (.inr classified)]
    refine faithful.again target (classify_past classified (.inr rfl)) ?_ ?_ k below s
    · exact fun member => proper (mem_of_mem_tail member)
    · exact fun spot arrives => inReach spot ((arrive_past (.inr classified)).trans arrives)
  last := by simp

theorem leads_next (classified : classify constructs target = .ok (.next target)) :
    leads constructs target = false := by
  simp [leads, classified, Edge.isStructural]

theorem safeWay_falls {other : Bool}
    (out : classify constructs target = .ok .leave ∨ classify constructs target = .ok .backEdge) :
    SafeWay blocks meaning n falls constructs target s ↔
      SafeWay blocks meaning n other constructs target s := by
  have notStop : classify constructs target ≠ .ok .stop := by
    rcases out with out | out <;> simp [out]
  simp [SafeWay, notStop, arrive_falls other out]

/-- The exits of a way out that stands alone: behind it comes the text of the other target, which no
run that is to stop here should enter. -/
theorem Faithful.exit (faithful : Faithful meaning blocks reach false constructs exits n)
    (onwardNext : classify constructs onward = .ok (.next onward)) (nonempty : constructs ≠ [])
    (structured : Structured program blocks (.way onward) constructs onwardCode) :
    Faithful meaning blocks reach true constructs
      { exits with next := meaning.execAll onwardCode exits } n where
  clear := faithful.clear
  next target head proper inReach k below s := by
    have stops : classify constructs target = .ok .stop := by
      cases constructs with
      | nil => cases head
      | cons construct rest =>
        cases head
        exact classify_selection
    have other : onward ≠ target := by
      rintro rfl
      rw [onwardNext] at stops
      cases stops
    have chain := way_next structured onwardNext
    cases k with
    | zero => simp [(meaning.enters_chain chain exits s).1, graph, SafeWay, Safe]
    | succ k =>
      -- The graph enters the target, and the text another block.
      obtain ⟨rest, entered⟩ := (meaning.enters_chain chain exits s).2 k
      have differ : ¬ meaning.execAll onwardCode exits (k + 1) s =
          meaning.graph blocks (k + 1) target s := by
        rw [entered, graph]
        split <;> simp [other]
      simp [differ, SafeWay, stops]
  leave target classified proper inReach k below s := by
    rw [safeWay_falls (.inl classified)]
    refine faithful.leave target classified proper ?_ k below s
    exact fun spot arrives => inReach spot ((arrive_falls _ (.inl classified)).trans arrives)
  again target classified proper inReach k below s := by
    rw [safeWay_falls (.inr classified)]
    refine faithful.again target classified proper ?_ k below s
    exact fun spot arrives => inReach spot ((arrive_falls _ (.inr classified)).trans arrives)
  last empty := absurd empty nonempty

theorem simulates_exit (regular : Regular meaning blocks reach) {exit : Id}
    {exitMoves onwardMoves : List (Id × Id)} {exitCode : List Listing} (expected : Bool)
    (ending : block.ending? = some (.conditional condition accepted rejected))
    (merges : selectionMerge block = .ok none)
    (chosen : (exit, onward) = if expected then (accepted, rejected) else (rejected, accepted))
    (exitLeads : Leads constructs exit)
    (onwardNext : classify constructs onward = .ok (.next onward))
    (spells : arm.parts = assigns exitMoves ++ exitCode)
    (structured : Structured program blocks (.way onward) constructs onwardCode)
    (exitWay : Simulates meaning blocks reach (.way exit) constructs exitCode)
    (onwardWay : Simulates meaning blocks reach (.way onward) constructs onwardCode) :
    Simulates meaning blocks reach (.rest block) constructs
      (.when condition expected arm :: (assigns onwardMoves ++ onwardCode)) := by
  intro exits n s faithful _ branches
  have nonempty : constructs ≠ [] := by
    rintro rfl
    obtain ⟨edge, classified, structural⟩ := exitLeads
    cases classified
    cases structural
  have onward_eq : meaning.execAll (assigns onwardMoves ++ onwardCode) exits =
      meaning.execAll onwardCode exits := by
    funext n s
    rw [meaning.execAll_assigns, regular.move_eq]
  have choice : meaning.chooses block s =
      some (if meaning.holds condition s = expected then exit else onward) := by
    cases expected <;> cases chosen <;> cases held : meaning.holds condition s <;>
      simp [chooses, ending, held]
  have exitAlone : loneExit block constructs exit = true := by
    cases expected <;> cases chosen <;>
      simp [loneExit, ending, merges, leads_of exitLeads, leads_next onwardNext]
  have onwardGoes : loneExit block constructs onward = false := by
    simp [loneExit, ending, merges, leads_next onwardNext]
  have unforked : forked block constructs = constructs := by simp [forked, ending, merges]
  have exitJumps : exit ∈ block.jumps := by
    cases expected <;> cases chosen <;> simp [Block.jumps, ending]
  have onwardJumps : onward ∈ block.jumps := by
    cases expected <;> cases chosen <;> simp [Block.jumps, ending]
  obtain ⟨exitProper, exitReach⟩ := branches exit exitJumps
  obtain ⟨onwardProper, onwardReach⟩ := branches onward onwardJumps
  rw [unforked] at exitProper onwardProper
  rw [unforked, exitAlone] at exitReach
  rw [unforked, onwardGoes] at onwardReach
  rw [execAll_cons, exec, onward_eq, regular.exec_arm spells]
  simp only [graphAfter, choice, unforked, Option.some.injEq, forall_eq']
  split
  · rw [exitAlone]
    exact exitWay true _ n s (faithful.exit onwardNext nonempty structured) exitProper exitReach
      fun _ => exitLeads
  · rw [onwardGoes]
    exact onwardWay false exits n s faithful onwardProper onwardReach (by simp)

theorem Structured.simulates {part : Part} (regular : Regular meaning blocks reach)
    (structured : Structured program blocks part constructs code) :
    Simulates meaning blocks reach part constructs code := by
  induction structured with
  | stop classified =>
    intro falls exits n s faithful proper inReach _
    exact faithful.next _ (proper.head_of_stop classified) proper inReach n (Nat.le_refl n) s
  | leave classified =>
    intro falls exits n s faithful proper inReach _
    rw [execAll_cons, exec]
    exact faithful.leave _ classified proper inReach n (Nat.le_refl n) s
  | again classified =>
    intro falls exits n s faithful proper inReach _
    rw [execAll_cons, exec]
    exact faithful.again _ classified proper inReach n (Nat.le_refl n) s
  | iteration classified _ ih =>
    intro falls exits n s faithful _ inReach _
    rw [safeWay_iteration classified]
    exact ih falls exits n s faithful (inReach _ (arrive_iteration classified))
  | next classified _ ih =>
    intro falls exits n s faithful _ inReach leads
    rw [safeWay_next classified]
    cases falls with
    | true => exact absurd classified (leads rfl).not_next
    | false => exact ih exits n s faithful (inReach _ (arrive_next classified))
  | @closing label block target _ constructs _ found ending leads _ _ ih =>
    intro falls exits n s faithful reached
    have jumps : target ∈ block.jumps := by simp [Block.jumps, ending]
    refine enters { label, constructs, closes := true, falls } found fun k below => ?_
    rw [meaning.execAll_assigns, regular.move_eq]
    simp only [graphAfter, chooses, ending, Option.some.injEq, forall_eq']
    exact ih falls exits k _ (faithful.mono (Nat.le_of_lt below))
      (regular.proper _ _ _ reached found jumps) (regular.inReach reached found jumps)
      fun _ => leads
  | @closingEither label block _ accepted rejected constructs _ _ _ _ _ _ found ending acceptedLeads
      rejectedLeads _ _ accepts rejects _ _ acceptedIh rejectedIh =>
    intro falls exits n s faithful reached
    have acceptedJumps : accepted ∈ block.jumps := by simp [Block.jumps, ending]
    have rejectedJumps : rejected ∈ block.jumps := by simp [Block.jumps, ending]
    refine enters { label, constructs, closes := true, falls } found fun k below => ?_
    rw [execAll_cons, exec]
    simp only [graphAfter, chooses, ending, Option.some.injEq, forall_eq', execAll_nil]
    split
    · rw [regular.exec_arm accepts]
      exact acceptedIh falls exits k _ (faithful.mono (Nat.le_of_lt below))
        (regular.proper _ block accepted reached found acceptedJumps)
        (regular.inReach reached found acceptedJumps) fun _ => acceptedLeads
    · rw [regular.exec_arm rejects]
      exact rejectedIh falls exits k _ (faithful.mono (Nat.le_of_lt below))
        (regular.proper _ block rejected reached found rejectedJumps)
        (regular.inReach reached found rejectedJumps) fun _ => rejectedLeads
  | @plain label _ constructs _ found merges _ ih =>
    intro exits n s faithful reached
    have branches := regular.branches reached found
    rw [looped_none merges] at branches
    refine enters { label, constructs } found fun k below => ?_
    have follows := ih exits k (meaning.body label s) (faithful.mono (Nat.le_of_lt below))
      (regular.plain _ _ found) branches
    simpa [Spot.around, Spot.fallsTo, looped_none merges] using follows
  | loop found merges spells _ _ restIh wayIh =>
    exact simulates_loop regular found merges spells restIh wayIh
  | @branch _ target _ _ _ ending _ _ ih =>
    intro exits n s faithful _ branches
    obtain ⟨proper, inReach⟩ := branches target (by simp [Block.jumps, ending])
    simp only [forked, loneExit, ending] at proper inReach
    rw [meaning.execAll_assigns, regular.move_eq]
    simp only [graphAfter, chooses, forked, loneExit, ending, Option.some.injEq, forall_eq']
    exact ih false exits n s faithful proper inReach (by simp)
  | selection ending merges _ _ forks _ rejectedWay _ acceptedIh rejectedIh ih =>
    intro exits n s faithful _ branches
    have inner := faithful.selection ih
    simp only [Block.jumps, forked, loneExit, ending, merges, mem_cons, not_mem_nil,
      or_false, forall_eq_or_imp, forall_eq] at branches
    obtain ⟨⟨acceptedProper, acceptedReach⟩, rejectedProper, rejectedReach⟩ := branches
    rw [execAll_cons, regular.exec_forks forks rejectedWay]
    simp only [graphAfter, chooses, forked, loneExit, ending, merges, Option.some.injEq, forall_eq']
    split
    · exact acceptedIh false _ n s inner acceptedProper acceptedReach (by simp)
    · exact rejectedIh false _ n s inner rejectedProper rejectedReach (by simp)
  | @onlyTarget _ _ target _ _ _ ending merges _ _ ih =>
    intro exits n s faithful _ branches
    obtain ⟨proper, inReach⟩ := branches target (by simp [Block.jumps, ending])
    simp only [forked, loneExit, ending, merges, Bool.and_self, Bool.and_not_self] at proper inReach
    rw [meaning.execAll_assigns, regular.move_eq]
    simp only [graphAfter, chooses, forked, loneExit, ending, merges, ite_self,
      Option.some.injEq, forall_eq', Bool.and_self, Bool.and_not_self]
    exact ih false exits n s faithful proper inReach (by simp)
  | @exits block _ _ _ constructs _ _ _ _ _ _ ending merges _ acceptedLeads rejectedLeads _ _
      accepts rejects _ _ acceptedIh rejectedIh =>
      intro exits n s faithful _ branches
      have alone : ∀ target, loneExit block constructs target = false := by
        simp [loneExit, ending, merges, leads_of acceptedLeads, leads_of rejectedLeads]
      simp only [Block.jumps, forked, alone, ending, merges, mem_cons, not_mem_nil,
        or_false, forall_eq_or_imp, forall_eq] at branches
      obtain ⟨⟨acceptedProper, acceptedReach⟩, rejectedProper, rejectedReach⟩ := branches
      rw [execAll_cons, exec, regular.exec_arm accepts, regular.exec_arm rejects]
      simp only [graphAfter, chooses, forked, alone, ending, merges, Option.some.injEq,
        forall_eq', execAll_nil]
      split
      · exact acceptedIh false exits n s faithful acceptedProper acceptedReach (by simp)
      · exact rejectedIh false exits n s faithful rejectedProper rejectedReach (by simp)
  | exit expected ending merges chosen exitLeads onwardNext _ _ spells _ onwardWay exitIh
      onwardIh =>
      exact simulates_exit regular expected ending merges chosen exitLeads onwardNext spells
        onwardWay exitIh onwardIh
  | @ret _ value constructs ending =>
    intro exits n s faithful _ _
    have ends : meaning.execAll [.ret value constructs.isEmpty] exits n s = .done := by
      rw [execAll_cons, exec]
      cases constructs with
      | nil => exact faithful.last rfl n s
      | cons construct rest => rfl
    simp [ends, graphAfter, chooses, ending]
  | switch ending | kill ending | unreachable ending =>
    intro _ _ _ _ plain
    exact absurd (plain _ ending) (by simp [Ending.isPlain])

theorem faithful_ends (n : Nat) : Faithful meaning blocks reach false [] Exits.ends n where
  clear := fun _ _ => not_mem_nil
  next target head := by cases head
  leave target classified := by cases classified
  again target classified := by cases classified
  last _ _ _ := rfl

end Structure

end SpirvMetal
