import SpirvMetal.Proofs.Flow.Structured

/-!
What is listed without a fault follows the rules of structured code: the steps that list a part are
taken apart one by one, and the whole listing by induction on how deep it may go.
-/

namespace SpirvMetal

open List
open Listed

theorem Listing.parts_ofList_map {α : Type} (form : α → Listing)
    (single : ∀ a, (form a).parts = [form a]) (items : List α) :
    (Listing.ofList (items.map form)).parts = items.map form := by
  induction items with
  | nil => rfl
  | cons item rest ih =>
    simp only [ofList, map_cons, foldr_cons, parts, single] at ih ⊢
    rw [ih]
    rfl

namespace Listed

variable {α β : Type} {a b : α} {code : List Listing}
variable {u : Unit}

/-- A part that is listed without a fault, with its value and its statements. -/
def Gives (part : Listed α) (a : α) (code : List Listing) : Prop :=
  part.result = .ok a ∧ part.listing.parts = code

theorem gives_pure : Gives (pure a) b code ↔ b = a ∧ code = [] := by
  simp [Gives, pure, Listing.parts, eq_comm]

theorem gives_bind {step : Listed α} {next : α → Listed β} {b : β} : Gives (step >>= next) b code ↔
      ∃ a front back, step.Gives a front ∧ (next a).Gives b back ∧ code = front ++ back := by
  unfold Gives
  cases found : step.result with
  | error fault => simp [bind, found]
  | ok a =>
    simp only [bind, found, Listing.parts, Except.ok.injEq]
    constructor
    · rintro ⟨given, rfl⟩
      exact ⟨a, _, _, ⟨rfl, rfl⟩, ⟨given, rfl⟩, rfl⟩
    · rintro ⟨_, _, _, ⟨rfl, rfl⟩, ⟨given, rfl⟩, rfl⟩
      exact ⟨given, rfl⟩

theorem gives_lift {result : Except Fault α} :
    Gives (liftM result) a code ↔ result = .ok a ∧ code = [] := by
  simp [Gives, liftM, monadLift, MonadLift.monadLift, Listing.parts, eq_comm]

theorem gives_fail {fault : Fault} : Gives (fail fault : Listed α) a code ↔ False := by
  simp [Gives, fail]

theorem gives_emit {statement : Listing} :
    Gives (emit statement) u code ↔ code = statement.parts := by
  simp [Gives, emit, eq_comm]

theorem gives_inside {wrap : Listing → Listing} {part : Listed α} :
    Gives (inside wrap part) a code ↔ part.result = .ok a ∧ code = (wrap part.listing).parts := by
  simp [Gives, inside, eq_comm]

theorem gives_conditional {condition : Id} {expected : Bool} {arm : Listed Unit}
    {needed : Except Fault Bool} {other : Unit → Listed Unit} :
    Gives (conditional condition expected arm needed other) u code ↔ arm.result = .ok () ∧
        (needed = .ok false ∧ code = [.when condition expected arm.listing] ∨
          needed = .ok true ∧ (other ()).result = .ok () ∧
            code = [.branch condition expected arm.listing (other ()).listing]) := by
  unfold Gives conditional
  cases armResult : arm.result with
  | error fault => simp
  | ok _ =>
    cases needed with
    | error fault => simp
    | ok needed => cases needed <;> simp [Listing.parts, eq_comm]

theorem gives_forM {items : List α} {step : α → Listed Unit} {spells : α → Listing → Prop}
    (each : ∀ item ∈ items, ∀ code, (step item).Gives () code →
      ∃ statement, code = [statement] ∧ spells item statement)
    (listed : (items.forM step).Gives () code) : List.Forall₂ spells items code := by
  induction items generalizing code with
  | nil =>
    obtain ⟨_, rfl⟩ := gives_pure.mp listed
    exact .nil
  | cons item rest ih =>
    rw [forM_eq_forM, forM_cons, gives_bind] at listed
    obtain ⟨_, _, _, head, tail, rfl⟩ := listed
    obtain ⟨statement, rfl, spelled⟩ := each item mem_cons_self _ head
    exact .cons spelled (ih (fun item member => each item (mem_cons_of_mem _ member)) tail)

theorem gives_self {part : Listed Unit} (listed : part.result = .ok ()) :
    part.Gives () part.listing.parts :=
  ⟨listed, rfl⟩

end Listed

namespace Structure

variable {u : Unit} {inst : Instruction} {label : Id}

def Task.part : Task → Part
  | .chain label => .chain label
  | .iterationEnd label => .iterationEnd label

variable (program : Program) (blocks : List Block)

/-- Whatever is listed for a task follows the rules. -/
def Sound (run : Task → List Construct → Listed Unit) : Prop :=
  ∀ task constructs code, NoSwitch constructs → (run task constructs).Gives () code →
    Structured program blocks task.part constructs code

variable {program blocks} {run : Task → List Construct → Listed Unit}
  {constructs : List Construct} {source target : Id} {code : List Listing}

theorem listMoves_gives (listed : (listMoves blocks source target).Gives u code) :
    ∃ edgeMoves, moves blocks source target = .ok edgeMoves ∧ code = assigns edgeMoves := by
  simp only [listMoves, gives_bind, gives_lift, gives_emit] at listed
  obtain ⟨edgeMoves, _, _, ⟨moved, rfl⟩, rfl, rfl⟩ := listed
  refine ⟨edgeMoves, moved, ?_⟩
  rw [Listing.parts_ofList_map _ fun _ => rfl]
  rfl

theorem edge_some : edge blocks run constructs (some source) target =
    (listMoves blocks source target >>= fun _ => edge blocks run constructs none target) := by
  rfl

variable {block : Block} {condition accepted rejected merge : Id} {next : Option Id}
  {front back : List Listing}

theorem arm_eq : arm blocks run constructs source target =
    (edge blocks run constructs (some source) target >>= goOn run constructs) := by
  unfold arm
  congr 1
  funext next
  cases next <;> rfl

theorem edge_gives_leads
    (taken : (edge blocks run constructs (some source) target).Gives none code) :
    Leads constructs target := by
  rw [edge_some, gives_bind] at taken
  obtain ⟨_, _, _, _, taken, _⟩ := taken
  simp only [edge, gives_bind, gives_lift] at taken
  obtain ⟨edge, _, _, ⟨classified, _⟩, taken, _⟩ := taken
  refine ⟨edge, classified, ?_⟩
  cases edge with
  | next label => simp [gives_pure] at taken
  | _ => rfl

theorem word_cons {index found : Nat} (read : word inst index = .ok found) :
    inst.words[index]? = some found := by
  unfold word at read
  split at read <;> simp_all

theorem terminator_some (ends : terminator block = .ok inst) :
    block.terminator? = some inst := by
  unfold terminator at ends
  split at ends <;> simp_all

theorem ending_branch (ends : terminator block = .ok inst) (op : inst.op = .branch)
    (read : word inst 0 = .ok target) : block.ending? = some (.branch target) := by
  have words := word_cons read
  unfold Block.ending?
  rw [terminator_some ends, Option.bind_some, op]
  cases found : inst.words <;> simp_all

theorem ending_conditional (ends : terminator block = .ok inst) (op : inst.op = .branchConditional)
    (first : word inst 0 = .ok condition) (second : word inst 1 = .ok accepted)
    (third : word inst 2 = .ok rejected) :
    block.ending? = some (.conditional condition accepted rejected) := by
  have firstWord := word_cons first
  have secondWord := word_cons second
  have thirdWord := word_cons third
  unfold Block.ending?
  rw [terminator_some ends, Option.bind_some, op]
  match found : inst.words with
  | [] | [_] | [_, _] => simp_all
  | _ :: _ :: _ :: _ => simp_all

theorem ending_returnValue {value : Id} (ends : terminator block = .ok inst)
    (op : inst.op = .returnValue) (read : word inst 0 = .ok value) :
    block.ending? = some (.ret (some value)) := by
  have words := word_cons read
  unfold Block.ending?
  rw [terminator_some ends, Option.bind_some, op]
  cases found : inst.words <;> simp_all

theorem moves_of_hasMoves (has : hasMoves blocks source target = .ok false) :
    moves blocks source target = .ok [] := by
  unfold hasMoves at has
  cases moved : moves blocks source target with
  | error fault => simp [moved, bind, Except.bind] at has
  | ok edgeMoves => simpa [moved, bind, Except.bind, pure, Except.pure] using has

theorem exitShape_ok {first second : Bool}
    (shape : exitShape constructs label accepted rejected = .ok (first, second)) :
    (∃ edge, classify constructs accepted = .ok edge ∧ edge.isStructural = first) ∧
      (∃ edge, classify constructs rejected = .ok edge ∧ edge.isStructural = second) ∧
      (first = true ∨ second = true) := by
  unfold exitShape at shape
  cases acceptedEdge : classify constructs accepted with
  | error fault => simp [acceptedEdge, bind, Except.bind] at shape
  | ok edge =>
    cases rejectedEdge : classify constructs rejected with
    | error fault => simp [acceptedEdge, rejectedEdge, bind, Except.bind] at shape
    | ok other =>
      simp only [acceptedEdge, rejectedEdge, bind, Except.bind, pure, Except.pure] at shape
      split at shape
      · cases shape
      · simp only [Except.ok.injEq, Prod.mk.injEq] at shape
        obtain ⟨rfl, rfl⟩ := shape
        refine ⟨⟨edge, rfl, rfl⟩, ⟨other, rfl, rfl⟩, ?_⟩
        cases leads : edge.isStructural <;> simp_all

theorem next_of_not_structural
    (found : ∃ edge, classify constructs target = .ok edge ∧ edge.isStructural = false) :
    classify constructs target = .ok (.next target) := by
  obtain ⟨edge, classified, plain⟩ := found
  rcases classify_means classified with rfl | ⟨construct, _, means⟩
  · exact classified
  · cases means <;> cases plain

theorem switchArm_gives {targets : List Id} (member : target ∈ targets)
    (listed : (arm blocks run (.switch merge targets :: constructs) source target).Gives u code) :
    ∃ edgeMoves, moves blocks source target = .ok edgeMoves ∧
      code = assigns edgeMoves ++ if target = merge then [.leave] else [] := by
  simp only [arm_eq, edge_some, gives_bind] at listed
  obtain ⟨next, _, back, ⟨_, _, _, movesListed, taken, rfl⟩, goesOn, rfl⟩ := listed
  obtain ⟨edgeMoves, moved, rfl⟩ := listMoves_gives movesListed
  refine ⟨edgeMoves, moved, ?_⟩
  rw [append_assoc]
  congr 1
  simp only [edge, classify, classifyWithin, gives_bind, gives_lift] at taken
  obtain ⟨_, _, _, ⟨classified, rfl⟩, taken, rfl⟩ := taken
  by_cases same : target = merge
  · simp only [same, if_true, Except.ok.injEq] at classified
    subst classified
    simp only [gives_bind, gives_emit, gives_pure, Listing.parts] at taken
    obtain ⟨_, _, _, rfl, ⟨rfl, rfl⟩, rfl⟩ := taken
    obtain ⟨_, rfl⟩ := gives_pure.mp goesOn
    simp [same]
  · simp only [same, member, if_false, if_true, Except.ok.injEq] at classified
    subst classified
    obtain ⟨rfl, rfl⟩ := gives_pure.mp taken
    obtain ⟨_, rfl⟩ := gives_pure.mp goesOn
    simp [same]

theorem ending_switch {selector default : Id} (ends : terminator block = .ok inst)
    (op : inst.op = .switch) (first : word inst 0 = .ok selector)
    (second : word inst 1 = .ok default) :
    block.ending? = some (.switch selector default (inst.words.drop 2)) := by
  have firstWord := word_cons first
  have secondWord := word_cons second
  unfold Block.ending?
  rw [terminator_some ends, Option.bind_some, op]
  match found : inst.words with
  | [] | [_] => simp_all
  | _ :: _ :: _ => simp_all

section

variable (sound : Sound program blocks run) (clear : NoSwitch constructs)

include sound clear

theorem edge_none_gives (taken : (edge blocks run constructs none target).Gives next front)
    (goesOn : (goOn run constructs next).Gives () back) :
    Structured program blocks (.way target) constructs (front ++ back) := by
  simp only [edge, gives_bind, gives_lift] at taken
  obtain ⟨edge, _, _, ⟨classified, rfl⟩, taken, rfl⟩ := taken
  rcases classify_cases clear classified with rfl | rfl | rfl | rfl | rfl
  case inr.inr.inr.inr =>
    obtain ⟨rfl, rfl⟩ := gives_pure.mp taken
    exact .next classified (sound (.chain target) _ _ clear goesOn)
  all_goals simp only [gives_bind, gives_emit, gives_pure, Listing.parts] at taken
  · obtain ⟨rfl, rfl⟩ := taken
    obtain ⟨_, rfl⟩ := gives_pure.mp goesOn
    exact .stop classified
  · obtain ⟨_, _, _, rfl, ⟨rfl, rfl⟩, rfl⟩ := taken
    obtain ⟨_, rfl⟩ := gives_pure.mp goesOn
    exact .leave classified
  · obtain ⟨_, _, _, rfl, ⟨rfl, rfl⟩, rfl⟩ := taken
    obtain ⟨_, rfl⟩ := gives_pure.mp goesOn
    exact .again classified
  · obtain ⟨_, ends, _, listed, ⟨rfl, rfl⟩, rfl⟩ := taken
    obtain ⟨_, rfl⟩ := gives_pure.mp goesOn
    have structured := sound (.iterationEnd target) _ _ clear listed
    simpa using Structured.iteration classified structured

theorem edge_some_gives (taken : (edge blocks run constructs (some source) target).Gives next front)
    (goesOn : (goOn run constructs next).Gives () back) :
    ∃ edgeMoves code, moves blocks source target = .ok edgeMoves ∧
      front ++ back = assigns edgeMoves ++ code ∧
      Structured program blocks (.way target) constructs code := by
  rw [edge_some, gives_bind] at taken
  obtain ⟨_, _, rest, listed, taken, rfl⟩ := taken
  obtain ⟨edgeMoves, moved, rfl⟩ := listMoves_gives listed
  exact ⟨edgeMoves, rest ++ back, moved, append_assoc _ _ _,
    edge_none_gives sound clear taken goesOn⟩

theorem arm_gives (listed : (arm blocks run constructs source target).Gives u code) :
    ∃ edgeMoves rest, moves blocks source target = .ok edgeMoves ∧
      code = assigns edgeMoves ++ rest ∧
      Structured program blocks (.way target) constructs rest := by
  rw [arm_eq, gives_bind] at listed
  obtain ⟨next, _, _, taken, goesOn, rfl⟩ := listed
  exact edge_some_gives sound clear taken goesOn

theorem closingEdge_gives
    (listed : (closingEdge blocks run constructs source target).Gives u code) :
    ∃ edgeMoves rest, moves blocks source target = .ok edgeMoves ∧
      code = assigns edgeMoves ++ rest ∧ Leads constructs target ∧
      Structured program blocks (.way target) constructs rest := by
  simp only [closingEdge, gives_bind] at listed
  obtain ⟨next, front, back, taken, closed, rfl⟩ := listed
  cases next with
  | some label => simp [gives_fail] at closed
  | none =>
    have goesOn : (goOn run constructs none).Gives () back := closed
    obtain ⟨edgeMoves, rest, moved, split, way⟩ := edge_some_gives sound clear taken goesOn
    exact ⟨edgeMoves, rest, moved, split, edge_gives_leads taken, way⟩

theorem iterationEnd_gives (listed : (iterationEnd blocks run constructs label).Gives () code) :
    Structured program blocks (.iterationEnd label) constructs code := by
  simp only [iterationEnd, gives_bind, gives_lift, gives_emit] at listed
  obtain ⟨block, _, _, ⟨found, rfl⟩, ⟨_, _, _, rfl, ⟨inst, _, _, ⟨ends, rfl⟩, listed, rfl⟩, rfl⟩,
    rfl⟩ := listed
  split at listed
  · rename_i op
    rw [gives_bind] at listed
    obtain ⟨target, _, _, lifted, closed, rfl⟩ := listed
    obtain ⟨read, rfl⟩ := gives_lift.mp lifted
    obtain ⟨edgeMoves, rest, moved, rfl, leads, way⟩ := closingEdge_gives sound clear closed
    exact .closing found (ending_branch ends op read) leads moved way
  · rename_i op
    simp only [branch, gives_bind, gives_lift, gives_conditional] at listed
    obtain ⟨condition, _, _, ⟨first, rfl⟩, ⟨accepts, either⟩, rfl⟩ := listed
    rcases either with ⟨skipped, _⟩ | ⟨_, rejects, rfl⟩
    · cases skipped
    have accepts := gives_self accepts
    have rejects := gives_self rejects
    rw [gives_bind] at accepts rejects
    obtain ⟨accepted, _, _, lifted, closed, accepts⟩ := accepts
    obtain ⟨second, rfl⟩ := gives_lift.mp lifted
    obtain ⟨acceptedMoves, _, acceptedMoved, rfl, acceptedLeads, acceptedWay⟩ :=
      closingEdge_gives sound clear closed
    obtain ⟨rejected, _, _, lifted, closed, rejects⟩ := rejects
    obtain ⟨third, rfl⟩ := gives_lift.mp lifted
    obtain ⟨rejectedMoves, _, rejectedMoved, rfl, rejectedLeads, rejectedWay⟩ :=
      closingEdge_gives sound clear closed
    exact .closingEither found (ending_conditional ends op first second third) acceptedLeads
      rejectedLeads acceptedMoved rejectedMoved accepts rejects acceptedWay rejectedWay
  · simp [gives_fail] at listed

theorem fork_gives
    (listed : (fork blocks run constructs source condition accepted rejected merge).Gives u code) :
    ∃ statement acceptedMoves rejectedMoves acceptedCode rejectedCode, code = [statement] ∧
      moves blocks source accepted = .ok acceptedMoves ∧
      moves blocks source rejected = .ok rejectedMoves ∧
      Forks condition (assigns acceptedMoves ++ acceptedCode)
        (assigns rejectedMoves ++ rejectedCode) (accepted = merge ∧ rejected = merge) statement ∧
      Structured program blocks (.way accepted) (.selection merge :: constructs) acceptedCode ∧
      Structured program blocks (.way rejected) (.selection merge :: constructs) rejectedCode := by
  have clearInner := clear.selection merge
  unfold fork at listed
  split at listed
  · rename_i only
    obtain ⟨rfl, away⟩ := only
    obtain ⟨rejects, either⟩ := gives_conditional.mp listed
    obtain ⟨rejectedMoves, rejectedCode, rejectedMoved, rejects, rejectedWay⟩ :=
      arm_gives sound clearInner (gives_self rejects)
    rcases either with ⟨has, rfl⟩ | ⟨_, accepts, rfl⟩
    · exact ⟨_, [], _, [], _, rfl, moves_of_hasMoves has, rejectedMoved,
        .rejected (fun both => away both.2) rejects rfl, way_merge.mpr rfl, rejectedWay⟩
    · obtain ⟨acceptedMoves, acceptedMoved, accepts⟩ := listMoves_gives (gives_self accepts)
      exact ⟨_, _, _, [], _, rfl, acceptedMoved, rejectedMoved,
        .swapped (fun both => away both.2) rejects (by simpa using accepts), way_merge.mpr rfl,
        rejectedWay⟩
  · rename_i only
    obtain ⟨accepts, either⟩ := gives_conditional.mp listed
    obtain ⟨acceptedMoves, acceptedCode, acceptedMoved, accepts, acceptedWay⟩ :=
      arm_gives sound clearInner (gives_self accepts)
    rcases either with ⟨needed, rfl⟩ | ⟨needed, rejects, rfl⟩
    · have same : rejected = merge := by
        by_contra away
        simp [away] at needed
      subst same
      simp only [ne_eq, not_true_eq_false, if_false] at needed
      split at needed
      · rename_i bothMerge
        subst bothMerge
        exact ⟨_, _, _, _, [], rfl, acceptedMoved, acceptedMoved,
          .accepted accepts (.inr ⟨rfl, rfl⟩), acceptedWay, way_merge.mpr rfl⟩
      · exact ⟨_, _, [], _, [], rfl, acceptedMoved, moves_of_hasMoves needed,
          .accepted accepts (.inl rfl), acceptedWay, way_merge.mpr rfl⟩
    · obtain ⟨rejectedMoves, rejectedCode, rejectedMoved, rejects, rejectedWay⟩ :=
        arm_gives sound clearInner (gives_self rejects)
      have differ : ¬ (accepted = merge ∧ rejected = merge) := by
        rintro ⟨rfl, rfl⟩
        simp at needed
      exact ⟨_, _, _, _, _, rfl, acceptedMoved, rejectedMoved, .both differ accepts rejects,
        acceptedWay, rejectedWay⟩

theorem conditionalExit_gives
    (ending : block.ending? = some (.conditional condition accepted rejected))
    (merges : selectionMerge block = .ok none)
    (listed : (conditionalExit blocks run constructs block.label condition accepted
      rejected).Gives next front)
    (goesOn : (goOn run constructs next).Gives () back) :
    Structured program blocks (.rest block) constructs (front ++ back) := by
  simp only [conditionalExit] at listed
  split at listed
  · rename_i same
    subst same
    obtain ⟨edgeMoves, code, moved, split, way⟩ := edge_some_gives sound clear listed goesOn
    rw [split]
    exact .onlyTarget ending merges moved way
  · rename_i distinct
    split at listed
    · simp [gives_bind, gives_fail] at listed
    · rename_i shape
      obtain ⟨acceptedLeads, rejectedLeads, _⟩ := exitShape_ok shape
      simp only [branch, gives_bind, gives_conditional, gives_pure] at listed
      obtain ⟨_, _, _, ⟨accepts, either⟩, ⟨rfl, rfl⟩, rfl⟩ := listed
      obtain ⟨_, rfl⟩ := gives_pure.mp goesOn
      rcases either with ⟨skipped, _⟩ | ⟨_, rejects, rfl⟩
      · cases skipped
      obtain ⟨acceptedMoves, _, acceptedMoved, accepts, acceptedWay⟩ :=
        arm_gives sound clear (gives_self accepts)
      obtain ⟨rejectedMoves, _, rejectedMoved, rejects, rejectedWay⟩ :=
        arm_gives sound clear (gives_self rejects)
      exact .exits ending merges distinct acceptedLeads rejectedLeads acceptedMoved rejectedMoved
        accepts rejects acceptedWay rejectedWay
    · rename_i shape
      obtain ⟨acceptedNext, rejectedLeads, leads⟩ := exitShape_ok shape
      simp only [Bool.false_eq_true, false_or] at leads
      subst leads
      simp only [when, gives_bind, gives_inside] at listed
      obtain ⟨_, _, _, ⟨rejects, rfl⟩, taken, rfl⟩ := listed
      obtain ⟨rejectedMoves, _, rejectedMoved, rejects, rejectedWay⟩ :=
        arm_gives sound clear (gives_self rejects)
      obtain ⟨acceptedMoves, _, acceptedMoved, split, acceptedWay⟩ :=
        edge_some_gives sound clear taken goesOn
      rw [append_assoc, split]
      exact .exit false ending merges rfl rejectedLeads
        (next_of_not_structural acceptedNext) rejectedMoved acceptedMoved rejects rejectedWay
        acceptedWay
    · rename_i shape
      obtain ⟨acceptedLeads, rejectedNext, _⟩ := exitShape_ok shape
      simp only [when, gives_bind, gives_inside] at listed
      obtain ⟨_, _, _, ⟨accepts, rfl⟩, taken, rfl⟩ := listed
      obtain ⟨acceptedMoves, _, acceptedMoved, accepts, acceptedWay⟩ :=
        arm_gives sound clear (gives_self accepts)
      obtain ⟨rejectedMoves, _, rejectedMoved, split, rejectedWay⟩ :=
        edge_some_gives sound clear taken goesOn
      rw [append_assoc, split]
      exact .exit true ending merges rfl acceptedLeads
        (next_of_not_structural rejectedNext) acceptedMoved rejectedMoved accepts acceptedWay
        rejectedWay

theorem switch_gives (ends : terminator block = .ok inst) (op : inst.op = .switch)
    (merges : selectionMerge block = .ok (some merge))
    (listed : (switch program blocks run constructs block.label inst merge).Gives next front)
    (goesOn : (goOn run constructs next).Gives () back) :
    Structured program blocks (.rest block) constructs (front ++ back) := by
  simp only [switch, gives_bind, gives_lift, gives_inside] at listed
  obtain ⟨selector, _, _, ⟨first, rfl⟩, ⟨default, _, _, ⟨second, rfl⟩, ⟨type, _, _, ⟨typed, rfl⟩,
    ⟨hasDefault, _, _, ⟨defaults, rfl⟩, ⟨_, _, _, ⟨listed, rfl⟩, taken, rfl⟩, rfl⟩, rfl⟩, rfl⟩,
    rfl⟩ := listed
  refine .switch (ending_switch ends op first second) merges typed defaults
    (gives_forM ?_ (gives_self listed)) (edge_none_gives sound clear taken goesOn)
  intro found member code inside
  obtain ⟨armListed, rfl⟩ := gives_inside.mp inside
  obtain ⟨edgeMoves, moved, spelled⟩ :=
    switchArm_gives (mem_map_of_mem member) (gives_self armListed)
  exact ⟨_, rfl, _, edgeMoves, rfl, moved, spelled⟩

theorem follow_gives (listed : (follow program blocks run constructs block).Gives next front)
    (goesOn : (goOn run constructs next).Gives () back) :
    Structured program blocks (.rest block) constructs (front ++ back) := by
  simp only [follow, gives_bind, gives_lift] at listed
  obtain ⟨inst, _, _, ⟨ends, rfl⟩, ⟨merge, _, _, ⟨merges, rfl⟩, listed, rfl⟩, rfl⟩ := listed
  split at listed
  · rename_i op
    simp only [gives_bind, gives_lift] at listed
    obtain ⟨target, _, _, ⟨read, rfl⟩, taken, rfl⟩ := listed
    obtain ⟨edgeMoves, code, moved, split, way⟩ := edge_some_gives sound clear taken goesOn
    rw [split]
    exact .branch (ending_branch ends op read) moved way
  · rename_i op
    simp only [gives_bind, gives_lift] at listed
    obtain ⟨condition, _, _, ⟨first, rfl⟩, ⟨accepted, _, _, ⟨second, rfl⟩, ⟨rejected, _, _,
      ⟨third, rfl⟩, listed, rfl⟩, rfl⟩, rfl⟩ := listed
    have ending := ending_conditional ends op first second third
    cases merge with
    | some merge =>
      simp only [selection, gives_bind] at listed
      obtain ⟨_, _, rest, forked, taken, rfl⟩ := listed
      obtain ⟨_, _, _, _, _, rfl, acceptedMoved, rejectedMoved, forks, acceptedWay, rejectedWay⟩ :=
        fork_gives sound clear forked
      exact .selection ending merges acceptedMoved rejectedMoved forks acceptedWay rejectedWay
        (edge_none_gives sound clear taken goesOn)
    | none => exact conditionalExit_gives sound clear ending merges listed goesOn
  · rename_i op
    cases merge with
    | some merge => exact switch_gives sound clear ends op merges listed goesOn
    | none => simp [gives_fail] at listed
  · rename_i op
    simp only [gives_bind, gives_emit, gives_pure, Listing.parts] at listed
    obtain ⟨_, _, _, rfl, ⟨rfl, rfl⟩, rfl⟩ := listed
    obtain ⟨_, rfl⟩ := gives_pure.mp goesOn
    exact .ret (by simp [Block.ending?, terminator_some ends, op])
  · rename_i op
    simp only [gives_bind, gives_lift, gives_emit, gives_pure, Listing.parts] at listed
    obtain ⟨value, _, _, ⟨read, rfl⟩, ⟨_, _, _, rfl, ⟨rfl, rfl⟩, rfl⟩, rfl⟩ := listed
    obtain ⟨_, rfl⟩ := gives_pure.mp goesOn
    exact .ret (ending_returnValue ends op read)
  · rename_i op
    simp only [gives_bind, gives_emit, gives_pure, Listing.parts] at listed
    obtain ⟨_, _, _, rfl, ⟨rfl, rfl⟩, rfl⟩ := listed
    obtain ⟨_, rfl⟩ := gives_pure.mp goesOn
    exact .kill (by simp [Block.ending?, terminator_some ends, op])
  · rename_i op
    obtain ⟨rfl, rfl⟩ := gives_pure.mp listed
    obtain ⟨_, rfl⟩ := gives_pure.mp goesOn
    exact .unreachable (by simp [Block.ending?, terminator_some ends, op])
  · simp [gives_fail] at listed

theorem chain_gives (listed : (chain program blocks run constructs label).Gives () code) :
    Structured program blocks (.chain label) constructs code := by
  simp only [chain, gives_bind, gives_lift] at listed
  obtain ⟨block, _, _, ⟨found, rfl⟩, ⟨loops, _, _, ⟨merges, rfl⟩, listed, rfl⟩, rfl⟩ := listed
  cases loops with
  | none =>
    simp only [gives_bind, gives_emit, Listing.parts] at listed
    obtain ⟨_, _, _, rfl, ⟨next, _, _, followed, goesOn, rfl⟩, rfl⟩ := listed
    have rest := follow_gives sound clear followed goesOn
    exact .plain found merges rest
  | some targets =>
    obtain ⟨merge, continueTarget⟩ := targets
    simp only [gives_bind, gives_inside, Listing.parts] at listed
    obtain ⟨_, _, _, ⟨inside, rfl⟩, ⟨next, _, _, taken, goesOn, rfl⟩, rfl⟩ := listed
    have clearInner := clear.loop label merge continueTarget
    have body := gives_self inside
    simp only [gives_bind, gives_emit, Listing.parts] at body
    obtain ⟨_, _, _, rfl, ⟨_, _, _, followed, onward, rfl⟩, spells⟩ := body
    have rest := follow_gives sound clearInner followed onward
    have way := edge_none_gives sound clear taken goesOn
    exact .loop found merges spells rest way

end

theorem listWithin_sound (program : Program) (blocks : List Block) (fuel : Nat) :
    Sound program blocks (listWithin program blocks fuel) := by
  -- What is listed inside of a task has less fuel, and each step only needs that to be sound.
  induction fuel with
  | zero =>
    intro task constructs code clear listed
    simp [listWithin, gives_fail] at listed
  | succ fuel ih =>
    intro task constructs code clear listed
    cases task with
    | chain label => exact chain_gives ih clear listed
    | iterationEnd label => exact iterationEnd_gives ih clear listed

end Structure

open Structure in
theorem structureBlocks_structured {program : Program} {blocks : List Block} {first : Id}
    (listed : (structureBlocks program blocks first).result = .ok ()) :
    Structured program blocks (.chain first) []
      (structureBlocks program blocks first).listing.parts :=
  listWithin_sound program blocks _ (.chain first) [] _ (fun _ _ => not_mem_nil)
    (gives_self listed)

end SpirvMetal
