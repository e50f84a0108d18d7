import Mathlib.Logic.Relation
import SpirvMetal.Proofs.Emit.Instruction
import SpirvMetal.Proofs.Flow.Listed

/-!
Which blocks of a function are written.
-/

namespace SpirvMetal

open List

def Listing.labels : Listing → List Id
  | .block label => [label]
  | .seq first second => first.labels ++ second.labels
  | .when _ _ inner => inner.labels
  | .branch _ _ inner other => inner.labels ++ other.labels
  | .loop body => body.labels
  | .switch _ arms => arms.labels
  | .arm _ _ body => body.labels
  | .skip | .assign _ _ | .leave | .again | .ret _ _ | .discard => []

def held (code : List Listing) : List Id := code.flatMap Listing.labels

@[simp] theorem held_nil : held [] = [] := rfl

@[simp] theorem held_cons (statement : Listing) (code : List Listing) :
    held (statement :: code) = statement.labels ++ held code := rfl

@[simp] theorem held_append (front back : List Listing) :
    held (front ++ back) = held front ++ held back := flatMap_append

@[simp] theorem held_assigns (moves : List (Id × Id)) : held (assigns moves) = [] := by
  induction moves with
  | nil => rfl
  | cons move rest ih => exact ih

theorem held_parts (listing : Listing) : held listing.parts = listing.labels := by
  induction listing with
  | skip => rfl
  | seq first second firstHeld secondHeld =>
    simp only [Listing.parts, held_append, firstHeld, secondHeld, Listing.labels]
  | _ => simp [Listing.parts, held]

def Block.jumps (block : Block) : List Id :=
  match block.ending? with
  | some (.branch target) => [target]
  | some (.conditional _ accepted rejected) => [accepted, rejected]
  | _ => []

namespace Structure

/-- Where the switch that ends a block leads: its default first, then its cases. -/
def cases (program : Program) (block : Block) : List Id :=
  match block.ending? with
  | some (.switch selector default words) =>
    match program.expressionType selector with
    | .ok type =>
      default :: (if type.width = 64 then wideCases words else pairs words).map (·.2)
    | .error _ => [default]
  | _ => []

variable (program : Program) (blocks : List Block)

def Branches (source target : Id) : Prop :=
  ∃ block, findBlock blocks source = .ok block ∧
    (target ∈ block.jumps ∨ target ∈ cases program block)

/-- Where control can go from a block without entering an arm of a switch: it passes the switch. -/
def PassesTo (block : Block) (target : Id) : Prop :=
  target ∈ block.jumps ∨
    (∃ selector default words, block.ending? = some (.switch selector default words)) ∧
      selectionMerge block = .ok (some target)

def Passes (source target : Id) : Prop :=
  ∃ block, findBlock blocks source = .ok block ∧ PassesTo block target

/-- The block names the other one, in a branch or as the end of a construct. -/
def NamesTo (block : Block) (target : Id) : Prop :=
  target ∈ block.jumps ∨ selectionMerge block = .ok (some target) ∨
    ∃ continueTarget, loopMerge block = .ok (some (target, continueTarget))

def Names (source target : Id) : Prop :=
  ∃ block, findBlock blocks source = .ok block ∧ NamesTo block target

/-- A construct is left, or begun again, at these blocks: they are listed outside of it. -/
def Owed (constructs : List Construct) (target : Id) : Prop :=
  ∃ construct ∈ constructs, match construct with
    | .selection merge | .switch merge _ => target = merge
    | .loop header merge _ => target = header ∨ target = merge

def Met (constructs : List Construct) (code : List Listing) (target : Id) : Prop :=
  target ∈ held code ∨ Owed constructs target

/-- Control that leaves these blocks, and passes switches, stays in what is listed. -/
def Closed (constructs : List Construct) (code : List Listing) (labels : List Id) : Prop :=
  ∀ label ∈ labels, ∀ target, Passes blocks label target → Met constructs code target

/-- What a part leads to is listed. -/
def Covers (part : Part) (constructs : List Construct) (code : List Listing) : Prop :=
  (match part with
    | .way target => Met constructs code target
    | .chain label | .iterationEnd label => label ∈ held code
    | .rest block => ∀ target, PassesTo block target → Met constructs code target) ∧
  Closed blocks constructs code (held code)

variable {program blocks} {constructs inner : List Construct} {code part : List Listing}
  {target merge condition accepted rejected : Id} {labels : List Id}
  {acceptedMoves rejectedMoves edgeMoves : List (Id × Id)} {acceptedCode rejectedCode : List Listing}
  {arm other : Listing}

@[simp] theorem owed_nil : ¬ Owed [] target := by simp [Owed]

@[simp] theorem owed_selection :
    Owed (.selection merge :: constructs) target ↔ target = merge ∨ Owed constructs target := by
  simp [Owed]

@[simp] theorem owed_loop {header continueTarget : Id} :
    Owed (.loop header merge continueTarget :: constructs) target ↔
      (target = header ∨ target = merge) ∨ Owed constructs target := by
  simp [Owed]

theorem Met.within (met : Met inner part target) (holds : held part ⊆ held code)
    (pays : ∀ target, Owed inner target → Met constructs code target) :
    Met constructs code target := by
  rcases met with listed | owed
  · exact .inl (holds listed)
  · exact pays target owed

theorem Closed.within (closed : Closed blocks inner part labels) (holds : held part ⊆ held code)
    (pays : ∀ target, Owed inner target → Met constructs code target) :
    Closed blocks constructs code labels := fun label member target passes =>
  (closed label member target passes).within holds pays

theorem Met.mono (met : Met constructs part target) (holds : held part ⊆ held code) :
    Met constructs code target := met.within holds fun _ => .inr

theorem Closed.mono (closed : Closed blocks constructs part labels)
    (holds : held part ⊆ held code) : Closed blocks constructs code labels :=
  closed.within holds fun _ => .inr

theorem Closed.append {others : List Id} (closed : Closed blocks constructs code labels)
    (closedOthers : Closed blocks constructs code others) :
    Closed blocks constructs code (labels ++ others) := by
  intro label member
  rcases mem_append.mp member with member | member
  · exact closed label member
  · exact closedOthers label member

theorem owed_of_classify {edge : Edge} (classified : classify constructs target = .ok edge)
    (out : edge = .stop ∨ edge = .leave ∨ edge = .backEdge) : Owed constructs target := by
  rcases classify_means classified with rfl | ⟨construct, member, means⟩
  · simp at out
  · refine ⟨construct, member, ?_⟩
    cases means with
    | arm | iteration => simp at out
    | again => exact .inl rfl
    | leave => exact .inr rfl
    | stop | leaveSwitch => rfl

section

variable {block : Block}

theorem passesTo_branch {only : Id} (ending : block.ending? = some (.branch only)) :
    PassesTo block target ↔ target = only := by
  simp [PassesTo, Block.jumps, ending]

theorem passesTo_conditional
    (ending : block.ending? = some (.conditional condition accepted rejected)) :
    PassesTo block target ↔ target = accepted ∨ target = rejected := by
  simp [PassesTo, Block.jumps, ending]

theorem passesTo_switch {selector default : Id} {words : List Nat}
    (ending : block.ending? = some (.switch selector default words)) :
    PassesTo block target ↔ selectionMerge block = .ok (some target) := by
  simp [PassesTo, Block.jumps, ending]

theorem closed_single {label : Id} (found : findBlock blocks label = .ok block)
    (met : ∀ target, PassesTo block target → Met constructs code target) :
    Closed blocks constructs code [label] := by
  intro member single target ⟨other, foundOther, passes⟩
  rw [mem_singleton.mp single, found] at foundOther
  cases foundOther
  exact met target passes

end

theorem forks_held {statement : Listing}
    (forks : Forks condition (assigns acceptedMoves ++ acceptedCode)
      (assigns rejectedMoves ++ rejectedCode) (accepted = merge ∧ rejected = merge) statement)
    (way : Structured program blocks (.way rejected) (.selection merge :: constructs)
      rejectedCode) :
    ∀ label, label ∈ statement.labels ↔ label ∈ held acceptedCode ∨ label ∈ held rejectedCode := by
  intro label
  cases forks with
  | both _ accepts rejects => simp [Listing.labels, ← held_parts, accepts, rejects]
  | swapped _ rejects accepts => simp [Listing.labels, ← held_parts, accepts, rejects, or_comm]
  | accepted accepts nothing =>
    simp [Listing.labels, ← held_parts, accepts, way_omitted way nothing]
  | rejected _ rejects nothing =>
    simp [Listing.labels, ← held_parts, rejects, (append_eq_nil_iff.mp nothing).2]

theorem switch_held {label default : Id} {hasDefault : Bool} {found : List Arm}
    {arms : List Listing}
    (spells : List.Forall₂ (SpellsArm blocks label merge default hasDefault) found arms) :
    held arms = [] := by
  induction spells with
  | nil => rfl
  | cons spelled _ ih =>
    obtain ⟨body, edgeMoves, rfl, _, parts⟩ := spelled
    rw [held_cons, ih, Listing.labels, ← held_parts, parts]
    split <;> simp [Listing.labels]

section

variable {block : Block} {label : Id} {after : List Listing}

theorem covers_block (found : findBlock blocks label = .ok block)
    (rest : Covers blocks (.rest block) constructs code) :
    Covers blocks (.chain label) constructs (.block label :: code) := by
  have holds : held code ⊆ held (.block label :: code) := by simp
  refine ⟨by simp [Listing.labels], ?_⟩
  exact (closed_single found fun target passes => (rest.1 target passes).mono holds).append
    (rest.2.mono holds)

theorem covers_onward (only : ∀ other, PassesTo block other → other = target)
    (way : Covers blocks (.way target) constructs code) :
    Covers blocks (.rest block) constructs (assigns edgeMoves ++ code) := by
  refine ⟨fun other passes => ?_, ?_⟩
  · rw [only other passes]
    exact way.1.mono (by simp)
  · simpa using way.2.mono (by simp)

theorem covers_either (ending : block.ending? = some (.conditional condition accepted rejected))
    (accepts : arm.parts = assigns acceptedMoves ++ acceptedCode)
    (rejects : other.parts = assigns rejectedMoves ++ rejectedCode)
    (acceptedWay : Covers blocks (.way accepted) constructs acceptedCode)
    (rejectedWay : Covers blocks (.way rejected) constructs rejectedCode) :
    Covers blocks (.rest block) constructs [.branch condition true arm other] := by
  have armHeld : arm.labels = held acceptedCode := by simp [← held_parts, accepts]
  have otherHeld : other.labels = held rejectedCode := by simp [← held_parts, rejects]
  have holds : held acceptedCode ⊆ held [.branch condition true arm other] := by
    simp [Listing.labels, armHeld]
  have holdsOther : held rejectedCode ⊆ held [.branch condition true arm other] := by
    simp [Listing.labels, otherHeld]
  refine ⟨fun target passes => ?_, ?_⟩
  · rcases (passesTo_conditional ending).mp passes with rfl | rfl
    · exact acceptedWay.1.mono holds
    · exact rejectedWay.1.mono holdsOther
  · have closed := (acceptedWay.2.mono holds).append (rejectedWay.2.mono holdsOther)
    simpa [Listing.labels, armHeld, otherHeld] using closed

theorem covers_loop {continueTarget : Id} {body : Listing}
    (found : findBlock blocks label = .ok block) (spells : body.parts = .block label :: code)
    (rest : Covers blocks (.rest block) (.loop label merge continueTarget :: constructs) code)
    (way : Covers blocks (.way merge) constructs after) :
    Covers blocks (.chain label) constructs (.loop body :: after) := by
  have inside := covers_block found rest
  have bodyHeld : body.labels = held (.block label :: code) := by rw [← held_parts, spells]
  have holds : held (.block label :: code) ⊆ held (.loop body :: after) := fun _ member =>
    mem_append_left _ (bodyHeld ▸ member)
  have holdsAfter : held after ⊆ held (.loop body :: after) := by simp
  -- The loop owes its header and its merge block; one is in its body, the other behind it.
  have pays : ∀ target, Owed (.loop label merge continueTarget :: constructs) target →
      Met constructs (.loop body :: after) target := by
    intro target owed
    rcases owed_loop.mp owed with (rfl | rfl) | owed
    · exact .inl (holds inside.1)
    · exact way.1.mono holdsAfter
    · exact .inr owed
  refine ⟨holds inside.1, ?_⟩
  rw [held_cons, Listing.labels, bodyHeld]
  exact (inside.2.within holds pays).append (way.2.mono holdsAfter)

theorem covers_end (nowhere : ∀ target, ¬ PassesTo block target) (nothing : held code = []) :
    Covers blocks (.rest block) constructs code := by
  refine ⟨fun target passes => absurd passes (nowhere target), ?_⟩
  rw [nothing]
  exact nofun

end

theorem Structured.covers {part : Part}
    (structured : Structured program blocks part constructs code) :
    Covers blocks part constructs code := by
  induction structured with
  | stop classified => exact ⟨.inr (owed_of_classify classified (.inl rfl)), nofun⟩
  | leave classified => exact ⟨.inr (owed_of_classify classified (.inr (.inl rfl))), nofun⟩
  | again classified => exact ⟨.inr (owed_of_classify classified (.inr (.inr rfl))), nofun⟩
  | iteration _ _ ih => exact ⟨.inl ih.1, ih.2⟩
  | next _ _ ih => exact ⟨.inl ih.1, ih.2⟩
  | closing found ending _ _ _ ih =>
    exact covers_block found (covers_onward (fun _ => (passesTo_branch ending).mp) ih)
  | closingEither found ending _ _ _ _ accepts rejects _ _ acceptedIh rejectedIh =>
    exact covers_block found (covers_either ending accepts rejects acceptedIh rejectedIh)
  | plain found _ _ ih => exact covers_block found ih
  | loop found _ spells _ _ restIh wayIh => exact covers_loop found spells restIh wayIh
  | branch ending _ _ ih => exact covers_onward (fun _ => (passesTo_branch ending).mp) ih
  | @selection _ _ _ _ merge constructs _ _ acceptedCode rejectedCode statement after ending _ _ _
      forks _ rejectedWay _ acceptedIh rejectedIh ih =>
    have split := forks_held forks rejectedWay
    have holds : held acceptedCode ⊆ held (statement :: after) := fun label member =>
      mem_append_left _ ((split label).mpr (.inl member))
    have holdsOther : held rejectedCode ⊆ held (statement :: after) := fun label member =>
      mem_append_left _ ((split label).mpr (.inr member))
    have holdsAfter : held after ⊆ held (statement :: after) := by simp
    have pays : ∀ target, Owed (.selection merge :: constructs) target →
        Met constructs (statement :: after) target := by
      intro target owed
      rcases owed_selection.mp owed with rfl | owed
      · exact ih.1.mono holdsAfter
      · exact .inr owed
    refine ⟨fun target passes => ?_, fun label member => ?_⟩
    · rcases (passesTo_conditional ending).mp passes with rfl | rfl
      · exact acceptedIh.1.within holds pays
      · exact rejectedIh.1.within holdsOther pays
    · rcases mem_append.mp member with member | member
      · rcases (split label).mp member with member | member
        · exact acceptedIh.2.within holds pays label member
        · exact rejectedIh.2.within holdsOther pays label member
      · exact ih.2.mono holdsAfter label member
  | onlyTarget ending _ _ _ ih =>
    exact covers_onward (fun _ passes => by simpa [passesTo_conditional ending] using passes) ih
  | exits ending _ _ _ _ _ _ accepts rejects _ _ acceptedIh rejectedIh =>
    exact covers_either ending accepts rejects acceptedIh rejectedIh
  | @exit _ condition _ _ _ exit onward _ onwardMoves exitCode onwardCode expected arm ending _ chosen
      _ _ _ _ spells _ _ exitIh onwardIh =>
    have armHeld : arm.labels = held exitCode := by simp [← held_parts, spells]
    have holds : held exitCode ⊆
        held (.when condition expected arm :: (assigns onwardMoves ++ onwardCode)) := by
      simp [Listing.labels, armHeld]
    have holdsOnward : held onwardCode ⊆
        held (.when condition expected arm :: (assigns onwardMoves ++ onwardCode)) := by
      simp
    refine ⟨fun target passes => ?_, ?_⟩
    · have either : target = exit ∨ target = onward := by
        cases expected <;> simp_all [passesTo_conditional ending, or_comm]
      rcases either with rfl | rfl
      · exact exitIh.1.mono holds
      · exact onwardIh.1.mono holdsOnward
    · have closed := (exitIh.2.mono holds).append (onwardIh.2.mono holdsOnward)
      simpa [Listing.labels, armHeld] using closed
  | @switch _ selector _ _ _ _ _ _ arms after ending merges _ _ spells _ ih =>
    have none : arms.labels = [] := by rw [← held_parts, switch_held spells]
    have holds : held after ⊆ held (.switch selector arms :: after) := by simp
    refine ⟨fun target passes => ?_, ?_⟩
    · have same := (passesTo_switch ending).mp passes
      rw [merges] at same
      cases same
      exact ih.1.mono holds
    · simpa [Listing.labels, none] using ih.2.mono holds
  | ret ending => exact covers_end (by simp [PassesTo, Block.jumps, ending]) rfl
  | kill ending => exact covers_end (by simp [PassesTo, Block.jumps, ending]) rfl
  | unreachable ending => exact covers_end (by simp [PassesTo, Block.jumps, ending]) rfl

/-- The block exists, and names lead to it from where the part starts. -/
def Reached (blocks : List Block) (part : Part) (label : Id) : Prop :=
  (∃ block, findBlock blocks label = .ok block) ∧ match part with
    | .way start | .chain start | .iterationEnd start =>
      Relation.ReflTransGen (Names blocks) start label
    | .rest block =>
      ∃ start, NamesTo block start ∧ Relation.ReflTransGen (Names blocks) start label

section

variable {block : Block} {label start : Id}

theorem Reached.of_rest (found : findBlock blocks start = .ok block)
    (reached : Reached blocks (.rest block) label) : Reached blocks (.chain start) label := by
  obtain ⟨stored, next, names, path⟩ := reached
  exact ⟨stored, .head ⟨block, found, names⟩ path⟩

theorem reached_block (found : findBlock blocks start = .ok block)
    (rest : ∀ label ∈ held code, Reached blocks (.rest block) label) :
    ∀ label ∈ held (.block start :: code), Reached blocks (.chain start) label := by
  intro label member
  rcases mem_cons.mp member with rfl | member
  · exact ⟨⟨block, found⟩, .refl⟩
  · exact .of_rest found (rest label member)

theorem Reached.of_way (names : NamesTo block start) (reached : Reached blocks (.way start) label) :
    Reached blocks (.rest block) label :=
  ⟨reached.1, start, names, reached.2⟩

theorem namesTo_branch (ending : block.ending? = some (.branch target)) : NamesTo block target :=
  .inl (by simp [Block.jumps, ending])

theorem namesTo_accepted
    (ending : block.ending? = some (.conditional condition accepted rejected)) :
    NamesTo block accepted := .inl (by simp [Block.jumps, ending])

theorem namesTo_rejected
    (ending : block.ending? = some (.conditional condition accepted rejected)) :
    NamesTo block rejected := .inl (by simp [Block.jumps, ending])

theorem reached_onward (names : NamesTo block target)
    (way : ∀ label ∈ held code, Reached blocks (.way target) label) :
    ∀ label ∈ held (assigns edgeMoves ++ code), Reached blocks (.rest block) label := by
  intro label member
  rw [held_append, held_assigns, nil_append] at member
  exact .of_way names (way label member)

theorem reached_either
    (ending : block.ending? = some (.conditional condition accepted rejected))
    (accepts : arm.parts = assigns acceptedMoves ++ acceptedCode)
    (rejects : other.parts = assigns rejectedMoves ++ rejectedCode)
    (acceptedWay : ∀ label ∈ held acceptedCode, Reached blocks (.way accepted) label)
    (rejectedWay : ∀ label ∈ held rejectedCode, Reached blocks (.way rejected) label) :
    ∀ label ∈ held [.branch condition true arm other], Reached blocks (.rest block) label := by
  intro label member
  simp only [held_cons, Listing.labels, ← held_parts, accepts, rejects, held_nil,
    append_nil] at member
  rcases mem_append.mp member with member | member
  · exact reached_onward (namesTo_accepted ending) acceptedWay label member
  · exact reached_onward (namesTo_rejected ending) rejectedWay label member

end

theorem Structured.reached {part : Part}
    (structured : Structured program blocks part constructs code) :
    ∀ label ∈ held code, Reached blocks part label := by
  induction structured with
  | stop | leave | again | ret | kill | unreachable => exact nofun
  | iteration _ _ ih => exact ih
  | next _ _ ih => exact ih
  | closing found ending _ _ _ ih =>
    exact reached_block found (reached_onward (namesTo_branch ending) ih)
  | closingEither found ending _ _ _ _ accepts rejects _ _ acceptedIh rejectedIh =>
    exact reached_block found (reached_either ending accepts rejects acceptedIh rejectedIh)
  | plain found _ _ ih => exact reached_block found ih
  | loop found merges spells _ _ restIh wayIh =>
    intro label member
    rw [held_cons, Listing.labels, ← held_parts, spells, mem_append] at member
    rcases member with member | member
    · exact reached_block found restIh label member
    · exact .of_rest found (.of_way (.inr (.inr ⟨_, merges⟩)) (wayIh label member))
  | branch ending _ _ ih => exact reached_onward (namesTo_branch ending) ih
  | selection ending merges _ _ forks _ rejectedWay _ acceptedIh rejectedIh ih =>
    intro label member
    rw [held_cons, mem_append, forks_held forks rejectedWay] at member
    rcases member with (member | member) | member
    · exact .of_way (namesTo_accepted ending) (acceptedIh label member)
    · exact .of_way (namesTo_rejected ending) (rejectedIh label member)
    · exact .of_way (.inr (.inl merges)) (ih label member)
  | onlyTarget ending _ _ _ ih => exact reached_onward (namesTo_accepted ending) ih
  | exits ending _ _ _ _ _ _ accepts rejects _ _ acceptedIh rejectedIh =>
    exact reached_either ending accepts rejects acceptedIh rejectedIh
  | exit expected ending _ chosen _ _ _ _ spells _ _ exitIh onwardIh =>
    intro label member
    rw [held_cons, Listing.labels, ← held_parts, spells, mem_append] at member
    cases expected with
    | true =>
      cases chosen
      rcases member with member | member
      · exact reached_onward (namesTo_accepted ending) exitIh label member
      · exact reached_onward (namesTo_rejected ending) onwardIh label member
    | false =>
      cases chosen
      rcases member with member | member
      · exact reached_onward (namesTo_rejected ending) exitIh label member
      · exact reached_onward (namesTo_accepted ending) onwardIh label member
  | switch ending merges _ _ spells _ ih =>
    intro label member
    rw [held_cons, Listing.labels, ← held_parts, switch_held spells, nil_append] at member
    exact .of_way (.inr (.inl merges)) (ih label member)

end Structure

end SpirvMetal
