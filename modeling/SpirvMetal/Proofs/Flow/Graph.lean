import SpirvMetal.Proofs.Flow.Coverage

/-!
The blocks of a function as a graph, and where in the listing its control is. A spot is a block in
the constructs that it is listed in.
-/

namespace SpirvMetal

variable {σ : Type}

namespace Meaning

variable (meaning : Meaning σ)

def chooses (block : Block) (s : σ) : Option Id :=
  match block.ending? with
  | some (.branch target) => some target
  | some (.conditional condition accepted rejected) =>
    some (if meaning.holds condition s then accepted else rejected)
  | _ => none

def graph (blocks : List Block) : Nat → Id → σ → Run σ
  | 0, _, _ => .cut
  | n + 1, label, s =>
    match Structure.findBlock blocks label with
    | .error _ => .cut
    | .ok block =>
      let final := meaning.body label s
      .enter label s
        (match meaning.chooses block final with
        | some target => graph blocks n target final
        | none => .done)

def graphAfter (blocks : List Block) (n : Nat) (block : Block) (s : σ) : Run σ :=
  match meaning.chooses block s with
  | some target => meaning.graph blocks n target s
  | none => .done

theorem graph_succ {blocks : List Block} {label : Id} {block : Block}
    (found : Structure.findBlock blocks label = .ok block) (n : Nat) (s : σ) :
    meaning.graph blocks (n + 1) label s =
      .enter label s (meaning.graphAfter blocks n block (meaning.body label s)) := by
  rw [graph, found]
  rfl

theorem mem_jumps_of_chooses {block : Block} {s : σ} {target : Id}
    (chosen : meaning.chooses block s = some target) : target ∈ block.jumps := by
  unfold chooses at chosen
  unfold Block.jumps
  split at chosen <;> simp_all
  split at chosen <;> simp_all

end Meaning

namespace Structure

structure Spot where
  label : Id
  constructs : List Construct
  closes : Bool := false
  /-- The text of another target follows where the innermost selection should end. -/
  falls : Bool := false
deriving DecidableEq

def Spot.root (first : Id) : Spot where
  label := first
  constructs := []

def looped (block : Block) (label : Id) (constructs : List Construct) : List Construct :=
  match loopMerge block with
  | .ok (some (merge, continueTarget)) => .loop label merge continueTarget :: constructs
  | _ => constructs

/-- The constructs around the arms of the branch that ends a block. -/
def forked (block : Block) (constructs : List Construct) : List Construct :=
  match block.ending?, selectionMerge block with
  | some (.conditional _ _ _), .ok (some merge) => .selection merge :: constructs
  | _, _ => constructs

def leads (constructs : List Construct) (target : Id) : Bool :=
  match classify constructs target with
  | .ok edge => edge.isStructural
  | .error _ => false

/-- The target is a way out, and the other target of the branch is not. -/
def loneExit (block : Block) (constructs : List Construct) (target : Id) : Bool :=
  match block.ending?, selectionMerge block with
  | some (.conditional _ accepted rejected), .ok none =>
    leads constructs target && !(leads constructs accepted && leads constructs rejected)
  | _, _ => false

namespace Spot

def around (spot : Spot) (block : Block) : List Construct :=
  if spot.closes then spot.constructs
  else forked block (looped block spot.label spot.constructs)

/-- Whether a branch to the end of the innermost selection falls into other text. -/
def fallsTo (spot : Spot) (block : Block) (target : Id) : Bool :=
  if spot.closes then spot.falls
  else loneExit block (looped block spot.label spot.constructs) target

end Spot

/-- Where the text of a target is met, from inside of constructs. -/
def arrive (falls : Bool) (constructs : List Construct) (target : Id) : Option Spot :=
  match classify constructs target with
  | .ok (.next _) => some { label := target, constructs }
  | .ok (.continueBlock _) => some { label := target, constructs, closes := true, falls }
  | .ok .stop | .ok .leave | .ok .backEdge =>
    match constructs with
    | .selection _ :: outer => arrive false outer target
    | .loop header _ _ :: outer =>
      if target = header then some { label := target, constructs := outer }
      else arrive false outer target
    | _ => none
  | _ => none

variable (blocks : List Block)

def Goes (spot next : Spot) : Prop :=
  ∃ block target, findBlock blocks spot.label = .ok block ∧ target ∈ block.jumps ∧
    arrive (spot.fallsTo block target) (spot.around block) target = some next

def Spot.successors (spot : Spot) : List Spot :=
  match findBlock blocks spot.label with
  | .error _ => []
  | .ok block =>
    block.jumps.filterMap fun target =>
      arrive (spot.fallsTo block target) (spot.around block) target

variable {blocks} in
theorem mem_successors {spot next : Spot} :
    next ∈ spot.successors blocks ↔ Goes blocks spot next := by
  unfold Spot.successors Goes
  cases found : findBlock blocks spot.label with
  | error fault => simp
  | ok block => simp

/-- A branch to the end of the innermost selection falls into other text. -/
def Loses (spot : Spot) : Prop :=
  ∃ block target, findBlock blocks spot.label = .ok block ∧ target ∈ block.jumps ∧
    spot.fallsTo block target = true ∧ classify (spot.around block) target = .ok .stop

def Proper (constructs : List Construct) (target : Id) : Prop :=
  Construct.selection target ∉ constructs.tail

instance (constructs : List Construct) (target : Id) : Decidable (Proper constructs target) :=
  inferInstanceAs (Decidable (_ ∉ _))

/-- Followed for a number of blocks, the run from a spot takes no branch that falls into the text of
another target. A branch behind which no block is followed does no harm. -/
def Safe (meaning : Meaning σ) : Nat → Spot → σ → Prop
  | 0, _, _ => True
  | n + 1, spot, s =>
    ∀ block target, findBlock blocks spot.label = .ok block →
      meaning.chooses block (meaning.body spot.label s) = some target →
      (spot.fallsTo block target = true → classify (spot.around block) target = .ok .stop → n = 0) ∧
        ∀ next, arrive (spot.fallsTo block target) (spot.around block) target = some next →
          Safe meaning n next (meaning.body spot.label s)

def SafeWay (meaning : Meaning σ) (n : Nat) (falls : Bool) (constructs : List Construct)
    (target : Id) (s : σ) : Prop :=
  (falls = true → classify constructs target = .ok .stop → n = 0) ∧
    ∀ next, arrive falls constructs target = some next → Safe blocks meaning n next s

section

variable {constructs : List Construct} {header merge continueTarget target : Id} {falls : Bool}

theorem classify_selection : classify (.selection target :: constructs) target = .ok .stop := by
  simp [classify, classifyWithin]

theorem classify_selection_of_ne (other : target ≠ merge) :
    classify (.selection merge :: constructs) target = classify constructs target := by
  simp [classify, classifyWithin, other]

theorem classify_loop_header :
    classify (.loop target merge continueTarget :: constructs) target = .ok .backEdge := by
  simp [classify, classifyWithin, loopEdge?]

theorem arrive_next (classified : classify constructs target = .ok (.next target)) :
    arrive falls constructs target = some { label := target, constructs } := by
  rw [arrive.eq_def, classified]

theorem arrive_iteration (classified : classify constructs target = .ok (.continueBlock target)) :
    arrive falls constructs target =
      some { label := target, constructs, closes := true, falls } := by
  rw [arrive.eq_def, classified]

theorem arrive_stop :
    arrive falls (.selection merge :: constructs) merge = arrive false constructs merge := by
  rw [arrive.eq_def, classify_selection]

theorem arrive_past
    (out : classify (.selection merge :: constructs) target = .ok .leave ∨
      classify (.selection merge :: constructs) target = .ok .backEdge) :
    arrive falls (.selection merge :: constructs) target = arrive false constructs target := by
  rcases out with out | out <;> rw [arrive.eq_def, out]

theorem arrive_leave
    (classified : classify (.loop header merge continueTarget :: constructs) merge = .ok .leave) :
    arrive falls (.loop header merge continueTarget :: constructs) merge =
      arrive false constructs merge := by
  have other : merge ≠ header := by
    rintro rfl
    simp [classify_loop_header] at classified
  rw [arrive.eq_def, classified]
  simp [other]

theorem arrive_again : arrive falls (.loop header merge continueTarget :: constructs) header =
      some { label := header, constructs } := by
  rw [arrive.eq_def, classify_loop_header]
  simp

theorem arrive_falls (other : Bool)
    (out : classify constructs target = .ok .leave ∨ classify constructs target = .ok .backEdge) :
    arrive falls constructs target = arrive other constructs target := by
  rcases out with out | out <;> rw [arrive.eq_def, arrive.eq_def other, out]

end

end Structure

namespace Meaning

/-- Conditions by a sequence of outcomes, one for each block that is entered; nothing else is
looked at. The state holds the outcome for the current block and those to come. -/
def outcomes : Meaning (Bool × (Nat → Bool)) where
  body _ s := (s.2 0, fun index => s.2 (index + 1))
  holds _ s := s.1
  literal _ _ := ""
  assign _ _ s := s

theorem outcomes_chooses {block : Block} {target : Id} (jumps : target ∈ block.jumps) :
    ∃ outcome, ∀ rest, outcomes.chooses block (outcome, rest) = some target := by
  cases ending : block.ending? with
  | none => simp [Block.jumps, ending] at jumps
  | some found =>
    cases found with
    | branch only =>
      obtain rfl : target = only := by simpa [Block.jumps, ending] using jumps
      exact ⟨true, fun _ => by simp [chooses, ending]⟩
    | conditional condition accepted rejected =>
      have either : target = accepted ∨ target = rejected := by
        simpa [Block.jumps, ending] using jumps
      rcases either with rfl | rfl
      · exact ⟨true, fun _ => by simp [chooses, ending, outcomes]⟩
      · exact ⟨false, fun _ => by simp [chooses, ending, outcomes]⟩
    | _ => simp [Block.jumps, ending] at jumps

end Meaning

namespace Structure

open Meaning (outcomes)

variable {blocks : List Block} {spot next : Spot}

theorem safe_goes (safe : ∀ n s, Safe blocks outcomes n spot s) (goes : Goes blocks spot next)
    (n : Nat) (s : Bool × (Nat → Bool)) : Safe blocks outcomes n next s := by
  obtain ⟨block, target, found, jumps, arrives⟩ := goes
  obtain ⟨outcome, chosen⟩ := Meaning.outcomes_chooses jumps
  have start := safe (n + 1) (true, fun index => index.casesOn outcome s.2)
  have safe := (start block target found (chosen s.2)).2 next arrives
  cases n with
  | zero => trivial
  | succ n => exact safe

/-- Whatever the outcomes, no run is led into the text of another target, just if there is no spot
in reach where that can happen. -/
theorem safe_iff {root : Spot} :
    (∀ n s, Safe blocks outcomes n root s) ↔
      ∀ spot, Relation.ReflTransGen (Goes blocks) root spot → ¬ Loses blocks spot := by
  constructor
  · intro safe spot path
    have safeHere : ∀ n s, Safe blocks outcomes n spot s := by
      induction path with
      | refl => exact safe
      | tail _ goes ih => exact safe_goes ih goes
    rintro ⟨block, target, found, jumps, falls, stops⟩
    -- The outcome that takes the branch, with one block to follow behind it.
    obtain ⟨outcome, chosen⟩ := Meaning.outcomes_chooses jumps
    have last := (safeHere 2 (true, fun _ => outcome) block target found (chosen _)).1 falls stops
    cases last
  · intro kept n
    have safe : ∀ spot s, Relation.ReflTransGen (Goes blocks) root spot →
        Safe blocks outcomes n spot s := by
      induction n with
      | zero => exact fun _ _ _ => trivial
      | succ n ih =>
        intro spot s path block target found chosen
        have jumps := outcomes.mem_jumps_of_chooses chosen
        refine ⟨fun falls stops => ?_, fun next arrives => ?_⟩
        · exact absurd ⟨block, target, found, jumps, falls, stops⟩ (kept spot path)
        · exact ih next _ (path.tail ⟨block, target, found, jumps, arrives⟩)
    exact fun s => safe root s .refl

end Structure

end SpirvMetal
