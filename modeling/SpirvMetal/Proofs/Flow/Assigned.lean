import Mathlib.Data.Nat.Basic
import SpirvMetal.Proofs.Flow.Moves
import SpirvMetal.Proofs.Flow.Written

/-!
What phis hold. The assignments for an edge stand one after the other, so the values are right just
if no assignment reads what an earlier one changed.
-/

namespace SpirvMetal

open List

variable {σ ν : Type}

/-- One block is entered right after the other, in these states. -/
inductive Run.Follows : Run σ → Id → σ → Id → σ → Prop
  | here {source start target begins rest} :
      Follows (.enter source start (.enter target begins rest)) source start target begins
  | later {label s rest source start target begins}
      (follows : Follows rest source start target begins) :
      Follows (.enter label s rest) source start target begins

/-- Variables in the states of a meaning. The text of a value names a variable: its own, or that of
the value that it copies. -/
structure Storage (meaning : Meaning σ) (ν : Type) where
  names : Id → Id
  read : Id → σ → ν
  assigned : ∀ phi value s id, read id (meaning.assign phi value s) =
    if id = phi then read (names value) s else read id s
  free : ∀ contents : Id → ν, ∃ s, ∀ id, read id s = contents id

theorem Block.mem_movesFrom {block : Block} {source : Id} {moves : List (Id × Id)} {phis : List Phi}
    (moved : block.movesFrom source = .ok moves) (listed : block.phis = .ok phis) (move : Id × Id) :
    move ∈ moves ↔ ∃ phi ∈ phis, phi.result = move.1 ∧ move.2 ∈ phi.valuesFrom source := by
  obtain ⟨result, value⟩ := move
  simp only [Block.movesFrom, listed, bind, Except.bind, pure, Except.pure,
    Except.ok.injEq] at moved
  rw [← moved]
  simp only [mem_flatMap, mem_map, Prod.mk.injEq]
  constructor
  · rintro ⟨phi, member, _, operand, rfl, rfl⟩
    exact ⟨phi, member, rfl, operand⟩
  · rintro ⟨phi, member, rfl, operand⟩
    exact ⟨phi, member, value, operand, rfl, rfl⟩

namespace Storage

variable {meaning : Meaning σ} (storage : Storage meaning ν)

def value (id : Id) (s : σ) : ν := storage.read (storage.names id) s

/-- Every phi of the block holds what its operand for this edge had as a value. -/
def Keeps (block : Block) (source : Id) (ends begins : σ) : Prop :=
  ∀ phis, block.phis = .ok phis → ∀ phi ∈ phis, ∀ operand ∈ phi.valuesFrom source,
    storage.read phi.result begins = storage.value operand ends

/-- No assignment reads a phi that an earlier one changed, and one phi is not given two values. -/
def Undisturbed (moves : List (Id × Id)) : Prop :=
  moves.Pairwise fun earlier later =>
    (later.1 = earlier.1 → storage.names later.2 = storage.names earlier.2) ∧
      (storage.names later.2 = earlier.1 → storage.names earlier.2 = earlier.1)

variable {storage} {moves : List (Id × Id)} {block : Block} {source : Id} {ends begins : σ}

theorem keeps_iff (moved : block.movesFrom source = .ok moves) :
    storage.Keeps block source ends begins ↔
      ∀ move ∈ moves, storage.read move.1 begins = storage.value move.2 ends := by
  cases listed : block.phis with
  | error fault => simp [Block.movesFrom, listed, bind, Except.bind] at moved
  | ok phis =>
    have member := Block.mem_movesFrom moved listed
    constructor
    · intro keeps move moves
      obtain ⟨phi, found, same, operand⟩ := (member move).mp moves
      rw [← same]
      exact keeps phis listed phi found move.2 operand
    · intro each others same phi found operand sources
      rw [listed] at same
      cases same
      exact each (phi.result, operand) ((member _).mpr ⟨phi, found, rfl, sources⟩)

theorem read_move_of_notMem {id : Id} (other : id ∉ moves.map Prod.fst) (s : σ) :
    storage.read id (meaning.move moves s) = storage.read id s := by
  induction moves generalizing s with
  | nil => rfl
  | cons first rest ih =>
    simp only [map_cons, mem_cons, not_or] at other
    rw [Meaning.move_cons, ih other.2, storage.assigned, if_neg other.1]

theorem read_move (undisturbed : storage.Undisturbed moves) (s : σ) :
    ∀ move ∈ moves, storage.read move.1 (meaning.move moves s) = storage.value move.2 s := by
  induction moves generalizing s with
  | nil => nofun
  | cons first rest ih =>
    obtain ⟨laterKept, restUndisturbed⟩ := pairwise_cons.mp undisturbed
    have restMoved := ih restUndisturbed (meaning.assign first.1 first.2 s)
    -- The later assignments still find their values as they were at first.
    have unchanged : ∀ later ∈ rest, storage.value later.2 (meaning.assign first.1 first.2 s) =
          storage.value later.2 s := by
      intro later member
      rw [value, storage.assigned]
      split
      · rename_i reads
        rw [value, (laterKept later member).2 reads, reads]
      · rfl
    intro move member
    rw [Meaning.move_cons]
    rcases mem_cons.mp member with rfl | member
    · by_cases again : move.1 ∈ rest.map Prod.fst
      · obtain ⟨later, found, same⟩ := mem_map.mp again
        have final := restMoved later found
        rw [same, unchanged later found, value, (laterKept later found).1 same] at final
        exact final
      · rw [read_move_of_notMem again, storage.assigned, if_pos rfl, value]
    · rw [restMoved move member, unchanged move member]

/-- Assignments that read what an earlier one changed give a wrong value in some state. -/
theorem undisturbed_of_read_move [Nontrivial ν] (distinct : (moves.map Prod.fst).Nodup)
    (moved : ∀ s, ∀ move ∈ moves,
      storage.read move.1 (meaning.move moves s) = storage.value move.2 s) :
    storage.Undisturbed moves := by
  refine pairwise_iff_forall_sublist.mpr fun {earlier later} both => ?_
  obtain ⟨head, tail, rfl, inHead, inTail⟩ := cons_sublist_iff.mp both
  obtain ⟨middle, back, rfl⟩ := append_of_mem (singleton_sublist.mp inTail)
  rw [← append_assoc] at moved distinct
  have inFront : earlier ∈ head ++ middle := mem_append_left _ inHead
  generalize head ++ middle = front at moved distinct inFront
  rw [map_append, map_cons, nodup_append] at distinct
  obtain ⟨_, laterDistinct, apart⟩ := distinct
  have earlierApart : earlier.1 ∉ later.1 :: back.map Prod.fst := fun member =>
    apart _ (mem_map_of_mem inFront) _ member rfl
  refine ⟨fun same => absurd (same ▸ mem_cons_self) earlierApart, fun reads => ?_⟩
  -- The later phi gets what the earlier one holds by then, which is no longer what it held.
  have overwritten (s : σ) : storage.value earlier.2 s = storage.read earlier.1 s := by
    have earlierMoved := moved s earlier (mem_append_left _ inFront)
    have laterMoved := moved s later (mem_append_right _ mem_cons_self)
    rw [Meaning.move_append, read_move_of_notMem earlierApart] at earlierMoved
    rw [Meaning.move_append, Meaning.move_cons,
      read_move_of_notMem (nodup_cons.mp laterDistinct).1, storage.assigned, if_pos rfl,
      reads, earlierMoved, value, value, reads] at laterMoved
    exact laterMoved
  obtain ⟨a, b, differ⟩ := exists_pair_ne ν
  obtain ⟨s, contents⟩ := storage.free fun id => if id = earlier.1 then a else b
  have same := overwritten s
  rw [value, contents, contents, if_pos rfl] at same
  by_contra other
  rw [if_neg other] at same
  exact differ same.symm

/-- One phi after the other is given its value as if all were at once, just if no assignment is
disturbed by an earlier one. -/
theorem keeps_move_iff [Nontrivial ν] (moved : block.movesFrom source = .ok moves)
    (distinct : (moves.map Prod.fst).Nodup) :
    (∀ s, storage.Keeps block source s (meaning.move moves s)) ↔ storage.Undisturbed moves := by
  simp only [keeps_iff moved]
  exact ⟨undisturbed_of_read_move distinct, read_move⟩

end Storage

namespace Structure

variable {program : Program} {blocks : List Block} {meaning : Meaning σ} {run : Run σ}

variable (program blocks meaning run) in
/-- In the run, control goes from the end of one block to the start of the other, as the first one
tells it to. Arms of switches other than the merge block are not entered. -/
structure Takes (source target : Block) (ends begins : σ) : Prop where
  found : findBlock blocks source.label = .ok source
  arrives : findBlock blocks target.label = .ok target
  follows : ∃ start, run.Follows source.label start target.label begins ∧
    ends = meaning.body source.label start
  selected : meaning.selects program source ends = some target.label
  passes : PassesTo source target.label

theorem HandsOver.at {source target : Id} {start begins : σ}
    (handsOver : HandsOver program blocks meaning run)
    (follows : run.Follows source start target begins) {block : Block}
    (found : findBlock blocks source = .ok block) :
    ∃ rest, Hands program blocks meaning block (meaning.body source start)
      (.enter target begins rest) := by
  induction follows with
  | here => exact ⟨_, handsOver.1 block found⟩
  | later _ ih => exact ih handsOver.2 found

theorem HandsOver.takes {source target : Block} {ends begins : σ}
    (handsOver : HandsOver program blocks meaning run)
    (takes : Takes program blocks meaning run source target ends begins) :
    ∃ edgeMoves, target.movesFrom source.label = .ok edgeMoves ∧
      (¬ meaning.Skips source ends → begins = meaning.move edgeMoves ends) ∧
      (meaning.Skips source ends → begins = ends ∨
          ClosesLoop blocks source.label ∧ begins = meaning.move edgeMoves ends) := by
  obtain ⟨start, follows, rfl⟩ := takes.follows
  obtain ⟨rest, hands⟩ := handsOver.at follows takes.found
  obtain ⟨edgeMoves, moved, made⟩ := hands _ _ _ rfl takes.selected takes.passes
  simp only [moves, takes.arrives] at moved
  exact ⟨edgeMoves, moved, made⟩

end Structure

namespace Emit

open Structure

variable {c c' : Compiler}

/-- The phis of a body, for every run of its text. Every edge that is taken makes its assignments
once and in order, unless both arms of a selection are its merge block and the condition fails. Then
each phi holds the value of its operand, provided that no assignment reads a phi that an earlier one
changed; and if one does, some state gets a wrong value. -/
theorem body_keeps_phis {function : Id} {found : Function} {first : Block} {rest : List Block}
    [Nontrivial ν] (stored : c.program.getFunction function = .ok found)
    (starts : found.blocks = first :: rest) (run : Emit.body function c = .ok () c')
    (meaning : Meaning σ) (storage : Storage meaning ν) :
    let listing := (structureBlocks c.program found.blocks first.label).listing
    RunsOn (Emit.listing found.blocks listing) c c' ∧
    (∀ n s source target ends begins,
      Takes c.program found.blocks meaning (meaning.exec listing .ends n s) source target ends
        begins →
      ∃ edgeMoves, target.movesFrom source.label = .ok edgeMoves ∧
        (¬ meaning.Skips source ends → begins = meaning.move edgeMoves ends ∧
          (storage.Undisturbed edgeMoves → storage.Keeps target source.label ends begins)) ∧
        (meaning.Skips source ends → begins = ends ∨
          ClosesLoop found.blocks source.label ∧ begins = meaning.move edgeMoves ends)) ∧
    (∀ source target edgeMoves, target ∈ found.blocks →
      target.movesFrom source = .ok edgeMoves → (edgeMoves.map Prod.fst).Nodup →
      ((∀ s, storage.Keeps target source s (meaning.move edgeMoves s)) ↔
        storage.Undisturbed edgeMoves)) := by
  obtain ⟨ok, runs⟩ := body_listed stored starts run
  have structured := structureBlocks_structured ok
  refine ⟨runs, fun n s source target ends begins takes => ?_,
    fun _ _ _ _ => Storage.keeps_move_iff⟩
  obtain ⟨edgeMoves, moved, made, skipped⟩ := (handsOver_listed structured n s).takes takes
  refine ⟨edgeMoves, moved, fun unskipped => ⟨made unskipped, fun undisturbed => ?_⟩, skipped⟩
  rw [made unskipped, Storage.keeps_iff moved]
  exact Storage.read_move undisturbed ends

/-- States are the values of ids; ids that are 1 hold as conditions. -/
def registers : Meaning (Id → Nat) where
  body _ s := s
  holds condition s := s condition == 1
  literal _ _ := ""
  assign phi value s := Function.update s phi (s value)

def registerStorage : Storage registers Nat where
  names := id
  read id s := s id
  assigned phi value s id := Function.update_apply s phi (s value) id
  free contents := ⟨contents, fun _ => rfl⟩

def swapSelection : Block where
  label := 10
  instructions :=
    [⟨.selectionMerge, [11, 0], [11]⟩, ⟨.branchConditional, [6, 11, 11], [6, 11, 11]⟩]

def swapHeader : Block where
  label := 11
  instructions := [⟨.phi, [2, 21, 3, 10, 22, 13], [3, 10, 22, 13]⟩,
    ⟨.phi, [2, 22, 4, 10, 21, 13], [4, 10, 21, 13]⟩,
    ⟨.loopMerge, [14, 13, 0], [14, 13]⟩, ⟨.branchConditional, [7, 13, 14], [7, 13, 14]⟩]

def swapEnd : Block where
  label := 13
  instructions := [⟨.branch, [11], [11]⟩]

/-- A loop that swaps two values, behind a selection without arms. -/
def swapInLoop : Function where
  returnType := 1
  functionType := 5
  blocks := [swapSelection, swapHeader, swapEnd, { label := 14, instructions := [⟨.ret, [], []⟩] }]

def swapping : Compiler where
  program :=
    { records :=
        { bound := 30
          items := ⟨[
            (2, .type { base := .int, width := 32 }),
            (3, .constant { type := 2, value := .scalar 0, specialization := false }),
            (4, .constant { type := 2, value := .scalar 1, specialization := false }),
            (5, .type { base := .boolean, width := 1 }),
            (6, .constant { type := 5, value := .bool true, specialization := false }),
            (7, .constant { type := 5, value := .bool true, specialization := false }),
            (9, .function swapInLoop)]⟩ }
      resultTypes := ⟨[(21, 2), (22, 2)]⟩ }
  options := {}
  plan := { entry := 8, model := .vertex }

theorem swapping_stored : swapping.program.getFunction 9 = .ok swapInLoop := rfl

theorem swapping_hoists : swapping.program.hoistedResults swapInLoop.blocks = .ok [21, 22] := by cbv

theorem swapping_run : ∃ c', Emit.body 9 swapping = .ok () c' := by
  rw [body_eq swapping_stored rfl swapping_hoists]
  exact ⟨_, rfl⟩

theorem swapping_moves : swapHeader.movesFrom 13 = .ok [(21, 22), (22, 21)] := rfl

theorem body_keeps_phis_swapping : ∃ c', Emit.body 9 swapping = .ok () c' ∧
      ¬ ∀ s, registerStorage.Keeps swapHeader 13 s (registers.move [(21, 22), (22, 21)] s) := by
  obtain ⟨c', run⟩ := swapping_run
  have phis := body_keeps_phis swapping_stored rfl run registers registerStorage
  refine ⟨c', run, fun keeps => ?_⟩
  have undisturbed :=
    (phis.2.2 13 swapHeader _ (by simp [swapInLoop]) swapping_moves (by decide)).mp keeps
  simp [Storage.Undisturbed, registerStorage] at undisturbed

def swappingStart (id : Id) : Nat := if id = 6 then 0 else if id = 7 then 1 else id

def swappingRun : Run (Id → Nat) :=
  let listing := (structureBlocks swapping.program swapInLoop.blocks 10).listing
  registers.exec listing .ends 4 swappingStart

theorem swappingRun_enters :
    swappingRun = .enter 10 swappingStart (.enter 11 swappingStart (.enter 13 swappingStart
      (.enter 11 (registers.move [(21, 22), (22, 21)] swappingStart) .cut))) := rfl

/-- The loop is entered without values for its phis, and in the next iteration both hold the value
of the second. -/
theorem phis_skipped_then_overwritten :
    let next := registers.move [(21, 22), (22, 21)] swappingStart
    (∃ c', Emit.body 9 swapping = .ok () c') ∧
      (Takes swapping.program swapInLoop.blocks registers swappingRun swapSelection swapHeader
          swappingStart swappingStart ∧
        ¬ registerStorage.Keeps swapHeader 10 swappingStart swappingStart) ∧
      (Takes swapping.program swapInLoop.blocks registers swappingRun swapEnd swapHeader
          swappingStart next ∧
        ¬ registerStorage.Keeps swapHeader 13 swappingStart next) := by
  refine ⟨swapping_run, ⟨⟨rfl, rfl, ⟨swappingStart, ?_, rfl⟩, rfl, .inl (by decide)⟩, ?_⟩,
    ⟨rfl, rfl, ⟨swappingStart, ?_, rfl⟩, rfl, .inl (by decide)⟩, ?_⟩
  · rw [swappingRun_enters]
    exact .here
  · rw [Storage.keeps_iff rfl]
    decide
  · rw [swappingRun_enters]
    exact .later (.later .here)
  · rw [Storage.keeps_iff swapping_moves]
    decide

end Emit

end SpirvMetal
