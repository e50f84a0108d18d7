import SpirvMetal.Proofs.Flow.Simulation
import SpirvMetal.Proofs.Flow.Written

/-!
Control flow is preserved: the text of a function enters the blocks that its graph enters, whatever
the outcomes of its branches are, unless a branch without a merge block goes to the end of a
selection or on.
-/

namespace SpirvMetal.Emit

open Structure Meaning

variable {c c' : Compiler}

/-- The text of a body is that of its listing, and the listing enters the blocks that the graph
enters, for all outcomes of the branches, just if no spot in reach loses a branch. For one sequence
of outcomes it does so just if no branch that is lost is taken. -/
theorem body_preserves_control {function : Id} {found : Function} {first : Block}
    {rest : List Block} (stored : c.program.getFunction function = .ok found)
    (starts : found.blocks = first :: rest) (run : Emit.body function c = .ok () c')
    (plain : ∀ block ∈ found.blocks, Plain block)
    (proper : ∀ spot block target,
      Relation.ReflTransGen (Goes found.blocks) (.root first.label) spot →
      findBlock found.blocks spot.label = .ok block → target ∈ block.jumps →
      Proper (spot.around block) target) :
    let listing := (structureBlocks c.program found.blocks first.label).listing
    RunsOn (Emit.listing found.blocks listing) c c' ∧
    (∀ n s, outcomes.exec listing .ends n s = outcomes.graph found.blocks n first.label s ↔
      Safe found.blocks outcomes n (.root first.label) s) ∧
    ((∀ n s, outcomes.exec listing .ends n s = outcomes.graph found.blocks n first.label s) ↔
      ∀ spot, Relation.ReflTransGen (Goes found.blocks) (.root first.label) spot →
        ¬ Loses found.blocks spot) := by
  obtain ⟨ok, runs⟩ := body_listed stored starts run
  have regular : Regular outcomes found.blocks
      (Relation.ReflTransGen (Goes found.blocks) (.root first.label)) :=
    { still := fun _ _ _ => rfl
      plain := fun label block stored => plain block (mem_of_findBlock stored)
      goes := fun spot next path goes => path.tail goes
      proper := proper }
  have simulates := (structureBlocks_structured ok).simulates regular
  have perRun : ∀ n s,
      outcomes.exec (structureBlocks c.program found.blocks first.label).listing .ends n s =
          outcomes.graph found.blocks n first.label s ↔
        Safe found.blocks outcomes n (.root first.label) s := by
    intro n s
    rw [← Meaning.exec_parts]
    exact simulates .ends n s (faithful_ends n) .refl
  refine ⟨runs, perRun, ?_⟩
  simp only [perRun]
  exact safe_iff

/-- A selection with an arm that goes to its end or to a block that stores. -/
def storeUnlessDone : Function where
  returnType := 1
  functionType := 4
  blocks := [
    { label := 10
      instructions :=
        [⟨.selectionMerge, [13, 0], [13]⟩, ⟨.branchConditional, [6, 11, 13], [6, 11, 13]⟩] },
    { label := 11, instructions := [⟨.branchConditional, [7, 13, 12], [7, 13, 12]⟩] },
    { label := 12, instructions := [⟨.store, [20, 3], [20, 3]⟩, ⟨.branch, [13], [13]⟩] },
    { label := 13, instructions := [⟨.ret, [], []⟩] }]

def leavingEarly : Compiler where
  program :=
    { records :=
        { bound := 30
          items := ⟨[
            (2, .type { base := .int, width := 32 }),
            (3, .constant { type := 2, value := .scalar 0, specialization := false }),
            (5, .type { base := .boolean, width := 1 }),
            (6, .constant { type := 5, value := .bool true, specialization := false }),
            (7, .constant { type := 5, value := .bool true, specialization := false }),
            (9, .function storeUnlessDone),
            (19, .type (ValueType.pointerTo { base := .int, width := 32 } 2 .output)),
            (20, .variable { type := 19, storage := .output })]⟩ } }
  options := {}
  plan := { entry := 8, model := .vertex }

theorem leavingEarly_stored : leavingEarly.program.getFunction 9 = .ok storeUnlessDone := rfl

theorem leavingEarly_hoists :
    leavingEarly.program.hoistedResults storeUnlessDone.blocks = .ok [] := by cbv

def leavingEarlySpots : List Spot :=
  [.root 10, { label := 11, constructs := [.selection 13] },
    { label := 12, constructs := [.selection 13] }, .root 13]

theorem leavingEarly_spots {spot : Spot}
    (path : Relation.ReflTransGen (Goes storeUnlessDone.blocks) (.root 10) spot) :
    spot ∈ leavingEarlySpots := by
  have closed : ∀ spot ∈ leavingEarlySpots, ∀ next ∈ spot.successors storeUnlessDone.blocks,
      next ∈ leavingEarlySpots := by decide
  induction path with
  | refl => decide
  | tail _ goes ih => exact closed _ ih _ (mem_successors.mpr goes)

theorem leavingEarly_proper (spot : Spot) (block : Block) (target : Id)
    (path : Relation.ReflTransGen (Goes storeUnlessDone.blocks) (.root 10) spot)
    (found : findBlock storeUnlessDone.blocks spot.label = .ok block)
    (jumps : target ∈ block.jumps) : Proper (spot.around block) target := by
  have proper : ∀ spot ∈ leavingEarlySpots, ∀ block ∈ storeUnlessDone.blocks,
      block.label = spot.label → ∀ target ∈ block.jumps, Proper (spot.around block) target := by
    decide
  exact proper spot (leavingEarly_spots path) block (mem_of_findBlock found)
    (label_of_findBlock found) target jumps

theorem leavingEarly_plain : ∀ block ∈ storeUnlessDone.blocks, Plain block := by
  simp [storeUnlessDone, Plain, Block.ending?, Block.terminator?, Ending.isPlain]

theorem leavingEarly_run : ∃ c', Emit.body 9 leavingEarly = .ok () c' := by
  rw [body_eq leavingEarly_stored rfl leavingEarly_hoists]
  exact ⟨_, rfl⟩

theorem body_preserves_control_leavingEarly : ∃ c', Emit.body 9 leavingEarly = .ok () c' ∧
      ¬ ∀ n s, outcomes.exec
          (structureBlocks leavingEarly.program storeUnlessDone.blocks 10).listing .ends n s =
        outcomes.graph storeUnlessDone.blocks n 10 s := by
  obtain ⟨c', run⟩ := leavingEarly_run
  have control := body_preserves_control leavingEarly_stored rfl run leavingEarly_plain
    leavingEarly_proper
  let lost : Spot := { label := 11, constructs := [.selection 13] }
  refine ⟨c', run, fun same => control.2.2.mp same lost ?_ ?_⟩
  · exact .single (mem_successors.mp (by decide))
  · exact ⟨_, 13, rfl, by decide, by decide, rfl⟩

/-- With both conditions true the graph goes to the end of the selection, but the text goes through
the block that stores. -/
theorem exit_falls_into_store :
    (∃ c', Emit.body 9 leavingEarly = .ok () c') ∧
      (outcomes.graph storeUnlessDone.blocks 5 10 (true, fun _ => true)).labels = [10, 11, 13] ∧
      (outcomes.exec (structureBlocks leavingEarly.program storeUnlessDone.blocks 10).listing .ends
        5 (true, fun _ => true)).labels = [10, 11, 12, 13] :=
  ⟨leavingEarly_run, by decide, by decide⟩

end SpirvMetal.Emit
