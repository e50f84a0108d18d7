import SpirvMetal.Proofs.Flow.Written

/-!
Barriers in the text of a function. A control barrier is left out after a memory barrier.
-/

namespace SpirvMetal

open Spirv (Op)

/-- The operation written last, if it was `start` ahead of the instructions. -/
def lastOp (start : Option Op) (insts : List Instruction) : Option Op :=
  (insts.getLast?.map (·.op)).or start

theorem lastOp_cons (start : Option Op) (inst : Instruction) (rest : List Instruction) :
    lastOp start (inst :: rest) = lastOp (some inst.op) rest := by
  simp only [lastOp, List.getLast?_cons]
  cases rest.getLast? <;> rfl

def bodyOf (blocks : List Block) (label : Id) : List Instruction :=
  ((blocks.find? (·.label = label)).map (·.body)).getD []

namespace Compiler

def AddsBarrier (before after : Compiler) : Prop :=
  ∃ text, "threadgroup_barrier(mem_flags::".toList <+: text.toList ∧
    after.pass.lines = before.pass.lines.push ⟨before.pass.depth, text⟩

def IsKernel (c : Compiler) : Prop := c.plan.model = .glCompute ∨ c.plan.model = .kernel

theorem Advances.isKernel {c d : Compiler} (advances : c.Advances d) (kernel : c.IsKernel) :
    d.IsKernel := by
  have same : d.plan.settled.model = c.plan.settled.model := congrArg Plan.model advances.plan
  exact kernel.imp same.trans same.trans

end Compiler

namespace Emit

variable {c c' d : Compiler} {u : Unit} {inst : Instruction}

theorem instruction_op (run : instruction inst c = .ok u c') :
    c'.pass.previousOp = some inst.op := by
  obtain ⟨_, _, _, noted⟩ := bind_ok.mp run
  rw [← modifyPass_ok.mp noted]

theorem InOrder.at_instruction {front back : List Instruction}
    (ordered : InOrder instruction (front ++ inst :: back) c c') :
    ∃ d d', c.Advances d ∧ d.pass.previousOp = lastOp c.pass.previousOp front ∧
      instruction inst d = .ok () d' ∧ d'.Advances c' := by
  induction front generalizing c with
  | nil =>
    obtain _ | ⟨advances, same, run, later⟩ := ordered
    exact ⟨_, _, advances, same, run, later.advances⟩
  | cons first front ih =>
    obtain _ | ⟨advances, _, run, later⟩ := ordered
    obtain ⟨d, d', between, before, written, last⟩ := ih later
    rw [lastOp_cons, ← instruction_op run]
    exact ⟨d, d', (advances.trans (Emit.advances run)).trans between, before, written, last⟩

theorem block_ordered {blocks : List Block} {label : Id}
    (run : listing blocks (.block label) c = .ok u c') :
    InOrder instruction (bodyOf blocks label) c c' := by
  simp only [listing] at run
  unfold bodyOf
  cases found : blocks.find? (·.label = label) with
  | none =>
    rw [found] at run
    obtain ⟨-, rfl⟩ := pure_ok.mp run
    exact .nil (.refl c) rfl
  | some block =>
    rw [found] at run
    obtain ⟨_, _, forgot, run⟩ := bind_ok.mp run
    exact (InOrder.of_step forgot).append (.of_forM run)

theorem body_ordered {function : Id} {found : Function} {first : Block} {rest : List Block}
    (stored : c.program.getFunction function = .ok found) (starts : found.blocks = first :: rest)
    (run : body function c = .ok u c') :
    InOrder instruction ((structureBlocks c.program found.blocks first.label).listing.labels.flatMap
      (bodyOf found.blocks)) c c' := by
  obtain ⟨-, start, earlier, same, listed⟩ := body_runs stored starts run
  exact (InOrder.nil earlier same).append
    ((listing_ordered listed).flatMap fun _ _ _ => block_ordered)

theorem barrier_adds {execution : Option Id} {memory semantics : Id} (kernel : c.IsKernel)
    (run : barrier execution memory semantics c = .ok u c') : c.AddsBarrier c' := by
  have writes : (c.plan.model = .glCompute || c.plan.model = .kernel) = true := by
    rcases kernel with model | model <;> simp [model]
  simp only [barrier, get_bind, writes, if_true] at run
  obtain ⟨word, _, run⟩ := lift_bind.mp run
  have adds {d : Compiler} {text : String}
      (spelled : ∃ rest, "threadgroup_barrier(mem_flags::" ++ rest = text)
      (run : statement text d = .ok u c') : d.AddsBarrier c' := by
    obtain ⟨rest, rfl⟩ := spelled
    cases run
    exact ⟨_, by rw [String.toList_append]; exact List.prefix_append .., rfl⟩
  split at run
  · split at run <;> obtain ⟨_, _, reading, run⟩ := bind_ok.mp run <;>
      obtain ⟨_, _, run⟩ := lift_bind.mp run
    · obtain ⟨-, rfl⟩ := lift_ok.mp reading
      exact adds ⟨_, by simp only [toString, String.append_assoc]; rfl⟩ run
    · obtain ⟨-, rfl⟩ := pure_ok.mp reading
      exact adds ⟨_, by simp only [toString, String.append_assoc]; rfl⟩ run
  · exact adds ⟨_, by simp only [toString, String.append_assoc]; rfl⟩ run

/-- A memory barrier is always written, a control barrier unless a memory barrier came last. -/
theorem instruction_barrier (kernel : c.IsKernel) (run : instruction inst c = .ok u c') :
    (inst.op = .memoryBarrier → c.AddsBarrier c') ∧
    (inst.op = .controlBarrier →
      (c.pass.previousOp = some .memoryBarrier → c'.pass.lines = c.pass.lines) ∧
      (c.pass.previousOp ≠ some .memoryBarrier → c.AddsBarrier c')) := by
  obtain ⟨_, middle, lowered, noted⟩ := bind_ok.mp run
  cases noted
  refine ⟨fun memory => ?_, fun control => ?_⟩
  · simp only [lower, memory, memoryBarrier] at lowered
    obtain ⟨_, _, lowered⟩ := need_bind.mp lowered
    obtain ⟨_, _, lowered⟩ := word_bind.mp lowered
    obtain ⟨_, _, lowered⟩ := word_bind.mp lowered
    exact (barrier_adds kernel lowered : c.AddsBarrier middle)
  · simp only [lower, control, controlBarrier] at lowered
    obtain ⟨_, _, lowered⟩ := need_bind.mp lowered
    replace lowered := get_bind.mp lowered
    split at lowered
    · rename_i other
      obtain ⟨_, _, lowered⟩ := word_bind.mp lowered
      obtain ⟨_, _, lowered⟩ := word_bind.mp lowered
      obtain ⟨_, _, lowered⟩ := word_bind.mp lowered
      exact ⟨fun last => absurd last other,
        fun _ => (barrier_adds kernel lowered : c.AddsBarrier middle)⟩
    · rename_i last
      cases lowered
      exact ⟨fun _ => rfl, fun other => absurd other last⟩

/-- An instruction in one of the bodies, with the bodies before its own and what stands ahead of it
there. -/
def Stands (bodies before : List (List Instruction)) (ahead : List Instruction)
    (inst : Instruction) : Prop :=
  ∃ behind after, bodies = before ++ (ahead ++ inst :: behind) :: after

/-- Every memory barrier of a kernel is written, and every control barrier but those behind a memory
barrier in the text. The memory barrier stands in the same block, so that it runs whenever the
control barrier would, exactly if no block that begins with a control barrier is written behind a
memory barrier. -/
theorem control_barriers_kept_iff {function : Id} {found : Function} {first : Block}
    {rest : List Block} (stored : c.program.getFunction function = .ok found)
    (starts : found.blocks = first :: rest) (kernel : c.IsKernel)
    (run : body function c = .ok () c') :
    let bodies := (structureBlocks c.program found.blocks first.label).listing.labels.map
      (bodyOf found.blocks)
    let dropped (before : List (List Instruction)) (ahead : List Instruction) : Prop :=
      lastOp c.pass.previousOp (before.flatten ++ ahead) = some .memoryBarrier
    (∀ before ahead inst, Stands bodies before ahead inst →
      ∃ d d', c.Advances d ∧ instruction inst d = .ok () d' ∧ d'.Advances c' ∧
        (inst.op = .memoryBarrier → d.AddsBarrier d') ∧
        (inst.op = .controlBarrier → (dropped before ahead → d'.pass.lines = d.pass.lines) ∧
          (¬ dropped before ahead → d.AddsBarrier d'))) ∧
    ((∀ before ahead inst, Stands bodies before ahead inst → inst.op = .controlBarrier →
        dropped before ahead → ahead.getLast?.map (·.op) = some .memoryBarrier) ↔
      ∀ before inst, Stands bodies before [] inst → inst.op = .controlBarrier →
        ¬ dropped before []) := by
  intro bodies dropped
  refine ⟨fun before ahead inst stands => ?_, fun each before inst stands control lost => ?_,
    fun begins before ahead inst stands control lost => ?_⟩
  · obtain ⟨behind, after, split⟩ := stands
    have ordered := body_ordered stored starts run
    have parts : bodies.flatten = (before.flatten ++ ahead) ++ inst :: (behind ++ after.flatten) := by
      rw [split]
      simp
    rw [List.flatMap_def, show List.flatten _ = _ from parts] at ordered
    obtain ⟨d, d', earlier, last, written, later⟩ := ordered.at_instruction
    obtain ⟨memory, control⟩ := instruction_barrier (earlier.isKernel kernel) written
    rw [last] at control
    exact ⟨d, d', earlier, written, later, memory, control⟩
  · exact absurd (each before [] inst stands control lost) (by simp)
  · obtain rfl | ⟨ahead, last, rfl⟩ := List.eq_nil_or_concat ahead
    · exact absurd lost (begins before inst stands control)
    · simpa [dropped, lastOp] using lost

/-- One arm ends with a memory barrier, and what follows begins with a control barrier. -/
def barrierAtMerge : Function where
  returnType := 1
  functionType := 4
  blocks := [
    { label := 10
      instructions := [
        ⟨.selectionMerge, [12, 0], [12]⟩, ⟨.branchConditional, [3, 11, 12], [3, 11, 12]⟩] },
    { label := 11, instructions := [⟨.memoryBarrier, [5, 6], [5, 6]⟩, ⟨.branch, [12], [12]⟩] },
    { label := 12, instructions := [⟨.controlBarrier, [5, 5, 6], [5, 5, 6]⟩, ⟨.ret, [], []⟩] }]

def merging : Compiler where
  program :=
    { records :=
        { bound := 30
          items := ⟨[
            (2, .type { base := .boolean, width := 1 }),
            (3, .constant { type := 2, value := .scalar 1, specialization := false }),
            (4, .type { base := .uint, width := 32 }),
            (5, .constant { type := 4, value := .scalar 2, specialization := false }),
            (6, .constant { type := 4, value := .scalar 264, specialization := false }),
            (9, .function barrierAtMerge)]⟩ } }
  options := {}
  plan := { entry := 8, model := .glCompute }

theorem merging_stored : merging.program.getFunction 9 = .ok barrierAtMerge := rfl

theorem merging_hoists : merging.program.hoistedResults barrierAtMerge.blocks = .ok [] := by cbv

theorem merging_listed :
    (structureBlocks merging.program barrierAtMerge.blocks 10).listing.labels = [10, 11, 12] := by
  decide

theorem control_barriers_kept_iff_merging : ∃ c' d d', body 9 merging = .ok () c' ∧
      instruction ⟨.controlBarrier, [5, 5, 6], [5, 5, 6]⟩ d = .ok () d' ∧ d'.Advances c' ∧
      d'.pass.lines = d.pass.lines := by
  obtain ⟨c', run⟩ : ∃ c', body 9 merging = .ok () c' := by
    rw [body_eq merging_stored rfl merging_hoists]
    exact ⟨_, rfl⟩
  have kept := (control_barriers_kept_iff merging_stored rfl (.inl rfl) run).1
  rw [merging_listed] at kept
  obtain ⟨d, d', -, written, later, -, control⟩ := kept [[], [⟨.memoryBarrier, [5, 6], [5, 6]⟩]] []
    ⟨.controlBarrier, [5, 5, 6], [5, 5, 6]⟩ ⟨[], [], rfl⟩
  exact ⟨c', d, d', run, written, later, (control rfl).1 rfl⟩

/-- Control can go around the memory barrier, but the control barrier behind it is not in the text. -/
theorem merge_barrier_lost : ∃ c', body 9 merging = .ok () c' ∧
      Structure.Passes barrierAtMerge.blocks 10 12 ∧ bodyOf barrierAtMerge.blocks 10 = [] ∧
      bodyOf barrierAtMerge.blocks 12 = [⟨.controlBarrier, [5, 5, 6], [5, 5, 6]⟩] ∧
      c'.pass.lines.toList.map (·.text) =
        ["if (true)", "\x7b", "threadgroup_barrier(mem_flags::mem_threadgroup);", "\x7d"] := by
  rw [body_eq merging_stored rfl merging_hoists]
  exact ⟨_, rfl, ⟨_, rfl, .inl (by decide)⟩, rfl, rfl, rfl⟩

end Emit

end SpirvMetal
