import SpirvMetal.Proofs.Flow.Coverage

/-!
What is listed is written: the instructions of every listed block are part of the text of a body.
-/

namespace SpirvMetal

/-- What counts as the instruction that was written last is still the same. -/
def Compiler.SameOp (before after : Compiler) : Prop :=
  after.pass.previousOp = before.pass.previousOp

instance : AllowsText Compiler.SameOp where
  refl _ := rfl
  trans _ _ _ first second := second.trans first
  text adds := adds.previousOp

instance : AllowsSlots Compiler.SameOp where
  slots adds := adds.previousOp
  marks _ := rfl

namespace Emit

open Compiler (SameOp)
open Structure

variable {part : Emit Unit} {block : Block} {c c' : Compiler} {u : Unit}
variable {rest : List Block} {function : Id} {found : Function} {first : Block}

/-- On the way from one state to the other the part is run, and what it writes stays. -/
def RunsOn (part : Emit Unit) (c c' : Compiler) : Prop :=
  ∃ before after, c.Advances before ∧ part before = .ok () after ∧ after.Advances c'

theorem RunsOn.within {start stop : Compiler} (runs : RunsOn part start stop)
    (earlier : c.Advances start) (later : stop.Advances c') : RunsOn part c c' := by
  obtain ⟨before, after, first, run, last⟩ := runs
  exact ⟨before, after, earlier.trans first, run, last.trans later⟩

theorem advances {α : Type} {step : Emit α} [Advancing step] {a : α} (run : step c = .ok a c') :
    c.Advances c' := Keeps.keeps run

theorem RunsOn.inside {inner : Emit Unit} (runs : RunsOn inner c c')
    (each : ∀ start stop, inner start = .ok () stop → RunsOn part start stop) :
    RunsOn part c c' := by
  obtain ⟨before, after, first, run, last⟩ := runs
  exact (each before after run).within first last

/-- From one state to the other the parts are run in this order, and between them no instruction. -/
inductive InOrder {α : Type} (part : α → Emit Unit) : List α → Compiler → Compiler → Prop
  | nil {start stop : Compiler} (advances : start.Advances stop) (same : start.SameOp stop) :
      InOrder part [] start stop
  | cons {a : α} {rest : List α} {start before after stop : Compiler}
      (advances : start.Advances before) (same : start.SameOp before)
      (run : part a before = .ok () after) (later : InOrder part rest after stop) :
      InOrder part (a :: rest) start stop

namespace InOrder

variable {α β : Type} {parts : α → Emit Unit} {front back : List α} {a : α} {d : Compiler}

theorem append (first : InOrder parts front c d) (second : InOrder parts back d c') :
    InOrder parts (front ++ back) c c' := by
  induction first with
  | nil advances same =>
    cases second with
    | nil advances' same' => exact .nil (advances.trans advances') (same'.trans same)
    | cons advances' same' run rest =>
      exact .cons (advances.trans advances') (same'.trans same) run rest
  | cons advances same run _ ih => exact .cons advances same run (ih second)

theorem single (run : parts a c = .ok () c') : InOrder parts [a] c c' :=
  .cons (.refl c) rfl run (.nil (.refl c') rfl)

theorem of_step {step : Emit β} {b : β} [Advancing step] [Always SameOp step]
    (run : step c = .ok b c') : InOrder parts [] c c' := .nil (advances run) (Keeps.keeps run)

theorem of_scope (inside : ∀ {c c' u}, part c = .ok u c' → InOrder parts front c c')
    (run : scope part c = .ok u c') : InOrder parts front c c' := by
  simp only [scope, bind_ok] at run
  obtain ⟨_, _, opened, _, _, run, closed⟩ := run
  have last := (inside run).append (of_step closed)
  rw [List.append_nil] at last
  exact (of_step opened).append last

theorem of_forM (run : front.forM parts c = .ok u c') : InOrder parts front c c' := by
  induction front generalizing c with
  | nil =>
    obtain ⟨-, rfl⟩ := pure_ok.mp run
    exact .nil (.refl c) rfl
  | cons a rest ih =>
    obtain ⟨_, _, first, run⟩ := bind_ok.mp run
    exact .cons (.refl c) rfl first (ih run)

theorem flatMap {inner : β → Emit Unit} {within : α → List β} (ordered : InOrder parts front c c')
    (each : ∀ a c c', parts a c = .ok () c' → InOrder inner (within a) c c') :
    InOrder inner (front.flatMap within) c c' := by
  induction ordered with
  | nil advances same => exact .nil advances same
  | cons advances same run _ ih =>
    exact (nil advances same).append ((each _ _ _ run).append ih)

theorem advances [∀ a, Advancing (parts a)] (ordered : InOrder parts front c c') :
    c.Advances c' := by
  induction ordered with
  | nil advances => exact advances
  | cons advances _ run _ ih => exact (advances.trans (Emit.advances run)).trans ih

theorem runsOn [∀ a, Advancing (parts a)] (ordered : InOrder parts front c c')
    (member : a ∈ front) : RunsOn (parts a) c c' := by
  induction ordered with
  | nil => cases member
  | cons advances _ run later ih =>
    rcases List.mem_cons.mp member with rfl | member
    · exact ⟨_, _, advances, run, later.advances⟩
    · exact (ih member).within (advances.trans (Emit.advances run)) (.refl _)

end InOrder

theorem listing_ordered {blocks : List Block} {listing : Listing}
    (run : Emit.listing blocks listing c = .ok u c') :
    InOrder (fun label => Emit.listing blocks (.block label)) listing.labels c c' := by
  induction listing generalizing c c' u with
    simp only [Emit.listing, Listing.labels] at run ⊢
  | seq first second firstIh secondIh =>
    obtain ⟨_, _, firstRun, secondRun⟩ := bind_ok.mp run
    exact (firstIh firstRun).append (secondIh secondRun)
  | block label => exact .single run
  | «when» id expected arm ih =>
    obtain ⟨_, _, headRun, run⟩ := bind_ok.mp run
    exact (InOrder.of_step headRun).append (.of_scope ih run)
  | branch id expected arm other armIh otherIh =>
    obtain ⟨_, _, headRun, run⟩ := bind_ok.mp run
    obtain ⟨_, _, armRun, run⟩ := bind_ok.mp run
    obtain ⟨_, _, elseRun, otherRun⟩ := bind_ok.mp run
    exact ((InOrder.of_step headRun).append (.of_scope armIh armRun)).append
      ((InOrder.of_step elseRun).append (.of_scope otherIh otherRun))
  | loop body ih =>
    obtain ⟨_, _, headRun, run⟩ := bind_ok.mp run
    exact (InOrder.of_step headRun).append (.of_scope ih run)
  | switch selector arms ih =>
    obtain ⟨_, _, textRun, run⟩ := bind_ok.mp run
    obtain ⟨_, _, headRun, run⟩ := bind_ok.mp run
    exact (InOrder.of_step textRun).append ((InOrder.of_step headRun).append (.of_scope ih run))
  | arm literals isDefault body ih =>
    obtain ⟨_, _, labelsRun, run⟩ := bind_ok.mp run
    refine (InOrder.of_step labelsRun).append ?_
    split at run
    · obtain ⟨_, _, defaultRun, run⟩ := bind_ok.mp run
      exact (InOrder.of_step defaultRun).append (.of_scope ih run)
    · exact .of_scope ih run
  | _ => exact .of_step run

theorem listing_writes {blocks : List Block} {listing : Listing} {label : Id}
    (run : Emit.listing blocks listing c = .ok u c') (listed : label ∈ listing.labels)
    (found : findBlock blocks label = .ok block) : RunsOn (Emit.block block) c c' := by
  have runs := (listing_ordered run).runsOn listed
  unfold findBlock at found
  split at found
  · rename_i stored
    cases found
    simp only [Emit.listing, stored] at runs
    exact runs
  · cases found

theorem body_runs (stored : c.program.getFunction function = .ok found)
    (starts : found.blocks = first :: rest) (run : Emit.body function c = .ok u c') :
    (structureBlocks c.program found.blocks first.label).result = .ok () ∧
      ∃ start, c.Advances start ∧ c.SameOp start ∧ Emit.listing found.blocks
        (structureBlocks c.program found.blocks first.label).listing start = .ok () c' := by
  simp only [Emit.body, bind_ok, get_ok, lift_ok] at run
  obtain ⟨_, _, ⟨rfl, rfl⟩, _, _, ⟨same, rfl⟩, run⟩ := run
  rw [stored] at same
  cases same
  rw [starts] at run ⊢
  obtain ⟨hoisted, _, lifted, run⟩ := bind_ok.mp run
  obtain ⟨_, hoistedAt, hoistRun, run⟩ := bind_ok.mp run
  obtain ⟨_, start, markRun, run⟩ := bind_ok.mp run
  obtain ⟨_, stop, listingRun, run⟩ := bind_ok.mp run
  obtain ⟨listed, rfl⟩ := lift_ok.mp run
  have earlier : c.Advances start :=
    ((advances lifted).trans (advances hoistRun)).trans (advances markRun)
  have same : c.SameOp start :=
    ((Keeps.keeps markRun : SameOp ..).trans (Keeps.keeps hoistRun : SameOp ..)).trans
      (Keeps.keeps lifted : SameOp ..)
  exact ⟨listed, start, earlier, same, listingRun⟩

theorem body_listed (stored : c.program.getFunction function = .ok found)
    (starts : found.blocks = first :: rest) (run : Emit.body function c = .ok u c') :
    (structureBlocks c.program found.blocks first.label).result = .ok () ∧
      RunsOn (Emit.listing found.blocks
        (structureBlocks c.program found.blocks first.label).listing) c c' := by
  obtain ⟨ok, start, earlier, _, listed⟩ := body_runs stored starts run
  exact ⟨ok, start, c', earlier, listed, .refl c'⟩

theorem body_eq {hoisted : List Id} (stored : c.program.getFunction function = .ok found)
    (starts : found.blocks = first :: rest)
    (hoists : c.program.hoistedResults found.blocks = .ok hoisted) :
    Emit.body function c = (do
      hoisted.forM hoist
      modifyPass ({ · with hoisted })
      listing found.blocks (structureBlocks c.program found.blocks first.label).listing
      (structureBlocks c.program found.blocks first.label).result : Emit Unit) c := by
  obtain ⟨_, _, _, _, blocks, _, _⟩ := found
  cases starts
  simp only [Emit.body, bind, EStateM.bind, get, getThe, MonadStateOf.get, run_get, liftM,
    monadLift, MonadLift.monadLift, stored, hoists]

/-- The blocks of a function that reach its text. All that is listed is written; control that passes
switches stays in what is listed; and all that is listed is named by listed blocks. So a block that
control can reach is lost exactly if an arm of a switch that control can reach is. -/
theorem body_writes_reachable {function : Id} {found : Function} {first : Block}
    {rest : List Block} (stored : c.program.getFunction function = .ok found)
    (starts : found.blocks = first :: rest) (run : Emit.body function c = .ok () c') :
    let listed := (structureBlocks c.program found.blocks first.label).listing.labels
    let reachable := Relation.ReflTransGen (Branches c.program found.blocks) first.label
    (∀ label ∈ listed, ∃ block, findBlock found.blocks label = .ok block ∧
      RunsOn (Emit.block block) c c') ∧
    (∀ label, Relation.ReflTransGen (Passes found.blocks) first.label label → label ∈ listed) ∧
    (∀ label ∈ listed, Relation.ReflTransGen (Names found.blocks) first.label label) ∧
    ((∀ label, reachable label → label ∈ listed) ↔
      ∀ label block, reachable label → findBlock found.blocks label = .ok block →
        ∀ target ∈ cases c.program block, target ∈ listed) := by
  obtain ⟨ok, runs⟩ := body_listed stored starts run
  have structured := structureBlocks_structured ok
  have covers := structured.covers
  have reached := structured.reached
  rw [Covers, held_parts] at covers
  rw [held_parts] at reached
  have closed : ∀ label ∈ (structureBlocks c.program found.blocks first.label).listing.labels,
      ∀ target, Passes found.blocks label target →
        target ∈ (structureBlocks c.program found.blocks first.label).listing.labels := by
    intro label member target passes
    rcases covers.2 label member target passes with listed | owed
    · rwa [held_parts] at listed
    · exact absurd owed owed_nil
  refine ⟨fun label member => ?_, fun label path => ?_,
    fun label member => (reached label member).2,
    fun all label block path stored target member => ?_, fun arms label path => ?_⟩
  · obtain ⟨block, stored⟩ := (reached label member).1
    exact ⟨block, stored, runs.inside fun _ _ run => listing_writes run member stored⟩
  · induction path with
    | refl => exact covers.1
    | tail _ passes ih => exact closed _ ih _ passes
  · exact all target (path.tail ⟨block, stored, .inr member⟩)
  -- Along a path, only the step into an arm can leave what is listed.
  · induction path with
    | refl => exact covers.1
    | tail path branches ih =>
      obtain ⟨block, stored, jumps | member⟩ := branches
      · exact closed _ ih _ ⟨block, stored, .inl jumps⟩
      · exact arms _ block path stored _ member

/-- A function that stores on its way to the end, or goes there directly. -/
def storeUnderSwitch : Function where
  returnType := 1
  functionType := 4
  blocks := [
    { label := 10
      instructions := [⟨.selectionMerge, [12, 0], [12]⟩, ⟨.switch, [3, 12, 0, 11], [3, 12, 11]⟩] },
    { label := 11, instructions := [⟨.store, [20, 3], [20, 3]⟩, ⟨.branch, [12], [12]⟩] },
    { label := 12, instructions := [⟨.ret, [], []⟩] }]

def switching : Compiler where
  program :=
    { records :=
        { bound := 30
          items := ⟨[
            (2, .type { base := .int, width := 32 }),
            (3, .constant { type := 2, value := .scalar 0, specialization := false }),
            (9, .function storeUnderSwitch),
            (19, .type (ValueType.pointerTo { base := .int, width := 32 } 2 .output)),
            (20, .variable { type := 19, storage := .output })]⟩ } }
  options := {}
  plan := { entry := 8, model := .vertex }

theorem switching_stored : switching.program.getFunction 9 = .ok storeUnderSwitch := rfl

theorem switching_listed :
    (structureBlocks switching.program storeUnderSwitch.blocks 10).listing.labels = [10, 12] := by
  decide

theorem switching_arm :
    Relation.ReflTransGen (Branches switching.program storeUnderSwitch.blocks) 10 11 :=
  .single ⟨_, rfl, .inr (by decide)⟩

theorem switching_hoists :
    switching.program.hoistedResults storeUnderSwitch.blocks = .ok [] := by cbv

theorem body_writes_reachable_switching : ∃ c', Emit.body 9 switching = .ok () c' ∧
      (∀ label ∈ [10, 12], ∃ block, findBlock storeUnderSwitch.blocks label = .ok block ∧
        RunsOn (Emit.block block) switching c') ∧
      ¬ ∀ label, Relation.ReflTransGen (Branches switching.program storeUnderSwitch.blocks) 10
        label → label ∈ [10, 12] := by
  obtain ⟨c', run⟩ : ∃ c', Emit.body 9 switching = .ok () c' := by
    rw [body_eq switching_stored rfl switching_hoists]
    exact ⟨_, rfl⟩
  obtain ⟨written, _, _, exactly⟩ := body_writes_reachable switching_stored rfl run
  rw [switching_listed] at written exactly
  refine ⟨c', run, written, fun all => ?_⟩
  have listed := exactly.mp all 10 _ .refl rfl 11 (by decide)
  simp at listed

/-- Control reaches the block that stores, but the text has an empty arm in its place. -/
theorem switch_arm_unwritten : ∃ c', Emit.body 9 switching = .ok () c' ∧
      Relation.ReflTransGen (Branches switching.program storeUnderSwitch.blocks) 10 11 ∧
      c'.pass.lines.toList.map (·.text) =
        ["switch (0)", "\x7b", "case 0:", "\x7b", "\x7d", "\x7d"] := by
  rw [body_eq switching_stored rfl switching_hoists]
  exact ⟨_, rfl, switching_arm, rfl⟩

end Emit

end SpirvMetal
