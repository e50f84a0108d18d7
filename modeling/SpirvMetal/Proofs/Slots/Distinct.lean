import SpirvMetal.Proofs.Calls.Agreement
import SpirvMetal.Proofs.Slots.Active

/-!
Buffer slots of the entry point. Blocks with a binding get the slots from there on, and the others
are counted from zero without a look at the bindings.
-/

set_option synthInstance.maxSize 8192

namespace SpirvMetal

open List
open Spirv (StorageClass)
open Program

namespace Program

variable {program before after : Program} {var : Id} {vars others : List Id}

/-- A variable holds as many blocks in both programs, and is bound to the same slot. -/
structure SameBlocks (before after : Program) (var : Id) : Prop where
  blocks : after.blocks? var = before.blocks? var
  count : after.blockCount var = before.blockCount var
  binding : after.binding? var = before.binding? var

theorem SameBlocks.trans {middle : Program} (first : SameBlocks before middle var)
    (second : SameBlocks middle after var) : SameBlocks before after var :=
  ⟨second.blocks.trans first.blocks, second.count.trans first.count,
    second.binding.trans first.binding⟩

theorem Alike.sameBlocks (alike : before.Alike after) (var : Id) : SameBlocks before after var := by
  have blocks : after.blocks? var = before.blocks? var := by
    simp only [blocks?, alike.dataType_eq, alike.typeAt?_eq]
  have lengths := dimensionLength_congr alike.constantAt?_eq
  refine ⟨blocks, ?_, ?_⟩
  · simp only [blockCount, blocks, elementCount, lengths]
  · simp only [binding?, alike.decorated var .binding rfl, alike.valued var .binding rfl,
      alike.variableAt?_eq]

theorem slotsFrom_congr (same : ∀ var ∈ vars, SameBlocks before after var) (next : Nat) :
    after.slotsFrom next vars = before.slotsFrom next vars := by
  induction vars generalizing next with
  | nil => rfl
  | cons var rest ih =>
    have here := same var (by simp)
    have later := ih fun other listed => same other (by simp [listed])
    simp only [slotsFrom, here.binding, here.count, later]

theorem slotsFrom_filter (next : Nat) :
    program.slotsFrom next (vars.filter fun var => (program.blocks? var).isSome) =
      program.slotsFrom next vars := by
  induction vars generalizing next with
  | nil => rfl
  | cons var rest ih =>
    cases held : program.blocks? var with
    | some type =>
      rw [filter_cons_of_pos (by simp [held])]
      simp only [slotsFrom, ih]
    | none =>
      have empty : program.blockCount var = 0 := by rw [blockCount, held]
      rw [filter_cons_of_neg (by simp [held]), ih, slotsFrom, empty]
      cases program.binding? var <;> rfl

theorem countedSlots_perm (same : vars.Perm others) :
    program.countedSlots vars = program.countedSlots others := by
  induction same with
  | nil => rfl
  | cons var _ ih => simp only [countedSlots, ih]
  | swap first second rest =>
    simp only [countedSlots]
    omega
  | trans _ _ first second => exact first.trans second

theorem mem_usedBlocks (bounded : program.Bounded) :
    var ∈ program.usedBlocks ↔ ∃ stored, program.variableAt? var = some stored ∧
      stored.storage.isBuffer = true ∧ var ∈ program.usedVariables ∧
      (program.blocks? var).isSome = true := by
  unfold usedBlocks
  constructor
  · intro listed
    obtain ⟨⟨id, stored⟩, kept, rfl⟩ := mem_map.mp listed
    obtain ⟨known, test⟩ := mem_filter.mp kept
    simp only [Bool.and_eq_true, decide_eq_true_eq, and_assoc] at test
    exact ⟨stored, bounded.mem_vars.mp known, test⟩
  · rintro ⟨stored, found, test⟩
    refine mem_map.mpr ⟨(var, stored), mem_filter.mpr ⟨bounded.mem_vars.mpr found, ?_⟩, rfl⟩
    simpa only [Bool.and_eq_true, decide_eq_true_eq, and_assoc] using test

theorem usedBlocks_nodup (bounded : program.Bounded) : program.usedBlocks.Nodup :=
  List.Nodup.sublist (filter_sublist.map _) bounded.nodup_collect

/-- The slots of the blocks in use are different exactly if the bindings do not overlap and lie above
all slots that are counted. -/
theorem slots_nodup_iff (listed : (vars.filter fun var =>
      (program.blocks? var).isSome).Perm program.usedBlocks)
    (same : ∀ var ∈ vars, SameBlocks program after var) :
    (after.slotsFrom 0 vars).Nodup ↔
      (program.usedBlocks.flatMap program.boundSlots).Nodup ∧
        ∀ var ∈ program.usedBlocks, ∀ slot, program.binding? var = some slot →
          program.countedSlots program.usedBlocks ≤ slot := by
  rw [slotsFrom_congr same, ← slotsFrom_filter, slotsFrom_nodup_iff, countedSlots_perm listed,
    (listed.flatMap_right _).nodup_iff]
  · simp only [listed.mem_iff]
  · intro var held
    have held := (mem_filter.mp held).2
    obtain ⟨type, held⟩ := Option.isSome_iff_exists.mp held
    rw [blockCount, held]
    exact elementCount_pos ..

end Program

namespace Compiler

variable {c ready printing : Compiler} {m : Spirv.Module} {program : Program} {var : Id}

theorem Unbuffered.sameBlocks {stored : Variable} (unbuffered : Unbuffered program ready)
    (loaded : Program.ofModule m = .ok program) (found : program.variableAt? var = some stored) :
    SameBlocks program ready.program var := by
  have bounded := ofModule_bounded loaded
  have below := bounded.variable_below found
  obtain ⟨⟨data, type⟩, typed⟩ := ofModule_typed loaded found
  have typed' := unbuffered.program.dataType_ok bounded typed
  have based : type.baseId < program.bound :=
    (bounded.type_below (getType_ok.mp (getType_of_dataType typed))).2
  have blocks : ready.program.blocks? var = program.blocks? var := by
    simp only [blocks?, typed, typed', unbuffered.program.typeAt?_eq based]
  obtain ⟨marked, valued⟩ :
      ready.program.hasDecoration var .binding = program.hasDecoration var .binding ∧
        ready.program.getDecoration var .binding = program.getDecoration var .binding :=
    (unbuffered.marks var below).own .binding rfl
  refine ⟨blocks, ?_, ?_⟩
  · simp only [blockCount, blocks, unbuffered.grown.elementCount_eq]
  · simp only [binding?, marked, valued, unbuffered.program.variableAt?_eq below]

/-- The buffers in use while the entry point is written are those that the loaded program uses. -/
theorem Unbuffered.mem_activeWith (unbuffered : Unbuffered program ready)
    (charts : Charts program program.usedVariables ready) (bounded : program.Bounded)
    (remains : ready.Remains printing) :
    var ∈ printing.activeWith StorageClass.isBuffer ↔ ∃ stored,
      program.variableAt? var = some stored ∧ stored.storage.isBuffer = true ∧
        var ∈ program.usedVariables := by
  have listed : printing.program.vars = ready.program.vars := by
    simp only [vars, collect, remains.program.records]
  have active : printing.plan.activeVariables = ready.plan.activeVariables :=
    Emit.settled_eq (·.activeVariables) (fun _ => rfl) remains.plan
  have known {stored : Variable} (buffer : stored.storage.isBuffer = true) :
      ready.program.variableAt? var = some stored ↔ program.variableAt? var = some stored := by
    refine ⟨fun found => unbuffered.grown.variableAt? found buffer, fun found => ?_⟩
    rw [unbuffered.program.variableAt?_eq (bounded.variable_below found), found]
  rw [activeWith, (sortBy_perm _ _).mem_iff, listed, active, mem_map]
  constructor
  · rintro ⟨⟨id, stored⟩, kept, rfl⟩
    obtain ⟨found, test⟩ := mem_filter.mp kept
    obtain ⟨buffer, used⟩ := Bool.and_eq_true_iff.mp test
    have found := (known buffer).mp (unbuffered.bounded.mem_vars.mp found)
    exact ⟨stored, found, buffer, (charts id stored found buffer).mp (of_decide_eq_true used)⟩
  · rintro ⟨stored, found, buffer, used⟩
    have used := (charts var stored found buffer).mpr used
    refine ⟨(var, stored), mem_filter.mpr ⟨?_, by simp [buffer, used]⟩, rfl⟩
    exact unbuffered.bounded.mem_vars.mpr ((known buffer).mpr found)

theorem activeWith_nodup (bounded : c.program.Bounded) (accepts : StorageClass → Bool) :
    (c.activeWith accepts).Nodup :=
  (sortBy_perm _ _).nodup_iff.mpr
    (List.Nodup.sublist (filter_sublist.map _) bounded.nodup_collect)

end Compiler

namespace Emit

variable {c start stop printing printed : Compiler} {u : Unit} {arguments : List String}

/-- The signature of the entry point stands in what a pass writes, with these arguments, which were
found in the state `printing`. -/
def WritesEntry (printing stop : Compiler) (arguments : List String) : Prop :=
  ∃ printed, ∃ qualifier returned : String, entryArguments printing = .ok arguments printed ∧
    ∃ line ∈ stop.pass.lines.toList,
      line.text = applied s!"{qualifier} {returned} {printed.program.plainName printing.plan.entry}"
        arguments

theorem entrySignature_ok {text : String} (done : entrySignature c = .ok text printed) :
    ∃ arguments, ∃ qualifier returned : String, entryArguments c = .ok arguments printed ∧
      text = applied s!"{qualifier} {returned} {printed.program.plainName c.plan.entry}"
        arguments := by
  obtain ⟨qualifier, _, done⟩ := read_bind.mp done
  have gathers : ∃ returned : String, (do
      let arguments ← entryArguments
      let name := (← get).program.plainName c.plan.entry
      return applied s!"{qualifier} {returned} {name}" arguments : Emit String) c =
        .ok text printed := by
    cases returns : c.returnsOutput with
    | false => exact ⟨"void", by simpa only [returns, pure_bind] using done⟩
    | true =>
      cases planned : c.plan.stageOut with
      | none => exact ⟨"void", by simpa only [returns, planned, pure_bind] using done⟩
      | some out =>
        simp only [returns, planned] at done
        obtain ⟨returned, _, done⟩ := lift_bind.mp done
        exact ⟨returned, done⟩
  obtain ⟨returned, done⟩ := gathers
  obtain ⟨arguments, _, gathering, done⟩ := bind_ok.mp done
  replace done := get_bind.mp done
  obtain ⟨rfl, rfl⟩ := pure_ok.mp done
  exact ⟨arguments, qualifier, returned, gathering, rfl⟩

theorem written_entry {id : Id} (done : written id c = .ok u stop) (entry : id = c.plan.entry) :
    ∃ arguments, WritesEntry c stop arguments := by
  replace done := get_bind.mp done
  simp only [entry, decide_true, if_true] at done
  obtain ⟨text, signed, signing, done⟩ := bind_ok.mp done
  obtain ⟨_, begun, writing, more⟩ := bind_ok.mp done
  obtain ⟨arguments, qualifier, returned, gathering, rfl⟩ := entrySignature_ok signing
  have later : begun.Advances stop := advances more
  exact ⟨arguments, signed, qualifier, returned, gathering, _,
    later.lines.subset (statement_written writing), rfl⟩

theorem function_writes_entry {id : Id} (entry : id = c.plan.entry)
    (done : function id c = .ok u stop) :
    ∃ printing arguments, c.Remains printing ∧ c.SameBuffers printing ∧
      WritesEntry printing stop arguments := by
  obtain ⟨_, program, last, _, renamed, _, writing, rfl⟩ := function_steps done
  obtain ⟨arguments, writes⟩ := written_entry writing entry
  refine ⟨_, arguments, ?_, ?_, writes⟩
  · exact ⟨renamed.alike, rfl, rfl⟩
  · exact .of_slotting rfl

theorem pass_writes_entry (done : pass (afresh start) = .ok u stop)
    (ordered : start.session.Ordered) (distinct : start.plan.callGraph.order.Nodup)
    (last : start.plan.callGraph.order.getLast? = some start.plan.entry) :
    ∃ printing arguments, start.Remains printing ∧ printing.pass.nextBuffer = 0 ∧
      (∀ var, printing.pass.slots.find? (var, .buffer) = none) ∧
      WritesEntry printing stop arguments := by
  obtain ⟨scanned, declared, helped, steps⟩ := pass_steps.mp done
  have scans := Scanning.scan.keeps steps.scanning
  have scans : start.Remains scanned :=
    ⟨scans.program ▸ .refl _, (advances steps.scanning).plan, congrArg _ scans.options⟩
  have follows := steps.follows ordered
  obtain ⟨front, split⟩ := List.getLast?_eq_some_iff.mp last
  rw [split] at distinct
  have others (id : Id) (member : id ∈ front) : id ≠ start.plan.entry :=
    (nodup_append.mp distinct).2.2 id member _ (by simp)
  have writing : (front ++ [start.plan.entry]).forM function helped = .ok () stop := by
    rw [← split, ← settled_callGraph scans.plan]
    exact steps.writing
  rw [forM_eq_forM, forM_append, forM_cons] at writing
  obtain ⟨_, reached, earlier, writing⟩ := bind_ok.mp writing
  have entry : helped.plan.entry = start.plan.entry := by
    rw [follows.plan]
    exact settled_entry scans.plan
  have reaches := (functions_reach earlier follows.headerWritten follows.ordered).1
  have same : helped.SameBuffers reached :=
    functions_sameBuffers (fun id member => entry ▸ others id member) earlier
  have begun : (afresh start).SameBuffers reached := by
    have titles : scanned.SameBuffers (titled scanned) := .of_slotting rfl
    have declares : (titled scanned).SameBuffers declared := Keeps.keeps steps.declaring
    have helps : declared.SameBuffers helped := Keeps.keeps steps.helping
    exact (scan_sameBuffers steps.scanning).trans
      (titles.trans (declares.trans (helps.trans same)))
  obtain ⟨_, finished, entering, ending⟩ := bind_ok.mp writing
  obtain ⟨-, rfl⟩ := pure_ok.mp ending
  have remains : start.Remains reached :=
    { program := scans.program.trans (follows.program.trans reaches.program)
      plan := (congrArg Plan.settled (reaches.plan.trans follows.plan)).trans scans.plan
      options := reaches.options.trans (follows.options.trans scans.options) }
  obtain ⟨printing, arguments, entered, still, writes⟩ :=
    function_writes_entry (settled_entry remains.plan).symm entering
  have fresh := begun.trans still
  exact ⟨printing, arguments, remains.trans entered, fresh.next, fresh.given, writes⟩

theorem entryArguments_distinct_iff (table : c.options.resourceBindings = [])
    (uncaptured : c.capturesOutput = false) (bounded : c.program.Bounded)
    (fresh : c.pass.nextBuffer = 0) (new : ∀ var, c.pass.slots.find? (var, .buffer) = none)
    (done : entryArguments c = .ok arguments printed) :
    BuffersDistinct arguments ↔
      (c.program.slotsFrom 0 (c.activeWith StorageClass.isBuffer)).Nodup := by
  obtain ⟨resources, middle, front, back, gathering, rfl, plain, plain'⟩ :=
    entryArguments_ok table uncaptured done
  have gives := allArguments_ok table (c.activeWith_nodup bounded _) (fun var _ => new var) gathering
  have sorted := sortBy_perm ResourceArgument.before resources.flatten
  have unlabelled {texts : List String} (plain : ∀ text ∈ texts, Labels text none) :
      List.Forall₂ Labels texts (texts.map fun _ => none) :=
    forall₂_map_right_iff.mpr (forall₂_same.mpr plain)
  have labelled : List.Forall₂ Labels
      ((sortBy ResourceArgument.before resources.flatten).map (·.text))
      ((sortBy ResourceArgument.before resources.flatten).map (·.buffer?)) := by
    rw [forall₂_map_left_iff, forall₂_map_right_iff, forall₂_same]
    exact fun argument listed => gives.labelled argument (sorted.mem_iff.mp listed)
  have none (texts : List String) : (texts.map fun _ => (none : Option Nat)).filterMap id = [] := by
    rw [filterMap_eq_nil_iff]
    simp
  rw [buffersDistinct_iff
      (rel_append (rel_append (unlabelled plain) labelled) (unlabelled plain')),
    filterMap_append, filterMap_append, none, none, nil_append, append_nil,
    filterMap_map, ← fresh, ← gives.slots]
  exact (sorted.filterMap _).nodup_iff

/-- A compute shader that reads these variables, all of them blocks `{ float }` or arrays of two. -/
def readsBlocks (annotations blocks body : List Spirv.Instruction) : Spirv.Module where
  entryPoints := [.entry .glCompute 20 []]
  annotations :=
    .onMember 10 0 .offset [0] ::
      annotations
  globals := [⟨.typeVoid, none, some 2, []⟩, ⟨.typeFloat, none, some 3, [.literal 32]⟩,
    ⟨.typeInt, none, some 7, [.literal 32, .literal 0]⟩,
    ⟨.constant, some 7, some 8, [.literal 0]⟩,
    ⟨.constant, some 7, some 9, [.literal 2]⟩,
    ⟨.typeStruct, none, some 10, [.idRef 3]⟩,
    ⟨.typeArray, none, some 11, [.idRef 10, .idRef 9]⟩, .pointer 12 .uniform 11,
    .pointer 13 .uniform 10, .pointer 14 .pushConstant 10, .pointer 15 .uniform 3,
    .pointer 16 .pushConstant 3,
    ⟨.typeFunction, none, some 5, [.idRef 2]⟩] ++ blocks
  functions := [.ofBody 2 20 5 21 body]

def separateBlocks : Spirv.Module :=
  readsBlocks [⟨.decorate, none, none, [.idRef 30, .decoration .binding, .literal 3]⟩]
    [.variable 30 12 .uniform, .variable 31 13 .uniform, .variable 32 14 .pushConstant]
    [⟨.accessChain, some 15, some 40, [.idRef 30, .idRef 8, .idRef 8]⟩,
      ⟨.accessChain, some 15, some 41, [.idRef 31, .idRef 8]⟩,
      ⟨.accessChain, some 16, some 42, [.idRef 32, .idRef 8]⟩]

def sharedSlot : Spirv.Module :=
  readsBlocks [⟨.decorate, none, none, [.idRef 31, .decoration .binding, .literal 0]⟩]
    [.variable 31 13 .uniform, .variable 32 14 .pushConstant]
    [⟨.accessChain, some 15, some 41, [.idRef 31, .idRef 8]⟩,
      ⟨.accessChain, some 16, some 42, [.idRef 32, .idRef 8]⟩]

end Emit

end SpirvMetal
