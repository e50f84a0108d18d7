import SpirvMetal.Proofs.Repeat.Recompile
import SpirvMetal.Proofs.Slots.Numbers

/-!
The buffers that the entry point takes.
-/

set_option synthInstance.maxSize 8192

namespace SpirvMetal

open List
open Spirv (StorageClass)

/-- Buffers have the slots that they had, and the next slot is the same. -/
structure Compiler.SameBuffers (before after : Compiler) : Prop where
  next : after.pass.nextBuffer = before.pass.nextBuffer
  given : ∀ var, after.pass.slots.find? (var, .buffer) = before.pass.slots.find? (var, .buffer)

namespace Compiler.SameBuffers

variable {first second third before after : Compiler}

theorem of_slotting (same : after.pass.slotting = before.pass.slotting) :
    before.SameBuffers after where
  next := congrArg Slotting.nextBuffer same
  given var := congrArg (·.slots.find? (var, .buffer)) same

theorem refl (c : Compiler) : c.SameBuffers c := of_slotting rfl

theorem trans (left : first.SameBuffers second) (right : second.SameBuffers third) :
    first.SameBuffers third :=
  ⟨right.next.trans left.next, fun var => (right.given var).trans (left.given var)⟩

instance : AllowsText SameBuffers where
  refl := refl
  trans _ _ _ := trans
  text adds := of_slotting adds.slotting

instance : AllowsInstructions SameBuffers where
  notes _ _ slotting := of_slotting slotting
  discovers _ _ := of_slotting rfl
  opens _ := of_slotting rfl

end Compiler.SameBuffers

/-- Where there is no table of bindings, resources change nothing but the slots of a pass. -/
def Compiler.Untabled (before after : Compiler) : Prop :=
  before.options.resourceBindings = [] →
    after.program = before.program ∧ after.options = before.options ∧ after.plan = before.plan

namespace Emit

open Compiler (SameBuffers Untabled)
open Always (andThen onward)

variable {c c' : Compiler} {u : Unit}

theorem allocateOther {kind : SlotKind} (other : kind ≠ .buffer) (var : Id) :
    Always SameBuffers (allocateSlot var kind) := by
  have taken (count : Nat) : Always SameBuffers (takeSlot kind count) := by
    simp only [takeSlot]
    refine onward fun _ => ?_
    cases kind with
    | buffer => exact absurd rfl other
    | _ => exact andThen (.modify fun _ => ⟨rfl, fun _ => rfl⟩) inferInstance
  refine .look fun c => ?_
  rw [leaves_lift]
  cases c.program.getVariable var with
  | error => exact .refl c
  | ok stored =>
    dsimp only
    generalize (if stored.storage = .pushConstant then _ else _ : Nat × Nat) = place
    obtain ⟨descriptorSet, binding⟩ := place
    dsimp only
    split
    · cases kind <;> exact .of_slotting rfl
    · exact Always.always c

theorem otherSlot {kind : SlotKind} (other : kind ≠ .buffer) (var : Id) :
    Always SameBuffers (slot var kind) := by
  have allocated : Always SameBuffers (allocateSlot var kind) := allocateOther other var
  simp only [slot]
  refine onward fun _ => ?_
  split
  · infer_instance
  · refine onward fun index => andThen (.modify fun c => ⟨rfl, fun buffer => ?_⟩)
      inferInstance
    rw [Assoc.find?_insert, if_neg (by simp [other.symm])]

instance textureSlot (var : Id) : Always SameBuffers (slot var .texture) := otherSlot (by decide) var

instance samplerSlot (var : Id) : Always SameBuffers (slot var .sampler) := otherSlot (by decide) var

instance texturesUnbuffered (var data : Id) (type : ValueType) :
    Always SameBuffers (textureArguments var data type) := by
  simp only [textureArguments]
  infer_instance

instance samplersUnbuffered (var data : Id) : Always SameBuffers (samplerArguments var data) := by
  simp only [samplerArguments]
  infer_instance

instance rename (id : Id) (name : String) :
    Always SameBuffers (modifyProgram (·.setName id name)) := .modify fun _ => .of_slotting rfl

theorem scan_sameBuffers (done : scan c = .ok u c') : c.SameBuffers c' :=
  .of_slotting (Scanning.scan.keeps done).slotting

instance declares_sameBuffers : Always SameBuffers declarations := by
  simp only [declarations]
  infer_instance

theorem written_sameBuffers {id : Id} (other : id ≠ c.plan.entry)
    (done : written id c = .ok u c') : c.SameBuffers c' := by
  replace done := get_bind.mp done
  simp only [other, decide_false, Bool.false_eq_true, if_false] at done
  exact Keeps.keeps done

theorem function_sameBuffers {id : Id} (other : id ≠ c.plan.entry)
    (done : function id c = .ok u c') : c.SameBuffers c' := by
  rw [function_eq] at done
  obtain ⟨_, entered, entering, done⟩ := bind_ok.mp done
  obtain ⟨_, named, naming, done⟩ := bind_ok.mp done
  obtain ⟨_, last, writing, leaving⟩ := bind_ok.mp done
  have entry : named.plan.entry = c.plan.entry :=
    settled_entry ((advances entering).trans (advances naming)).plan
  have begun : c.SameBuffers named := .trans (Keeps.keeps entering) (Keeps.keeps naming)
  exact (begun.trans (written_sameBuffers (entry ▸ other) writing)).trans (Keeps.keeps leaving)

theorem functions_sameBuffers {earlier : List Id} (others : ∀ id ∈ earlier, id ≠ c.plan.entry)
    (done : earlier.forM function c = .ok u c') : c.SameBuffers c' := by
  induction earlier generalizing c with
  | nil =>
    obtain ⟨-, rfl⟩ := pure_ok.mp done
    exact .refl c
  | cons id rest ih =>
    obtain ⟨_, middle, first, done⟩ := bind_ok.mp done
    have entry := settled_entry (advances first).plan
    refine (function_sameBuffers (others id (by simp)) first).trans (ih ?_ done)
    intro later member
    rw [entry]
    exact others later (by simp [member])

theorem takeBuffer_ok {count index : Nat} (done : takeSlot .buffer count c = .ok index c') :
    index = c.pass.nextBuffer ∧
      c' = { c with pass := { c.pass with nextBuffer := c.pass.nextBuffer + count } } := by
  replace done := get_bind.mp done
  replace done := modify_bind.mp done
  obtain ⟨rfl, rfl⟩ := pure_ok.mp done
  exact ⟨rfl, rfl⟩

theorem allocateBuffer_ok {var index : Nat} (table : c.options.resourceBindings = [])
    (done : allocateSlot var .buffer c = .ok index c') :
    (c.program.binding? var = some index ∧ c' = c) ∨
      ∃ data type, c.program.binding? var = none ∧ c.program.dataType var = .ok (data, type) ∧
        index = c.pass.nextBuffer ∧
        c' = { c with pass := { c.pass with
          nextBuffer := c.pass.nextBuffer + max (c.program.elementCount type.dimensions) 1 } } := by
  obtain ⟨stored, found, done⟩ := read_bind.mp done
  simp only [table, List.find?_nil] at done
  unfold Program.binding?
  split at done
  · rename_i bound
    obtain ⟨rfl, rfl⟩ := pure_ok.mp done
    refine .inl ⟨?_, rfl⟩
    by_cases pushes : stored.storage = .pushConstant <;>
      simp [bound, pushes, Program.getVariable_ok.mp found]
  · rename_i free
    obtain ⟨⟨data, type⟩, typed, done⟩ := lift_bind.mp done
    obtain ⟨rfl, rfl⟩ := takeBuffer_ok done
    exact .inr ⟨data, type, by simp [free], typed, rfl, rfl⟩

instance : AllowsText Untabled where
  refl _ _ := ⟨rfl, rfl, rfl⟩
  trans _ _ _ first second table := by
    obtain ⟨program, options, plan⟩ := first table
    obtain ⟨program', options', plan'⟩ := second (options ▸ table)
    exact ⟨program'.trans program, options'.trans options, plan'.trans plan⟩
  text _ _ := ⟨rfl, rfl, rfl⟩

instance : AllowsSlots Untabled where
  slots _ _ := ⟨rfl, rfl, rfl⟩
  marks listed table := by
    rw [table] at listed
    cases listed

theorem bufferSlot_ok {var index : Nat} (table : c.options.resourceBindings = [])
    (new : c.pass.slots.find? (var, .buffer) = none) (done : slot var .buffer c = .ok index c') :
    ((c.program.binding? var = some index ∧ c'.pass.nextBuffer = c.pass.nextBuffer) ∨
      ∃ data type, c.program.binding? var = none ∧ c.program.dataType var = .ok (data, type) ∧
        index = c.pass.nextBuffer ∧
        c'.pass.nextBuffer = c.pass.nextBuffer + c.program.elementCount type.dimensions) ∧
      ∀ other ≠ var,
        c'.pass.slots.find? (other, .buffer) = c.pass.slots.find? (other, .buffer) := by
  replace done := get_bind.mp done
  rw [new] at done
  obtain ⟨slot, given, allocating, done⟩ := bind_ok.mp done
  replace done := modify_bind.mp done
  obtain ⟨rfl, rfl⟩ := pure_ok.mp done
  have inserted (other : Id) (differs : other ≠ var) (slots : Assoc (Id × SlotKind) Nat) :
      (slots.insert (var, .buffer) slot).find? (other, .buffer) =
        slots.find? (other, .buffer) := by
    rw [Assoc.find?_insert, if_neg (by simp [differs])]
  rcases allocateBuffer_ok table allocating with
    ⟨bound, rfl⟩ | ⟨data, type, free, typed, rfl, rfl⟩
  · exact ⟨.inl ⟨bound, rfl⟩, fun other differs => inserted other differs _⟩
  · have some : max (c.program.elementCount type.dimensions) 1 =
        c.program.elementCount type.dimensions := Nat.max_eq_left (Program.elementCount_pos ..)
    exact ⟨.inr ⟨data, type, free, typed, rfl, congrArg (c.pass.nextBuffer + ·) some⟩,
      fun other differs => inserted other differs _⟩

end Emit

def ResourceArgument.buffer? (argument : ResourceArgument) : Option Nat :=
  if argument.rank = 0 then some argument.slot else none

namespace Emit

variable {c c' : Compiler} {var data : Id} {type : ValueType} {arguments : List ResourceArgument}

theorem bufferCount_ok {count : Nat} (counted : c.bufferCount type = .ok count) :
    count = c.program.elementCount type.dimensions := by
  unfold Compiler.bufferCount at counted
  split at counted
  · cases counted
  · rename_i dimension single
    split at counted
    · cases counted
    · rename_i some
      cases counted
      have pos : 0 < c.program.dimensionLength dimension := Nat.pos_of_ne_zero some
      simp [single, Program.elementCount, Nat.max_eq_left pos]
  · cases counted

/-- The arguments for some variables have the slots of their buffers, and say so. -/
structure GivesBuffers (vars : List Id) (c : Compiler) (arguments : List ResourceArgument)
    (c' : Compiler) : Prop where
  labelled : ∀ argument ∈ arguments, Labels argument.text argument.buffer?
  slots : arguments.filterMap (·.buffer?) = c.program.slotsFrom c.pass.nextBuffer vars
  next : c'.pass.nextBuffer = c.pass.nextBuffer + c.program.countedSlots vars
  given : ∀ other ∉ vars,
    c'.pass.slots.find? (other, .buffer) = c.pass.slots.find? (other, .buffer)

theorem GivesBuffers.none (unblocked : c.program.blocks? var = none)
    (labelled : ∀ argument ∈ arguments,
      Labels argument.text argument.buffer? ∧ argument.buffer? = none)
    (same : c.SameBuffers c') : GivesBuffers [var] c arguments c' := by
  have empty : c.program.blockCount var = 0 := by simp [Program.blockCount, unblocked]
  refine ⟨fun argument listed => (labelled argument listed).1, ?_, ?_, fun other _ =>
    same.given other⟩
  · have slots : c.program.slotsFrom c.pass.nextBuffer [var] = [] := by
      simp only [Program.slotsFrom, empty, List.range'_zero, append_nil]
      split <;> rfl
    rw [slots, filterMap_eq_nil_iff]
    exact fun argument listed => (labelled argument listed).2
  · simp [same.next, Program.countedSlots, empty]

theorem GivesBuffers.blocks {index : Nat} {declaration : Nat → String}
    (slotted : (c.program.binding? var = some index ∧ c'.pass.nextBuffer = c.pass.nextBuffer) ∨
      c.program.binding? var = Option.none ∧ index = c.pass.nextBuffer ∧
        c'.pass.nextBuffer = c.pass.nextBuffer + c.program.blockCount var)
    (given : ∀ other ≠ var,
      c'.pass.slots.find? (other, .buffer) = c.pass.slots.find? (other, .buffer)) :
    GivesBuffers [var] c
      ((List.range (c.program.blockCount var)).map fun i =>
        ⟨0, index + i, declaration i ++ " [[buffer(" ++ toString (index + i) ++ ")]]"⟩) c' := by
  have numbers : ((List.range (c.program.blockCount var)).map fun i =>
      (⟨0, index + i, declaration i ++ " [[buffer(" ++ toString (index + i) ++ ")]]"⟩ :
        ResourceArgument)).filterMap (·.buffer?) =
      List.range' index (c.program.blockCount var) := by
    rw [filterMap_map, List.range'_eq_map_range, ← filterMap_eq_map]
    rfl
  refine ⟨fun argument listed => ?_, numbers.trans ?_, ?_, fun other differs =>
    given other (by simpa using differs)⟩
  · obtain ⟨i, _, rfl⟩ := mem_map.mp listed
    exact labels_buffer (declaration i) (index + i)
  · rcases slotted with ⟨bound, _⟩ | ⟨free, rfl, _⟩
    · simp [Program.slotsFrom, bound]
    · simp [Program.slotsFrom, free]
  · rcases slotted with ⟨bound, next⟩ | ⟨free, _, next⟩
    · simp [Program.countedSlots, bound, next]
    · simp [Program.countedSlots, free, next]

theorem bufferArguments_ok (table : c.options.resourceBindings = [])
    (new : c.pass.slots.find? (var, .buffer) = none)
    (typed : c.program.dataType var = .ok (data, type)) (struct : type.base = .struct)
    (done : bufferArguments var type c = .ok arguments c') :
    GivesBuffers [var] c arguments c' := by
  obtain ⟨base, based, done⟩ := read_bind.mp done
  have stored := Program.getType_ok.mp based
  split at done
  · rename_i empty
    obtain ⟨rfl, rfl⟩ := pure_ok.mp done
    refine .none ?_ (by simp) (.refl c)
    simp [Program.blocks?, typed, stored, empty]
  · rename_i some
    have blocks : c.program.blocks? var = .some type := by
      simp [Program.blocks?, typed, struct, stored, some]
    have count : c.program.blockCount var = c.program.elementCount type.dimensions := by
      simp only [Program.blockCount, blocks]
    obtain ⟨space, _, done⟩ := lift_bind.mp done
    obtain ⟨name, _, done⟩ := lift_bind.mp done
    obtain ⟨index, slotted, slotting, done⟩ := bind_ok.mp done
    obtain ⟨counted, given⟩ := bufferSlot_ok table new slotting
    have kinds : (c.program.binding? var = .some index ∧
          slotted.pass.nextBuffer = c.pass.nextBuffer) ∨
        c.program.binding? var = Option.none ∧ index = c.pass.nextBuffer ∧
          slotted.pass.nextBuffer = c.pass.nextBuffer + c.program.blockCount var :=
      counted.imp_right fun ⟨_, _, free, typed', first, next⟩ => by
        obtain rfl := (Prod.mk.inj (Except.ok.inj (typed.symm.trans typed'))).2
        exact ⟨free, first, count ▸ next⟩
    split at done
    · obtain ⟨number, counted, done⟩ := lift_bind.mp done
      obtain ⟨rfl, rfl⟩ := pure_ok.mp done
      rw [bufferCount_ok counted, ← count]
      exact .blocks kinds given
    · rename_i single
      obtain ⟨rfl, rfl⟩ := pure_ok.mp done
      have one : c.program.blockCount var = 1 := by
        have flat : type.dimensions = [] := by simpa [ValueType.isArray] using single
        rw [count, flat]
        rfl
      have single (declaration : String) : GivesBuffers [var] c
          [⟨0, index, declaration ++ " [[buffer(" ++ toString index ++ ")]]"⟩] slotted := by
        have arguments : GivesBuffers [var] c ((List.range (c.program.blockCount var)).map fun i =>
            ⟨0, index + i, declaration ++ " [[buffer(" ++ toString (index + i) ++ ")]]"⟩) _ :=
          .blocks kinds given
        rw [one] at arguments
        exact arguments
      exact single _

theorem labels_texture (declaration : String) (index : Nat) :
    Labels (declaration ++ " [[texture(" ++ toString index ++ ")]]") none := by
  have split : declaration ++ " [[texture(" ++ toString index ++ ")]]" =
      declaration ++ " [[" ++ ("texture(" ++ toString index ++ ")") ++ "]]" :=
    String.toList_inj.mp (by simp)
  rw [split]
  exact labels_none (by simpa using notMem_toString (by decide) index) (by simp)

theorem labels_sampler (declaration : String) (index : Nat) :
    Labels (declaration ++ " [[sampler(" ++ toString index ++ ")]]") none := by
  have split : declaration ++ " [[sampler(" ++ toString index ++ ")]]" =
      declaration ++ " [[" ++ ("sampler(" ++ toString index ++ ")") ++ "]]" :=
    String.toList_inj.mp (by simp)
  rw [split]
  exact labels_none (by simpa using notMem_toString (by decide) index) (by simp)

theorem labels_companion (declaration : String) (index : Nat) :
    Labels (declaration ++ "Smplr [[sampler(" ++ toString index ++ ")]]") none := by
  have split : declaration ++ "Smplr [[sampler(" = declaration ++ "Smplr" ++ " [[sampler(" :=
    String.toList_inj.mp (by simp)
  rw [split]
  exact labels_sampler _ _

theorem textureArguments_ok (typed : c.program.dataType var = .ok (data, type))
    (image : type.base = .image ∨ type.base = .sampledImage)
    (done : textureArguments var data type c = .ok arguments c') :
    GivesBuffers [var] c arguments c' := by
  have same : c.SameBuffers c' := Keeps.keeps done
  have unblocked : c.program.blocks? var = none := by
    rcases image with image | image <;> simp [Program.blocks?, typed, image]
  refine .none unblocked ?_ same
  obtain ⟨_, _, looked, done⟩ := bind_ok.mp done
  obtain ⟨index, slotted, _, done⟩ := bind_ok.mp done
  obtain ⟨_, _, looked, done⟩ := bind_ok.mp done
  obtain ⟨texture, _, _, done⟩ := bind_ok.mp done
  have ranked : (if type.base = .sampledImage then 2 else 1) ≠ 0 := by split <;> simp
  split at done
  · obtain ⟨sampler, _, _, done⟩ := bind_ok.mp done
    obtain ⟨rfl, rfl⟩ := pure_ok.mp done
    intro argument listed
    rcases mem_pair.mp listed with rfl | rfl
    · rw [ResourceArgument.buffer?, if_neg ranked]
      exact ⟨labels_texture _ _, rfl⟩
    · exact ⟨labels_companion _ _, rfl⟩
  · obtain ⟨rfl, rfl⟩ := pure_ok.mp done
    intro argument listed
    obtain rfl := mem_singleton.mp listed
    rw [ResourceArgument.buffer?, if_neg ranked]
    exact ⟨labels_texture _ _, rfl⟩

theorem resourceArguments_ok (table : c.options.resourceBindings = [])
    (new : c.pass.slots.find? (var, .buffer) = none)
    (done : resourceArguments var c = .ok arguments c') : GivesBuffers [var] c arguments c' := by
  obtain ⟨⟨data, type⟩, typed, done⟩ := read_bind.mp done
  cases base : type.base with
  | struct =>
    simp only [base] at done
    exact bufferArguments_ok table new typed base done
  | image =>
    simp only [base] at done
    exact textureArguments_ok typed (.inl base) done
  | sampledImage =>
    simp only [base] at done
    exact textureArguments_ok typed (.inr base) done
  | sampler =>
    simp only [base] at done
    have same : c.SameBuffers c' := Keeps.keeps done
    refine .none (by simp [Program.blocks?, typed, base]) ?_ same
    obtain ⟨index, slotted, _, done⟩ := bind_ok.mp done
    obtain ⟨_, _, looked, done⟩ := bind_ok.mp done
    obtain ⟨spelled, _, _, done⟩ := bind_ok.mp done
    obtain ⟨rfl, rfl⟩ := pure_ok.mp done
    intro argument listed
    obtain rfl := mem_singleton.mp listed
    exact ⟨labels_sampler _ _, rfl⟩
  | _ =>
    simp only [base] at done
    obtain ⟨rfl, rfl⟩ := pure_ok.mp done
    exact .none (by simp [Program.blocks?, typed, base]) (by simp) (.refl c)

theorem allArguments_ok {vars : List Id} {arguments : List (List ResourceArgument)}
    (table : c.options.resourceBindings = [])
    (distinct : vars.Nodup) (new : ∀ var ∈ vars, c.pass.slots.find? (var, .buffer) = none)
    (done : vars.mapM resourceArguments c = .ok arguments c') :
    GivesBuffers vars c arguments.flatten c' := by
  induction vars generalizing c arguments with
  | nil =>
    obtain ⟨rfl, rfl⟩ := pure_ok.mp done
    exact ⟨by simp, rfl, rfl, fun _ _ => rfl⟩
  | cons var rest ih =>
    rw [mapM_cons] at done
    obtain ⟨here, middle, first, done⟩ := bind_ok.mp done
    obtain ⟨others, last, later, done⟩ := bind_ok.mp done
    obtain ⟨rfl, rfl⟩ := pure_ok.mp done
    obtain ⟨fresh, distinct⟩ := nodup_cons.mp distinct
    have given := resourceArguments_ok table (new var (by simp)) first
    have untabled : c.Untabled middle := Keeps.keeps first
    obtain ⟨program, options, _⟩ := untabled table
    have rest := ih (options ▸ table) distinct
      (fun other member => by
        have differs : other ≠ var := fun same => fresh (same ▸ member)
        rw [given.given other (by simpa using differs)]
        exact new other (by simp [member])) later
    rw [flatten_cons]
    refine ⟨fun argument listed => ?_, ?_, ?_, fun other outside => ?_⟩
    · rcases mem_append.mp listed with listed | listed
      · exact given.labelled argument listed
      · exact rest.labelled argument listed
    · rw [filterMap_append, given.slots, rest.slots, given.next, program]
      simp only [Program.slotsFrom, Program.countedSlots]
      cases c.program.binding? var <;> simp
    · rw [rest.next, given.next, program]
      simp only [Program.countedSlots]
      omega
    · rw [mem_cons, not_or] at outside
      obtain ⟨differs, outside⟩ := outside
      rw [rest.given other outside, given.given other (by simpa using differs)]

theorem builtinAttribute_unlike {builtin : Spirv.BuiltIn} {mark : String}
    (spelled : c.builtinAttribute builtin = .ok mark) :
    ' ' ∉ mark.toList ∧ ¬ "buffer(".toList <+: mark.toList := by
  obtain ⟨point, _, spelled⟩ := Except.bind_ok.mp spelled
  dsimp only at spelled
  split at spelled
  all_goals
    try cases spelled
    try decide
  · split at spelled
    · cases spelled
      decide
    · split at spelled <;> cases spelled <;> decide
  · obtain ⟨_, _, spelled⟩ := Except.bind_ok.mp spelled
    cases spelled
    decide

def argumentsBehind (c : Compiler) (front : List String) : Emit (List String) := do
  let resources ← (c.activeWith StorageClass.isBuffer).mapM resourceArguments
  let sorted := sortBy ResourceArgument.before resources.flatten
  let c ← get
  let builtins ← c.builtinArguments.mapM fun (var, builtin) => do
    let type ← c.builtinType builtin
    return s!"{type} {c.program.plainName var} [[{← c.builtinAttribute builtin}]]"
  let capture ←
    match c.capturesOutput, c.plan.stageOut with
    | true, some out =>
      pure [
        s!"device {← c.structNameOf out}* spvOut [[buffer({c.options.outputBufferIndex})]]",
        "device uint* spvIndirectParams " ++
          s!"[[buffer({c.options.indirectParamsBufferIndex})]]"]
    | _, _ => pure []
  return front ++ sorted.map (·.text) ++ builtins ++ capture

theorem entryArguments_front {arguments : List String}
    (done : entryArguments c = .ok arguments c') :
    ∃ front, argumentsBehind c front c = .ok arguments c' ∧
      ∀ argument ∈ front, Labels argument none := by
  replace done := get_bind.mp done
  dsimp only at done
  cases planned : c.plan.stageIn with
  | some stageIn =>
    simp only [planned] at done
    obtain ⟨name, _, done⟩ := lift_bind.mp done
    obtain ⟨front, _, staged, done⟩ := bind_ok.mp done
    obtain ⟨rfl, rfl⟩ := pure_ok.mp staged
    refine ⟨_, done, fun argument listed => ?_⟩
    obtain rfl := mem_singleton.mp listed
    have split (declaration : String) :
        declaration ++ " [[stage_in]]" = declaration ++ " [[" ++ "stage_in" ++ "]]" :=
      String.toList_inj.mp (by simp)
    have plain (declaration : String) : Labels (declaration ++ " [[stage_in]]") none := by
      rw [split]
      exact labels_none (by decide) (by decide)
    exact plain _
  | none =>
    simp only [planned] at done
    obtain ⟨front, _, staged, done⟩ := bind_ok.mp done
    obtain ⟨rfl, rfl⟩ := pure_ok.mp staged
    exact ⟨_, done, by simp⟩

theorem entryArguments_ok {arguments : List String} (table : c.options.resourceBindings = [])
    (uncaptured : c.capturesOutput = false) (done : entryArguments c = .ok arguments c') :
    ∃ resources middle front back,
      (c.activeWith StorageClass.isBuffer).mapM resourceArguments c = .ok resources middle ∧
      arguments = front ++ (sortBy ResourceArgument.before resources.flatten).map (·.text) ++ back ∧
      (∀ argument ∈ front, Labels argument none) ∧ ∀ argument ∈ back, Labels argument none := by
  obtain ⟨front, done, unlike⟩ := entryArguments_front done
  obtain ⟨resources, middle, mapping, done⟩ := bind_ok.mp done
  replace done := get_bind.mp done
  obtain ⟨builtins, _, spelling, done⟩ := bind_ok.mp done
  have untabled : c.Untabled middle := Keeps.keeps mapping
  obtain ⟨_, options, plan⟩ := untabled table
  have still : middle.capturesOutput = false := by
    rw [← uncaptured, Compiler.capturesOutput, Compiler.capturesOutput, options, plan]
  simp only [still] at done
  obtain ⟨capture, _, captured, done⟩ := bind_ok.mp done
  obtain ⟨rfl, rfl⟩ := pure_ok.mp captured
  obtain ⟨rfl, rfl⟩ := pure_ok.mp done
  refine ⟨resources, middle, front, builtins, mapping, append_nil _, unlike, ?_⟩
  refine (Yields.mapM_all fun entry => ?_).of_run spelling
  obtain ⟨var, builtin⟩ := entry
  refine .andThen fun type => .bind ⟨fun {c a c'} lifted => (lift_ok.mp lifted).1⟩ fun mark spelled =>
    .pure ?_
  obtain ⟨solid, other⟩ := builtinAttribute_unlike spelled
  exact labels_none solid other

end Emit

end SpirvMetal
