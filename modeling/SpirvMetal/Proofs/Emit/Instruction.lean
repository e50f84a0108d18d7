import SpirvMetal.Metal.Compile
import SpirvMetal.Proofs.Emit.Always

/-!
What instructions and the other parts of a pass leave alone. Most instructions are quiet.
-/

-- The instances for a step are as long as the step.
set_option synthInstance.maxSize 8192

namespace SpirvMetal.Emit

open Spirv (GlslOp Decoration)
open Always (andThen onward)

variable {relation : Compiler → Compiler → Prop}

namespace Always

section

variable [AllowsLines relation] {inst : Instruction} {operation : Emit String}

instance checkCopyTarget (pointer : Id) : Always relation (checkCopyTarget pointer) := by
  simp only [Emit.checkCopyTarget]
  repeat refine onward fun _ => ?_
  split <;> infer_instance

instance store (inst : Instruction) : Always relation (store inst) := by
  simp only [Emit.store, Emit.copyArray]
  infer_instance

instance copyMemory (inst : Instruction) : Always relation (copyMemory inst) := by
  simp only [Emit.copyMemory, Emit.copyArray]
  repeat refine onward fun _ => ?_
  split <;> infer_instance

instance loadArray (typeId result pointer : Id) (type : ValueType) (source : String) :
    Always relation (loadArray typeId result pointer type source) := by
  simp only [Emit.loadArray, Emit.copyArray]
  repeat refine onward fun _ => ?_
  split <;> infer_instance

instance compositeConstruct (inst : Instruction) : Always relation (compositeConstruct inst) := by
  simp only [Emit.compositeConstruct, Emit.constructArray, Emit.arrayOfArrays]
  repeat' first | infer_instance | refine onward fun _ => ?_ | split

instance compositeExtract (inst : Instruction) : Always relation (compositeExtract inst) := by
  simp only [Emit.compositeExtract]
  repeat refine onward fun _ => ?_
  split <;> infer_instance

instance matrixVector (inst : Instruction) : Always relation (matrixVector inst) := by
  simp only [Emit.matrixVector]
  repeat refine onward fun _ => ?_
  split <;> infer_instance

instance conversion (inst : Instruction) (kind : Conversion) :
    Always relation (conversion inst kind) := by
  simp only [Emit.conversion]
  repeat refine onward fun _ => ?_
  split <;> infer_instance

theorem binaryOperation? (found : binaryOperation? inst = some operation) :
    Always relation operation := by
  simp only [Emit.binaryOperation?] at found
  split at found <;> simp only [Option.some.injEq, reduceCtorEq] at found <;> subst found <;>
    infer_instance

theorem plainOperation? (found : plainOperation? inst = some operation) :
    Always relation operation := by
  simp only [Emit.plainOperation?] at found
  split at found <;> simp only [Option.some.injEq, reduceCtorEq] at found <;> subst found <;>
    infer_instance

instance arithmetic (inst : Instruction) : Always relation (arithmetic inst) := by
  simp only [Emit.arithmetic, Emit.outerProduct, Emit.select, Emit.bitField]
  split
  · exact binaryOperation? ‹_›
  · exact plainOperation? ‹_›
  · split <;> infer_instance

theorem scalarGeometry? {arguments : List Id} {op : GlslOp}
    (found : scalarGeometry? inst arguments op = some operation) : Always relation operation := by
  simp only [Emit.scalarGeometry?] at found
  split at found <;> simp only [Option.some.injEq, reduceCtorEq] at found <;> subst found <;>
    infer_instance

instance startsWithScalar (arguments : List Id) : Always relation (startsWithScalar arguments) := by
  simp only [Emit.startsWithScalar]
  split <;> infer_instance

instance extendedText (inst : Instruction) (op : GlslOp) (type : Id) (arguments : List Id) :
    Always relation (extendedText inst op type arguments) := by
  simp only [Emit.extendedText, Emit.integerFunction, Emit.matrixInverse]
  refine onward fun scalar => ?_
  split
  · rename_i geometry
    split at geometry
    · exact scalarGeometry? geometry
    · cases geometry
  · infer_instance
  · infer_instance
  · split <;> infer_instance

instance extended (inst : Instruction) : Always relation (extended inst) := by
  simp only [Emit.extended]
  repeat' first | infer_instance | refine onward fun _ => ?_ | split

instance functionCall (inst : Instruction) : Always relation (functionCall inst) := by
  simp only [Emit.functionCall]
  infer_instance

instance barrier (executionScope : Option Id) (memoryScope semantics : Id) :
    Always relation (barrier executionScope memoryScope semantics) := by
  simp only [Emit.barrier]
  repeat' first | infer_instance | refine onward fun _ => ?_ | split

instance controlBarrier (inst : Instruction) : Always relation (controlBarrier inst) := by
  simp only [Emit.controlBarrier]
  infer_instance

instance memoryBarrier (inst : Instruction) : Always relation (memoryBarrier inst) := by
  simp only [Emit.memoryBarrier]
  infer_instance

instance atomicTarget (pointer : Id) : Always relation (atomicTarget pointer) := by
  simp only [Emit.atomicTarget]
  repeat refine onward fun _ => ?_
  split <;> infer_instance

instance compareExchange (inst : Instruction) (target : String) :
    Always relation (compareExchange inst target) := by
  simp only [Emit.compareExchange]
  infer_instance

instance atomic (inst : Instruction) : Always relation (atomic inst) := by
  simp only [Emit.atomic]
  repeat' first | infer_instance | refine onward fun _ => ?_ | split

instance value (inst : Instruction) : Always relation (value inst) := by
  simp only [Emit.value, Emit.compositeInsert, Emit.vectorShuffle, Emit.vectorExtract,
    Emit.vectorInsert]
  repeat refine onward fun _ => ?_
  split <;> infer_instance

instance imageSize (inst : Instruction) : Always relation (imageSize inst) := by
  simp only [Emit.imageSize]
  infer_instance

instance imageCount (inst : Instruction) (method : String) :
    Always relation (imageCount inst method) := by
  simp only [Emit.imageCount]
  infer_instance

end

section

variable [AllowsInstructions relation]

theorem note {change : Pass → Pass} (same : ∀ pass, (change pass).lines = pass.lines ∧
      (change pass).depth = pass.depth ∧ (change pass).slotting = pass.slotting) :
    Always relation (modifyPass change) := modify fun c =>
  AllowsInstructions.notes (same c.pass).1 (same c.pass).2.1 (same c.pass).2.2

theorem discover {add : Session → Bool × Session} {extra : Session} (adds : Session.Adds add extra)
    (helpers : ∀ session, ∀ helper ∈ (add session).2.helpers,
      helper ∈ session.helpers ∨ helper.Converts) : Always relation (discover add) :=
  modify fun c => AllowsInstructions.discovers (adds.grows c.session) (helpers c.session)

instance requirePragma (line : String) : Always relation (requirePragma line) :=
  discover (Session.adds_pragma line) fun _ _ => .inl

instance requireTypedef (line : String) : Always relation (requireTypedef line) :=
  discover (Session.adds_typedef line) fun _ _ => .inl

theorem requireHelper {columns rows : Nat} {helper : Helper}
    (found : Helper.rowMajor? columns rows = some helper) :
    Always relation (requireHelper helper) := by
  refine andThen (discover (Session.adds_helper helper) fun session other member => ?_) inferInstance
  simp only [Session.addHelper, Session.mem_foldl_insertAscending] at member
  refine member.symm.imp_right fun closed => ?_
  rw [Helper.closure_rowMajor found, List.mem_singleton] at closed
  exact ⟨columns, rows, closed ▸ found⟩

instance setBacking (result source : Id) : Always relation (setBacking result source) := by
  simp only [Emit.setBacking]
  refine onward fun _ => ?_
  split
  · exact note fun _ => ⟨rfl, rfl, rfl⟩
  · infer_instance

instance forward (result source : Id) (text : String) :
    Always relation (forward result source text) := by
  simp only [Emit.forward]
  exact onward fun _ => onward fun _ =>
    note fun _ => ⟨rfl, rfl, rfl⟩

instance loadRowMajor (typeId result : Id) (type : ValueType) (source : String) (packed : Bool) :
    Always relation (loadRowMajor typeId result type source packed) := by
  simp only [Emit.loadRowMajor]
  split
  · repeat refine onward fun _ => ?_
    exact note fun _ => ⟨rfl, rfl, rfl⟩
  · split
    · infer_instance
    · exact andThen (requireHelper ‹_›) inferInstance

instance load (inst : Instruction) : Always relation (load inst) := by
  simp only [Emit.load]
  repeat refine onward fun _ => ?_
  infer_instance

instance accessChain (inst : Instruction) (fromPointer : Bool) :
    Always relation (accessChain inst fromPointer) := by
  simp only [Emit.accessChain]
  repeat refine onward fun _ => ?_
  split
  · refine andThen (note fun _ => ⟨rfl, rfl, rfl⟩) fun _ => ?_
    split
    · exact note fun _ => ⟨rfl, rfl, rfl⟩
    · infer_instance
  · split
    · exact note fun _ => ⟨rfl, rfl, rfl⟩
    · infer_instance

theorem noteImageAccess (image : Id) {restriction : Decoration}
    (restricts : restriction.restrictsAccess = true) :
    Always relation (noteImageAccess image restriction) := by
  have opened (var : Id) : Always relation (do
      modifyProgram (·.unsetDecoration var restriction)
      modifyPass ({ · with stale := true })) := ⟨fun _ => AllowsInstructions.opens restricts⟩
  simp only [Emit.noteImageAccess]
  refine onward fun _ => ?_
  split <;> infer_instance

instance imageAccess (inst : Instruction) : Always relation (imageAccess inst) := by
  have noted (image : Id) : Always relation (Emit.noteImageAccess image .nonReadable) :=
    noteImageAccess image rfl
  simp only [Emit.imageAccess]
  infer_instance

instance imageWrite (inst : Instruction) : Always relation (imageWrite inst) := by
  have noted (image : Id) : Always relation (Emit.noteImageAccess image .nonWritable) :=
    noteImageAccess image rfl
  simp only [Emit.imageWrite]
  repeat' first | infer_instance | refine onward fun _ => ?_ | split

instance sampledImage (inst : Instruction) : Always relation (sampledImage inst) := by
  have noted (result image sampler : Id) : Always relation (Emit.modifyPass fun pass =>
      { pass with sampledImages := pass.sampledImages.insert result (image, sampler) }) :=
    note fun _ => ⟨rfl, rfl, rfl⟩
  simp only [Emit.sampledImage]
  infer_instance

instance image (inst : Instruction) : Always relation (image inst) := by
  simp only [Emit.image, Emit.imageOf]
  split <;> infer_instance

instance lower (inst : Instruction) : Always relation (lower inst) := by
  simp only [Emit.lower, Emit.copyObject]
  split <;> infer_instance

instance instruction (inst : Instruction) : Always relation (instruction inst) :=
  onward fun _ => note fun _ => ⟨rfl, rfl, rfl⟩

end

end Always

namespace Advancing

variable {restriction : Decoration}

theorem modifyPass {change : Pass → Pass}
    (lines : ∀ pass, pass.lines.toList <+: (change pass).lines.toList) :
    Advancing (modifyPass change) where
  keeps done := by
    obtain rfl := modifyPass_ok.mp done
    exact { Compiler.Advances.refl _ with lines := lines _ }

theorem discover {add : Session → Bool × Session} {extra : Session}
    (adds : Session.Adds add extra) : Advancing (discover add) where
  keeps {c _ _} done := by
    obtain rfl := modify_ok.mp done
    exact { Compiler.Advances.refl _ with session := adds.grows c.session }

theorem noteImageAccess_cases {image : Id} {c c' : Compiler} {u : Unit}
    (done : Emit.noteImageAccess image restriction c = .ok u c') :
    (c' = c ∧ ∀ var, c.backingVariable? image = some var →
      c.program.hasDecoration (c.baseVariable var) restriction = false) ∨
    ∃ var, c.backingVariable? image = some var ∧
      c.program.hasDecoration (c.baseVariable var) restriction = true ∧
      c' = { c with
        program := c.program.unsetDecoration (c.baseVariable var) restriction
        pass := { c.pass with stale := true } } := by
  have rest := get_bind.mp done
  cases found : c.backingVariable? image with
  | none =>
    simp only [found, pure_ok] at rest
    exact .inl ⟨rest.2.symm, by simp⟩
  | some var =>
    simp only [found] at rest
    split at rest
    · rename_i closed
      obtain ⟨_, middle, opened, marked⟩ := bind_ok.mp rest
      obtain rfl := modifyProgram_ok.mp opened
      obtain rfl := modifyPass_ok.mp marked
      exact .inr ⟨var, rfl, closed, rfl⟩
    · rename_i isOpen
      obtain ⟨_, rfl⟩ := pure_ok.mp rest
      refine .inl ⟨rfl, ?_⟩
      simpa using isOpen

theorem noteImageAccess (image : Id) (restricts : restriction.restrictsAccess = true) :
    Advancing (noteImageAccess image restriction) :=
  have : Always Compiler.Advances (Emit.noteImageAccess image restriction) :=
    .noteImageAccess image restricts
  inferInstance

end Advancing

open Compiler (Advances Writes)

namespace Always

section

variable [AllowsLines relation]

instance assign (target value : String) : Always relation (assign target value) := by
  simp only [Emit.assign]
  infer_instance

instance returnFrom (value : Option Id) (last : Bool) : Always relation (returnFrom value last) := by
  simp only [Emit.returnFrom]
  split <;> infer_instance

instance condition (id : Id) (expected : Bool) : Always relation (condition id expected) := by
  simp only [Emit.condition]
  infer_instance

instance hoist (id : Id) : Always relation (hoist id) := by
  simp only [Emit.hoist]
  repeat' first | infer_instance | refine onward fun _ => ?_ | split

instance setHoisted (hoisted : List Id) : Always relation (modifyPass ({ · with hoisted })) :=
  addText fun _ => .same rfl rfl rfl rfl rfl rfl rfl

instance forgetTransposed : Always relation (modifyPass ({ · with transposed := ∅ })) :=
  addText fun _ => .same rfl rfl rfl rfl rfl rfl rfl

instance fixup (found : Fixup) [∀ var, Always relation (slot var .texture)] :
    Always relation (fixup found) := by
  cases found <;> simp only [Emit.fixup, Emit.copyOut] <;>
    repeat' first | infer_instance | refine onward fun _ => ?_ | split

instance returnFromEntry (last : Bool) [∀ var, Always relation (slot var .texture)] :
    Always relation (returnFromEntry last) := by
  simp only [Emit.returnFromEntry, Emit.positionFixups]
  repeat' first | infer_instance | refine onward fun _ => ?_ | split

end

section

variable [AllowsText relation]

instance scope (part : Emit Unit) [Always relation part] : Always relation (scope part) := by
  simp only [Emit.scope]
  infer_instance

instance localVariable (id : Id) : Always relation (localVariable id) := by
  simp only [Emit.localVariable]
  repeat' first | infer_instance | refine onward fun _ => ?_ | split

instance enterFunction (current : Option Id) :
    Always relation (modifyPass ({ · with currentFunction := current })) :=
  addText fun _ => .same rfl rfl rfl rfl rfl rfl rfl

instance bufferArray (var : Id) : Always relation (bufferArray var) := by
  simp only [Emit.bufferArray]
  infer_instance

instance bufferArrays : Always relation bufferArrays := by
  simp only [Emit.bufferArrays]
  infer_instance

instance distinguish (function : Id)
    [∀ id name, Always relation (modifyProgram (·.setName id name))] :
    Always relation (distinguish function) := by
  simp only [Emit.distinguish]
  infer_instance

instance specConstant (id : Id) : Always relation (specConstant id) := by
  simp only [Emit.specConstant, Emit.derivedConstant]
  repeat' first | infer_instance | refine onward fun _ => ?_ | split

instance lookupTable (id : Id) : Always relation (lookupTable id) := by
  simp only [Emit.lookupTable, Emit.table]
  repeat refine onward fun _ => ?_
  split <;> infer_instance

instance moduleConstants : Always relation moduleConstants := by
  simp only [Emit.moduleConstants, Emit.table, Emit.undefinedValue]
  infer_instance

instance helpers : Always relation helpers := by
  simp only [Emit.helpers]
  infer_instance

instance paragraph (lines : List String) : Always relation (paragraph lines) := by
  simp only [Emit.paragraph]
  infer_instance

end

section

variable [AllowsInstructions relation]

instance block (found : Block) : Always relation (block found) :=
  andThen inferInstance inferInstance

variable [AllowsText relation]

instance memberTypeName (struct index member : Nat) (type : ValueType) :
    Always relation (memberTypeName struct index member type) := by
  simp only [Emit.memberTypeName]
  repeat' first | infer_instance | refine onward fun _ => ?_ | split

instance structMember (struct index member : Nat) (isInterface : Bool) :
    Always relation (structMember struct index member isInterface) := by
  simp only [Emit.structMember]
  infer_instance

instance struct (id : Id) : Always relation (struct id) := by
  simp only [Emit.struct]
  infer_instance

instance constantOrStruct (constantsOpen : Bool) (id : Id) :
    Always relation (constantOrStruct constantsOpen id) := by
  simp only [Emit.constantOrStruct]
  repeat' first | infer_instance | refine onward fun _ => ?_ | split

instance constantsAndStructs : Always relation constantsAndStructs := by
  simp only [Emit.constantsAndStructs]
  infer_instance

instance interfaceStruct (var : Id) : Always relation (interfaceStruct var) := by
  simp only [Emit.interfaceStruct]
  infer_instance

instance header : Always relation header := by
  have marked : Always relation (modifyPass ({ · with headerWritten := true })) :=
    note fun _ => ⟨rfl, rfl, rfl⟩
  simp only [Emit.header]
  infer_instance

instance listing (blocks : List Block) (code : Listing)
    [∀ var, Always relation (slot var .texture)] : Always relation (listing blocks code) := by
  induction code <;> simp only [Emit.listing] <;> infer_instance

instance body (function : Id) [∀ var, Always relation (slot var .texture)] :
    Always relation (body function) := by
  simp only [Emit.body]
  repeat refine onward fun _ => ?_
  split <;> infer_instance

end

section

variable {relation : Compiler → Compiler → Prop} [AllowsSlots relation]

theorem allot {change : Pass → Pass} (adds : ∀ pass, Pass.AddsSlots pass (change pass)) :
    Always relation (modifyPass change) := modify fun c => AllowsSlots.slots (adds c.pass)

instance takeSlot (kind : SlotKind) (count : Nat) : Always relation (takeSlot kind count) := by
  simp only [Emit.takeSlot]
  refine onward fun _ => ?_
  split <;> exact andThen (allot fun _ => ⟨rfl, rfl, rfl, rfl, rfl, rfl⟩) inferInstance

instance allocateSlot (var : Id) (kind : SlotKind) : Always relation (allocateSlot var kind) := by
  refine look fun c => ?_
  rw [leaves_lift]
  cases c.program.getVariable var with
  | error => exact Std.Refl.refl c
  | ok stored =>
    dsimp only
    generalize (if stored.storage = .pushConstant then _ else _ : Nat × Nat) = place
    obtain ⟨descriptorSet, binding⟩ := place
    dsimp only
    split
    · -- only the table of bindings, which is part of the options, is written
      rename_i found
      cases kind <;> exact AllowsSlots.marks (List.mem_of_find?_eq_some found)
    · exact always c

instance slot (var : Id) (kind : SlotKind) : Always relation (slot var kind) := by
  simp only [Emit.slot]
  refine onward fun _ => ?_
  split
  · infer_instance
  · refine onward fun _ => andThen ?_ inferInstance
    exact allot fun _ => ⟨rfl, rfl, rfl, rfl, rfl, rfl⟩

instance resourceArguments (var : Id) : Always relation (resourceArguments var) := by
  simp only [Emit.resourceArguments, Emit.bufferArguments, Emit.textureArguments,
    Emit.samplerArguments]
  repeat refine onward fun _ => ?_
  split <;> infer_instance

instance entryArguments : Always relation entryArguments := by
  simp only [Emit.entryArguments]
  repeat' first | infer_instance | refine onward fun _ => ?_ | split

instance entrySignature : Always relation entrySignature := by
  simp only [Emit.entrySignature]
  repeat' first | infer_instance | refine onward fun _ => ?_ | split

end

instance rename (id : Id) (name : String) : Always Writes (modifyProgram (·.setName id name)) :=
  modify fun _ => ⟨Program.alike_setName .., fun _ _ => Program.hasDecoration_setName .., rfl, rfl,
    rfl, rfl, rfl, rfl, List.prefix_refl _⟩

class AllowsFunctions (relation : Compiler → Compiler → Prop) : Prop extends
    AllowsInstructions relation, AllowsSlots relation, AllowsText relation where
  renames {c : Compiler} {id : Id} {name : String} :
    relation c { c with program := c.program.setName id name }

instance : AllowsFunctions Advances where
  slots adds := (AllowsSlots.slots adds : Writes ..).advances
  marks found := (AllowsSlots.marks found : Writes ..).advances
  renames {c id name} := ((rename id name).always c : Writes ..).advances

section

variable {relation : Compiler → Compiler → Prop} [AllowsFunctions relation]

instance function (id : Id) : Always relation (function id) := by
  have renamed (id : Id) (name : String) : Always relation (modifyProgram (·.setName id name)) :=
    modify fun _ => AllowsFunctions.renames
  simp only [Emit.function]
  repeat' first | infer_instance | refine onward fun _ => ?_ | split

instance contents : Always relation contents := by
  simp only [Emit.contents]
  infer_instance

end

end Always

end SpirvMetal.Emit
