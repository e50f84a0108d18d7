import SpirvMetal.Proofs.Calls.Agreement
import SpirvMetal.Proofs.Helpers.Announced

/-!
The calls of helper functions in the text of an instruction.
-/

set_option synthInstance.maxSize 2048

namespace SpirvMetal

open Compiler
open List
open Spirv (Op GlslOp)
open HelperDefinition (CopySource copyName)

variable {name : String} {inst : Instruction}

/-- A text that calls a function, maybe with arguments for a template. -/
def Invokes (name text : String) : Prop :=
  ∃ before opening after, (opening = "(" ∨ opening = "<") ∧
    text = before ++ name ++ opening ++ after

namespace Invokes

variable {name text : String}
variable {arguments : List String}

theorem within (invokes : Invokes name text) (front back : String) :
    Invokes name (front ++ text ++ back) := by
  obtain ⟨before, opening, after, opens, rfl⟩ := invokes
  exact ⟨front ++ before, opening, after ++ back, opens, by simp only [String.append_assoc]⟩

theorem callee (name : String) (arguments : List String) : Invokes name (applied name arguments) :=
  ⟨"", "(", ", ".intercalate arguments ++ ")", .inl rfl, by
    simp only [applied, String.append_assoc, String.empty_append]⟩

theorem intercalate {separator argument : String} (invokes : Invokes name argument)
    (member : argument ∈ arguments) : Invokes name (separator.intercalate arguments) := by
  induction arguments with
  | nil => cases member
  | cons first rest ih =>
    cases rest with
    | nil =>
      obtain rfl := mem_singleton.mp member
      simpa using invokes
    | cons second rest =>
      rw [String.intercalate_cons_cons]
      rcases mem_cons.mp member with rfl | later
      · have := invokes.within "" (separator ++ separator.intercalate (second :: rest))
        simpa only [String.empty_append, String.append_assoc] using this
      · have := (ih later).within (first ++ separator) ""
        simpa only [String.append_empty] using this

theorem argument {callee argument : String} (invokes : Invokes name argument)
    (member : argument ∈ arguments) : Invokes name (applied callee arguments) :=
  (invokes.intercalate member).within (callee ++ "(") ")"

end Invokes

def Compiler.WritesHelperCall (name : String) (before after : Compiler) : Prop :=
  ∃ front line, before.pass.lines.toList <+: front ∧ front ++ [line] <+: after.pass.lines.toList ∧
    Invokes name line.text

theorem Compiler.WritesHelperCall.within {first before after last : Compiler}
    (writes : WritesHelperCall name before after) (earlier : first.Advances before)
    (later : after.Advances last) : WritesHelperCall name first last := by
  obtain ⟨front, line, starts, ends, invokes⟩ := writes
  exact ⟨front, line, earlier.lines.trans starts, ends.trans later.lines, invokes⟩

def AddressSpace.copySource (space : AddressSpace) : CopySource :=
  if space = .constant then .constant else .stack

def Spirv.Op.accessesImage (op : Op) : Bool := op.isSample || op = .imageRead || op = .imageWrite

/-- The helper functions that an instruction calls in the state in which it is written: one case for
each place where its text is given the name of one. That there are no other such places is not
proved; a name in the module can be spelled like that of a helper. -/
inductive Calls (c : Compiler) (inst : Instruction) : Helper → String → Prop
  | loadArray {type : ValueType} {pointer : Id} {space : AddressSpace} (op : inst.op = .load)
      (typed : c.program.resultType? inst = some type) (plain : type.isOpaque = false)
      (isArray : type.isArray = true) (pointed : inst.word? 2 = some pointer)
      (placed : c.pointerSpace pointer = .ok space) :
      Calls c inst (.arrayCopy type.dimensions.length)
        (copyName space.copySource type.dimensions.length)
  | loadRowMajor {type : ValueType} {pointer : Id} {helper : Helper} (op : inst.op = .load)
      (typed : c.program.resultType? inst = some type) (plain : type.isOpaque = false)
      (isMatrix : type.isMatrix = true) (pointed : inst.word? 2 = some pointer)
      (byRows : pointer ∈ c.pass.rowMajor)
      (loose : pointer ∉ c.pass.packed)
      (found : Helper.rowMajor? type.columns type.components = some helper) :
      Calls c inst helper s!"spvConvertFromRowMajor{type.columns}x{type.components}"
  | storeArray {type : ValueType} {value : Id} (op : inst.op = .store)
      (stored : inst.word? 1 = some value) (typed : c.program.expressionType value = .ok type)
      (isArray : type.isArray = true) :
      Calls c inst (.arrayCopy type.dimensions.length)
        (copyName (Emit.arraySource c value) type.dimensions.length)
  | copyMemory {pointer target source data : Id} {type : ValueType} {space : AddressSpace}
      (op : inst.op = .copyMemory) (written : inst.word? 0 = some target)
      (read : inst.word? 1 = some source) (typed : c.program.typeOf? target = some pointer)
      (pointed : c.program.pointee pointer = .ok (data, type)) (isArray : type.isArray = true)
      (placed : c.pointerSpace source = .ok space) :
      Calls c inst (.arrayCopy type.dimensions.length)
        (copyName space.copySource type.dimensions.length)
  | constructArray {typeId : Id} {type element : ValueType} (op : inst.op = .compositeConstruct)
      (named : inst.word? 0 = some typeId) (typed : c.program.getType typeId = .ok type)
      (isArray : type.isArray = true)
      (inner : c.program.getType (type.parent.getD typeId) = .ok element)
      (nested : element.isArray = true) :
      Calls c inst (.arrayCopy element.dimensions.length)
        (copyName .stack element.dimensions.length)
  | remainder (op : inst.op = .fMod) : Calls c inst .mod "mod"
  | extended {typeId imported number : Nat} {op : GlslOp} {helper : Helper} {name : String}
      (code : inst.op = .extInst) (typed : inst.word? 0 = some typeId)
      (fromSet : inst.word? 2 = some imported)
      (known : c.program.importedSetAt? imported = some .glslStd450)
      (numbered : inst.word? 3 = some number) (decoded : GlslOp.ofCode? number = some op)
      (found : op.helper? = some helper)
      (named : op.function? = some name ∨ op.integerFunction?.map (·.1) = some name) :
      Calls c inst helper name
  | inverse {typeId imported number : Nat} {type : ValueType} {helper : Helper}
      (code : inst.op = .extInst) (named : inst.word? 0 = some typeId)
      (typed : c.program.getType typeId = .ok type) (fromSet : inst.word? 2 = some imported)
      (known : c.program.importedSetAt? imported = some .glslStd450)
      (numbered : inst.word? 3 = some number)
      (decoded : GlslOp.ofCode? number = some .matrixInverse)
      (found : Helper.inverse? type.columns = some helper) :
      Calls c inst helper s!"spvInverse{type.columns}x{type.columns}"
  | texelBuffer {image : Id} {info : ImageInfo} (accesses : inst.op.accessesImage = true)
      (imaged : inst.image? = some image) (found : c.imageInfo image = .ok info)
      (isBuffer : info.dim = .dimBuffer) :
      Calls c inst .texelBufferCoords "spvTexelBufferCoord"
  | sample {image type : Id} (reads : inst.op.isSample = true ∨ inst.op = .imageRead)
      (plain : inst.op.isComparison = false ∧ inst.op.isGather = false)
      (imaged : inst.word? 2 = some image) (typed : c.program.typeOf? image = some type)
      (swizzled : c.needsSwizzle type = .ok true) :
      Calls c inst .textureSwizzle "spvTextureSwizzle"
  | gather {image type : Id} (gathers : inst.op.isGather = true)
      (imaged : inst.word? 2 = some image) (typed : c.program.typeOf? image = some type)
      (swizzled : c.needsSwizzle type = .ok true) :
      Calls c inst .textureSwizzle
        (if inst.op.isComparison then "spvGatherCompareSwizzle" else "spvGatherSwizzle")

def Helper.Defines (helper : Helper) (name : String) : Prop :=
  ∀ width registered, ∃ definition ∈ helper.definitions width registered, definition.name = name

namespace Helper.Defines

theorem arrayCopy (source : CopySource) (depth : Nat) :
    (Helper.arrayCopy depth).Defines (copyName source depth) := by
  intro width registered
  refine ⟨HelperDefinition.arrayCopy depth source, ?_, ?_⟩
  · cases source <;> simp [Helper.definitions]
  · unfold HelperDefinition.arrayCopy
    split
    · rename_i plain
      rw [plain]
      rfl
    · rfl

variable {helper : Helper}

theorem rowMajor {columns rows : Nat} (found : Helper.rowMajor? columns rows = some helper) :
    helper.Defines s!"spvConvertFromRowMajor{columns}x{rows}" := by
  intro width registered
  unfold Helper.rowMajor? at found
  split at found <;> cases found <;> exact ⟨_, mem_singleton.mpr rfl, rfl⟩

theorem inverse {columns : Nat} (found : Helper.inverse? columns = some helper) :
    helper.Defines s!"spvInverse{columns}x{columns}" := by
  intro width registered
  unfold Helper.inverse? at found
  split at found <;> cases found
  · exact ⟨HelperDefinition.inverse 2, by simp [Helper.definitions], rfl⟩
  · refine ⟨HelperDefinition.inverse 3, ?_, rfl⟩
    simp only [Helper.definitions]
    split <;> simp
  · exact ⟨HelperDefinition.inverse 4, by simp [Helper.definitions], rfl⟩

theorem extended {op : GlslOp} {name : String} (found : op.helper? = some helper)
    (named : op.function? = some name ∨ op.integerFunction?.map (·.1) = some name) :
    helper.Defines name := by
  intro width registered
  unfold GlslOp.helper? at found
  split at found <;> cases found <;> rcases named with named | named <;> cases named <;>
    exact ⟨_, mem_singleton.mpr rfl, rfl⟩

theorem sample : Helper.textureSwizzle.Defines "spvTextureSwizzle" :=
  fun _ _ => ⟨HelperDefinition.textureSwizzle,
    by simp [Helper.definitions, HelperDefinition.swizzle], rfl⟩

theorem gather (compares : Bool) : Helper.textureSwizzle.Defines
    (if compares then "spvGatherCompareSwizzle" else "spvGatherSwizzle") := by
  intro width registered
  cases compares
  · exact ⟨HelperDefinition.gatherSwizzle,
      by simp [Helper.definitions, HelperDefinition.swizzle], rfl⟩
  · exact ⟨HelperDefinition.gatherCompareSwizzle,
      by simp [Helper.definitions, HelperDefinition.swizzle], rfl⟩

end Helper.Defines

variable {c : Compiler} {helper : Helper}

theorem Calls.defines (calls : Calls c inst helper name) : helper.Defines name := by
  induction calls with
  | loadArray | storeArray | copyMemory | constructArray => exact .arrayCopy _ _
  | loadRowMajor _ _ _ _ _ _ _ found => exact .rowMajor found
  | remainder => exact fun _ _ => ⟨_, mem_singleton.mpr rfl, rfl⟩
  | extended _ _ _ _ _ _ found named => exact .extended found named
  | inverse _ _ _ _ _ _ _ found => exact .inverse found
  | texelBuffer => exact fun _ _ => ⟨_, mem_singleton.mpr rfl, rfl⟩
  | sample => exact .sample
  | gather => exact .gather _

/-- Calls that the scan of their instruction does not foresee: copies between two memories; arrays
that are built from parts of no less depth; texel buffers that are sampled; and texel buffers whose
type leaves it to another one to say so. -/
inductive Escapes (c : Compiler) (inst : Instruction) : Helper → Prop
  | copyMemory {depth : Nat} (op : inst.op = .copyMemory) : Escapes c inst (.arrayCopy depth)
  | constructArray {typeId : Id} {type element : ValueType} (op : inst.op = .compositeConstruct)
      (named : inst.word? 0 = some typeId) (typed : c.program.getType typeId = .ok type)
      (inner : c.program.getType (type.parent.getD typeId) = .ok element)
      (deep : type.dimensions.length ≤ element.dimensions.length) :
      Escapes c inst (.arrayCopy element.dimensions.length)
  | sampledBuffer (samples : inst.op.isSample = true) (plain : inst.op ≠ .imageFetch) :
      Escapes c inst .texelBufferCoords
  | untypedBuffer {image : Id} {type : ValueType} (imaged : inst.image? = some image)
      (typed : c.program.expressionType image = .ok type) (untyped : type.dim? ≠ some .dimBuffer) :
      Escapes c inst .texelBufferCoords

/-- The helper is one that an instruction announces, or one that such a helper calls. -/
def Program.Announces (program : Program) (swizzles : Bool) (inst : Instruction) (helper : Helper) :
    Prop :=
  ∃ new ∈ program.announced swizzles inst, helper ∈ new.closure

theorem Helper.mem_closure_arrayCopy {depth deeper : Nat} (positive : 0 < depth)
    (within : depth ≤ deeper) : Helper.arrayCopy depth ∈ (Helper.arrayCopy deeper).closure := by
  simp only [closure, mem_map, mem_reverse, mem_range]
  exact ⟨depth - 1, by omega, by congr; omega⟩

theorem mem_copyHelpers {depth : Nat} (positive : 0 < depth) :
    Helper.arrayCopy depth ∈ copyHelpers depth := by
  simp [copyHelpers, Nat.pos_iff_ne_zero.mp positive]

theorem ValueType.dimensions_pos {type : ValueType} (isArray : type.isArray = true) :
    0 < type.dimensions.length := by
  cases dims : type.dimensions with
  | nil => simp [ValueType.isArray, dims] at isArray
  | cons => simp

namespace Program.Announces

variable {program : Program} {inst : Instruction} {swizzles : Bool}
variable {imported number typeId : Nat}

theorem arrayCopy {depth deeper : Nat} (positive : 0 < depth) (within : depth ≤ deeper)
    (announced : ∀ helper ∈ copyHelpers deeper, helper ∈ program.announced swizzles inst) :
    program.Announces swizzles inst (.arrayCopy depth) :=
  ⟨_, announced _ (mem_copyHelpers (by omega)), Helper.mem_closure_arrayCopy positive within⟩

variable {type : ValueType}

theorem texelBuffer {image : Id}
    (accesses : inst.op = .imageFetch ∨ inst.op = .imageRead ∨ inst.op = .imageWrite)
    (imaged : inst.image? = some image) (typed : program.expressionType image = .ok type)
    (isBuffer : type.dim? = some .dimBuffer) :
    program.Announces swizzles inst .texelBufferCoords := by
  refine ⟨.texelBufferCoords, ?_, mem_singleton.mpr rfl⟩
  rcases accesses with op | op | op <;>
    simp [Program.announced, op, imaged, typed, Except.toOption, isBuffer]

theorem textureSwizzle (samples : inst.op.isSample = true) :
    program.Announces true inst .textureSwizzle := by
  refine ⟨.textureSwizzle, ?_, mem_singleton.mpr rfl⟩
  unfold Program.announced
  split
  case h_6 op => simp [op]
  case h_10 => simp [samples]
  all_goals
    rename_i op
    rw [op] at samples
    cases samples

variable {helper : Helper}

theorem extended {op : GlslOp} (code : inst.op = .extInst) (typed : inst.word? 0 = some typeId)
    (fromSet : inst.word? 2 = some imported)
    (known : program.importedSetAt? imported = some .glslStd450)
    (numbered : inst.word? 3 = some number) (decoded : GlslOp.ofCode? number = some op)
    (found : op.helper? = some helper) : program.Announces swizzles inst helper := by
  refine ⟨helper, ?_, ?_⟩
  · simp only [Program.announced, code, Program.announcedExtended, typed, fromSet, numbered, known,
      if_true, decoded]
    unfold GlslOp.helper? at found
    split at found <;> cases found <;> simp [GlslOp.helper?]
  · unfold GlslOp.helper? at found
    split at found <;> cases found <;> exact mem_singleton.mpr rfl

theorem inverse (code : inst.op = .extInst) (named : inst.word? 0 = some typeId)
    (typed : program.getType typeId = .ok type) (fromSet : inst.word? 2 = some imported)
    (known : program.importedSetAt? imported = some .glslStd450)
    (numbered : inst.word? 3 = some number) (decoded : GlslOp.ofCode? number = some .matrixInverse)
    (found : Helper.inverse? type.columns = some helper) :
    program.Announces swizzles inst helper := by
  refine ⟨helper, ?_, ?_⟩
  · simp [Program.announced, code, Program.announcedExtended, named, fromSet, numbered, known,
      decoded, typed, Except.toOption, found]
  · unfold Helper.inverse? at found
    split at found <;> cases found <;> exact mem_singleton.mpr rfl

end Program.Announces

theorem Spirv.Op.isSample_of_isGather {op : Op} (gathers : op.isGather = true) :
    op.isSample = true := by
  unfold Op.isGather at gathers
  split at gathers
  · rfl
  · rfl
  · cases gathers

theorem Spirv.Op.isFetch_of_isGather {op : Op} (gathers : op.isGather = true) :
    op.isFetch = false := by
  unfold Op.isGather at gathers
  split at gathers
  · rfl
  · rfl
  · cases gathers

theorem Compiler.needsSwizzle_aux {type : Id} (swizzled : c.needsSwizzle type = .ok true) :
    c.plan.auxBuffer.isSome = true := by
  cases aux : c.plan.auxBuffer with
  | none => simp [Compiler.needsSwizzle, aux, pure, Except.pure] at swizzled
  | some var => rfl

theorem Compiler.imageInfo_typed {image : Id} {info : ImageInfo}
    (found : c.imageInfo image = .ok info) : ∃ type, c.program.expressionType image = .ok type := by
  cases typed : c.program.expressionType image with
  | error fault => simp [Compiler.imageInfo, typed, bind, Except.bind] at found
  | ok type => exact ⟨type, rfl⟩

/-- Calls that do not escape the scan are announced by their instruction; only conversions are left
to the instruction itself, and reads to the samples that swizzles are declared for. -/
theorem Calls.announced {swizzles : Bool} (calls : Calls c inst helper name)
    (foreseen : ¬ Escapes c inst helper)
    (asked : c.plan.auxBuffer.isSome = true → swizzles = true) :
    helper.Converts ∨ c.program.Announces swizzles inst helper ∨
      helper = .textureSwizzle ∧ c.plan.auxBuffer.isSome = true := by
  induction calls with
  | loadArray op typed plain isArray =>
    have positive := ValueType.dimensions_pos isArray
    refine .inr (.inl (.arrayCopy positive le_rfl fun helper copies => ?_))
    simpa [Program.announced, op, typed, plain] using copies
  | loadRowMajor _ _ _ _ _ _ _ found => exact .inl ⟨_, _, found⟩
  | storeArray op stored typed isArray =>
    have positive := ValueType.dimensions_pos isArray
    refine .inr (.inl (.arrayCopy positive le_rfl fun helper copies => ?_))
    simpa [Program.announced, op, stored, typed, Except.toOption] using copies
  | copyMemory op => exact absurd (.copyMemory op) foreseen
  | @constructArray typeId type element op named typed isArray inner nested =>
    have shallow : ¬ type.dimensions.length ≤ element.dimensions.length := fun deep =>
      foreseen (.constructArray op named typed inner deep)
    have within : element.dimensions.length ≤ type.dimensions.length - 1 := by omega
    have positive := ValueType.dimensions_pos nested
    refine .inr (.inl (.arrayCopy positive within fun helper copies => ?_))
    simpa [Program.announced, op, Program.resultType?, named, typed, Except.toOption] using copies
  | remainder op =>
    exact .inr (.inl ⟨.mod, by simp [Program.announced, op], mem_singleton.mpr rfl⟩)
  | extended code typed fromSet known numbered decoded found =>
    exact .inr (.inl (.extended code typed fromSet known numbered decoded found))
  | inverse code named typed fromSet known numbered decoded found =>
    exact .inr (.inl (.inverse code named typed fromSet known numbered decoded found))
  | texelBuffer accesses imaged found isBuffer =>
    obtain ⟨type, typed⟩ := imageInfo_typed found
    have own : type.dim? = some .dimBuffer := by
      by_contra untyped
      exact foreseen (.untypedBuffer imaged typed untyped)
    refine .inr (.inl (.texelBuffer ?_ imaged typed own))
    simp only [Op.accessesImage, Bool.or_eq_true, decide_eq_true_eq] at accesses
    rcases accesses with (samples | reads) | writes
    · by_contra other
      exact foreseen (.sampledBuffer samples fun fetches => other (.inl fetches))
    · exact .inr (.inl reads)
    · exact .inr (.inr writes)
  | sample reads plain imaged typed swizzled =>
    have aux := needsSwizzle_aux swizzled
    rcases reads with samples | reads
    · rw [asked aux]
      exact .inr (.inl (.textureSwizzle samples))
    · exact .inr (.inr ⟨rfl, aux⟩)
  | gather gathers imaged typed swizzled =>
    rw [asked (needsSwizzle_aux swizzled)]
    exact .inr (.inl (.textureSwizzle (Op.isSample_of_isGather gathers)))

end SpirvMetal
