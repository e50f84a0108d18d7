import SpirvMetal.Proofs.Repeat.Steady
import SpirvMetal.Proofs.Store.Sorting

/-!
Instructions and declarations in states that mirror each other. An instruction that mentions nothing
that has moved is written the same in both, and a declaration outside of functions mentions nothing
that has.
-/

set_option synthInstance.maxSize 2048

namespace SpirvMetal.Emit.Steady

open HelperDefinition (CopySource)
open Spirv (GlslOp)
open Compiler (Mirrors)

variable {base : Compiler} {moved : Id → Prop}

instance copyArray (source : CopySource) (type : ValueType) (target value : String) :
    Steady base moved (copyArray source type target value) := by
  simp only [Emit.copyArray]
  infer_instance

instance checkCopyTarget (pointer : Id) : Steady base moved (checkCopyTarget pointer) := by
  refine read fun _ => onward fun space => ?_
  split <;> infer_instance

instance loadRowMajor (typeId result : Id) (type : ValueType) (source : String) (packed : Bool) :
    Steady base moved (loadRowMajor typeId result type source packed) := by
  have noted (raw : String) : Steady base moved (Emit.modifyPass fun pass =>
      { pass with transposed := pass.transposed.insert result raw }) := by
    exact modifyPass
  simp only [Emit.loadRowMajor]
  split
  · infer_instance
  · split <;> infer_instance

instance loadArray (typeId result pointer : Id) (type : ValueType) (source : String) :
    Steady base moved (loadArray typeId result pointer type source) := by
  refine read fun _ => onward fun space => ?_
  split <;> infer_instance

variable (inst : Instruction) [StayAll moved inst.words]

instance load : Steady base moved (load inst) := by
  refine onward fun _ => word fun typeId => word fun result => word fun pointer => ?_
  refine onward fun type => onward fun source => ?_
  refine otherwise (onward fun _ => ?_)
  exact read inferInstance

instance store : Steady base moved (store inst) := by
  refine onward fun _ => word fun pointer => word fun value => ?_
  refine onward fun target => onward fun source => ?_
  exact read inferInstance

instance copyMemory : Steady base moved (copyMemory inst) := by
  refine onward fun _ => word fun target => word fun source => ?_
  refine onward fun _ => onward fun _ => ?_
  refine read fun _ => ?_
  split <;> infer_instance

instance accessChain (fromPointer : Bool) : Steady base moved (accessChain inst fromPointer) := by
  have packed (result : Id) : Steady base moved (Emit.modifyPass fun pass =>
      { pass with packed := addNew pass.packed result }) := by
    exact modifyPass
  have rowMajor (result : Id) : Steady base moved (Emit.modifyPass fun pass =>
      { pass with rowMajor := addNew pass.rowMajor result }) := by
    exact modifyPass
  refine onward fun _ => word fun result => word fun start => ?_
  exact read inferInstance

instance copyObject : Steady base moved (copyObject inst) :=
  onward fun _ => word fun _ => inferInstance

omit [StayAll moved inst.words] in
instance arrayOfArrays (typeId result : Id) (element : ValueType) (parts : List String) :
    Steady base moved (arrayOfArrays typeId result element parts) := by
  simp only [Emit.arrayOfArrays]
  infer_instance

omit [StayAll moved inst.words] in
instance constructArray (typeId result : Id) (type : ValueType) (parts : List String) :
    Steady base moved (constructArray typeId result type parts) := by
  refine onward fun element => otherwise ?_
  exact read inferInstance

instance texts (ids : List Id) [all : StayAll moved ids] : Steady base moved (ids.mapM Emit.text) :=
  mapM_of_mem ids fun id member => by
    have stays : Stays moved id := all.stays member
    infer_instance

instance compositeConstruct : Steady base moved (compositeConstruct inst) := by
  refine word fun typeId => word fun result => onward fun type => ?_
  refine onward fun parts => otherwise ?_
  refine otherwise ?_
  split <;> infer_instance

instance compositeExtract : Steady base moved (compositeExtract inst) := by
  refine word fun composite => onward fun source => ?_
  refine read fun _ => ?_
  split <;> infer_instance

instance compositeInsert : Steady base moved (compositeInsert inst) := by
  refine onward fun _ => word fun type => word fun result => ?_
  refine onward fun found => otherwise ?_
  refine get (fun _ _ _ => by simp only [Mirrors.literalPath]) fun _ => ?_
  refine onward fun _ => word fun _ => onward fun _ => ?_
  exact word fun _ => inferInstance

instance vectorShuffle : Steady base moved (vectorShuffle inst) := by
  refine onward fun _ => word fun type => word fun first => ?_
  refine read fun _ => onward fun _ => ?_
  refine onward fun _ => word fun second => onward fun _ => ?_
  refine word fun result => read inferInstance

instance vectorExtract : Steady base moved (vectorExtract inst) := by
  refine onward fun _ => word fun vector => onward fun _ => ?_
  exact word fun index => inferInstance

instance vectorInsert : Steady base moved (vectorInsert inst) := by
  refine onward fun _ => word fun result => word fun vector => ?_
  refine onward fun _ => word fun value => onward fun _ => ?_
  exact word fun index => inferInstance

instance matrixVector : Steady base moved (matrixVector inst) := by
  refine onward fun _ => word fun left => word fun right => ?_
  by_cases matrixFirst : inst.op = .matrixTimesVector
  · simp only [matrixFirst, decide_true, if_true]
    refine get (fun _ _ _ => by simp only [Mirrors.pass_eq]) fun c => ?_
    split <;> infer_instance
  · simp only [matrixFirst, decide_false, Bool.false_eq_true, if_false]
    refine get (fun _ _ _ => by simp only [Mirrors.pass_eq]) fun c => ?_
    split <;> infer_instance

instance outerProduct : Steady base moved (outerProduct inst) := by
  refine onward fun _ => word fun type => word fun first => ?_
  exact onward fun _ => word fun second => inferInstance

instance select : Steady base moved (select inst) := by
  refine onward fun _ => word fun condition => word fun accepted => ?_
  exact word fun rejected => read inferInstance

instance bitField (name : String) (values bounds : List Nat) :
    Steady base moved (bitField name inst values bounds) := by
  have value (index : Nat) : Steady base moved (do Emit.text (← Emit.word inst index)) :=
    word fun _ => inferInstance
  have bound (index : Nat) : Steady base moved (do Emit.textAs (← Emit.word inst index) false) :=
    word fun _ => inferInstance
  simp only [Emit.bitField]
  infer_instance

instance conversion (kind : Conversion) : Steady base moved (conversion inst kind) := by
  refine word fun type => onward fun name => word fun operand => ?_
  split <;> infer_instance

variable {inst} in
theorem binaryOperation? {operation : Emit String}
    (found : binaryOperation? inst = some operation) : Steady base moved operation := by
  simp only [Emit.binaryOperation?] at found
  split at found <;> simp only [Option.some.injEq, reduceCtorEq] at found <;> subst found
  · refine onward fun _ => look fun c d _ _ => ?_
    refine words fun type => words fun left => words fun right => ?_
    exact same (by simp only [Mirrors.integerText])
  all_goals
    refine andThen (onward fun _ => word fun _ => onward fun _ => ?_) inferInstance
    exact word fun _ => inferInstance

variable {inst} in
theorem plainOperation? {operation : Emit String}
    (found : plainOperation? inst = some operation) : Steady base moved operation := by
  simp only [Emit.plainOperation?] at found
  split at found <;> simp only [Option.some.injEq, reduceCtorEq] at found <;> subst found
  · exact look fun c d _ _ => words fun _ => same (by simp only [Mirrors.callText])
  · refine onward fun _ => look fun c d _ _ => ?_
    exact words fun _ => words fun _ => same (by simp only [Mirrors.callText])
  · exact word fun _ => inferInstance
  · infer_instance

instance arithmetic : Steady base moved (arithmetic inst) := by
  simp only [Emit.arithmetic]
  split
  · exact binaryOperation? ‹_›
  · exact plainOperation? ‹_›
  · split
    all_goals first
      | infer_instance
      | exact word fun _ => onward fun _ => word fun _ => inferInstance
      | refine word fun _ => onward fun _ => onward fun _ =>
        onward fun _ => word fun _ => inferInstance

variable {inst} in
theorem scalarGeometry? [StayAll moved arguments]
    (found : scalarGeometry? inst arguments op = some operation) : Steady base moved operation := by
  simp only [Emit.scalarGeometry?] at found
  split at found <;> simp only [Option.some.injEq, reduceCtorEq] at found <;> subst found
  · exact get (fun _ _ _ => by simp only [Mirrors.callText]) inferInstance
  · exact get (fun _ _ _ => by simp only [Mirrors.callText]) inferInstance
  · refine onward fun _ => word fun _ => onward fun _ => ?_
    exact word fun _ => inferInstance

omit [StayAll moved inst.words] in
instance integerFunction (type : Id) (name : String) (signed : Bool) (arguments : List Id)
    [all : StayAll moved arguments] :
    Steady base moved (integerFunction type name signed arguments) := by
  refine get (fun c d _ => congrArg (· >>= _) (mapM_congr fun id member => ?_)) inferInstance
  have stays : Stays moved id := all.stays member
  simp only [Mirrors.textAs]

omit [StayAll moved inst.words] in
instance matrixInverse (type : Id) (arguments : List Id) [StayAll moved arguments] :
    Steady base moved (matrixInverse type arguments) := by
  have call (columns : Nat) : Steady base moved (do
      (← MonadState.get).callText s!"spvInverse{columns}x{columns}" arguments) :=
    get (fun _ _ _ => by simp only [Mirrors.callText]) inferInstance
  simp only [Emit.matrixInverse]
  infer_instance

omit [StayAll moved inst.words] in
instance startsWithScalar (arguments : List Id) : Steady base moved (startsWithScalar arguments) :=
    by
  simp only [Emit.startsWithScalar]
  split
  · infer_instance
  · exact get (fun _ _ _ => by simp only [Mirrors.expressionType]) inferInstance

instance extendedText (op : GlslOp) (type : Id) (arguments : List Id) [StayAll moved arguments] :
    Steady base moved (extendedText inst op type arguments) := by
  refine onward fun scalar => ?_
  dsimp only
  split
  · rename_i geometry
    split at geometry
    · exact scalarGeometry? geometry
    · cases geometry
  · infer_instance
  · exact get (fun _ _ _ => by simp only [Mirrors.callText]) inferInstance
  · split
    · infer_instance
    · exact word fun _ => inferInstance
    · exact word fun _ => inferInstance
    · infer_instance

instance extended : Steady base moved (extended inst) := by
  refine onward fun _ => word fun type => word fun result => word fun imported => ?_
  refine word fun number => get (fun _ _ _ => by simp only [Mirrors.importedSetAt?]) fun c => ?_
  refine otherwise ?_
  split <;> infer_instance

instance functionCall : Steady base moved (functionCall inst) := by
  refine onward fun _ => word fun typeId => word fun result => word fun callee => ?_
  refine get (fun c d _ => ?_) inferInstance
  have passed (parameter : Parameter) (index : Nat) :
      (do
        d.argumentTexts parameter
          (← c.argumentFor callee (inst.words.drop 3) index parameter) : Emit (List String)) =
      (do
        c.argumentTexts parameter
          (← c.argumentFor callee (inst.words.drop 3) index parameter)) :=
    lift_bind_same fun _ found => by rw [Mirrors.argumentTexts found]
  simp only [Mirrors.getFunction, Mirrors.argumentFor, passed, Mirrors.plainName]

omit [StayAll moved inst.words] in
instance barrier (executionScope : Option Id) (memoryScope semantics : Id) :
    Steady base moved (barrier executionScope memoryScope semantics) := by
  refine read fun c => ?_
  refine @ite _ _ _ _ _ _ _ (onward fun flag => ?_) inferInstance
  refine @ite _ _ _ _ _ _ _ ?_ inferInstance
  split <;> infer_instance

instance controlBarrier : Steady base moved (controlBarrier inst) :=
  onward fun _ => get (fun _ _ _ => by simp only [Mirrors.pass_eq]) inferInstance

instance memoryBarrier : Steady base moved (memoryBarrier inst) := by
  simp only [Emit.memoryBarrier]
  infer_instance

omit [StayAll moved inst.words] in
instance atomicTarget (pointer : Id) [Stays moved pointer] :
    Steady base moved (atomicTarget pointer) := by
  refine read fun c => onward fun space => ?_
  split <;> infer_instance

instance compareExchange (target : String) : Steady base moved (compareExchange inst target) := by
  refine onward fun _ => word fun _ => onward fun _ => ?_
  exact word fun _ => inferInstance

instance atomic : Steady base moved (atomic inst) := by
  simp only [Emit.atomic]
  split
  · infer_instance
  · split
    · infer_instance
    · rename_i pointer found
      have stays : Stays moved pointer := by
        unfold Instruction.atomicPointer? at found
        split at found <;> exact ⟨StayAll.stay pointer (List.mem_of_getElem? found)⟩
      refine onward fun target => ?_
      split
      · exact onward fun _ => word fun _ => inferInstance
      · infer_instance
      · infer_instance
      · infer_instance
      · infer_instance
      · refine onward fun _ => ?_
        split
        · exact word fun _ => inferInstance
        · infer_instance

instance value : Steady base moved (value inst) := by
  refine onward fun _ => ?_
  split <;> infer_instance

instance imageSize : Steady base moved (imageSize inst) := by
  refine otherwise (word fun type => word fun result => look fun c d _ _ => ?_)
  exact words fun image => lifted (Mirrors.sizeText ..) fun _ _ => steady

instance imageCount (method : String) : Steady base moved (imageCount inst method) := by
  refine otherwise (word fun type => onward fun name => word fun result => ?_)
  exact word fun _ => inferInstance

instance imageAccess : Steady base moved (imageAccess inst) := by
  have noted (image : Id) : Steady base moved (Emit.noteImageAccess image .nonReadable) :=
    noteImageAccess image rfl
  simp only [Emit.imageAccess]
  refine otherwise (word fun image => ?_)
  refine get (fun _ _ _ => by simp only [Mirrors.imageInfo]) fun c => ?_
  refine onward fun info => lifts fun operands read => ?_
  have mentioned : StayAll moved operands.ids := ⟨fun id member =>
    StayAll.stay id (List.mem_of_mem_drop (ImageOperands.ids_ofWords read member))⟩
  have extra : StayAll moved (if (inst.op.isComparison || decide (inst.op = .imageGather)) = true
      then inst.word? 4 else none).toList := by
    split
    · infer_instance
    · exact StayAll.nil
  refine @ite _ _ _ _ _ _ _ (onward fun _ => ?_) ?_
  all_goals
    refine word fun type => look fun c d _ _ => words fun coordinate => ?_
    exact lifted (Mirrors.accessResult ..) fun _ _ => steady

instance imageWrite : Steady base moved (imageWrite inst) := by
  have noted (image : Id) : Steady base moved (Emit.noteImageAccess image .nonWritable) :=
    noteImageAccess image rfl
  simp only [Emit.imageWrite]
  refine otherwise (word fun image => ?_)
  refine get (fun _ _ _ => by simp only [Mirrors.imageInfo]) fun c => ?_
  refine onward fun info => lifts fun operands read => ?_
  refine onward fun _ => look fun c d _ _ => words fun texel => ?_
  refine lifted (Mirrors.texelText texel) fun _ _ => words fun coordinate => ?_
  refine lifted (Mirrors.coordinateArguments ..) fun _ _ => ?_
  cases level : operands.lod with
  | none => exact same (by simp only [Mirrors.textOf])
  | some lod =>
    have stays : Stays moved lod := ⟨StayAll.stay lod (List.mem_of_mem_drop
      (ImageOperands.ids_ofWords read (by simp [ImageOperands.ids, level])))⟩
    exact same (by simp only [Mirrors.textOf])

instance sampledImage : Steady base moved (sampledImage inst) := by
  have noted (result image sampler : Id) [Stays moved image] [Stays moved sampler] :
      Steady base moved (Emit.modifyPass fun pass =>
        { pass with sampledImages := pass.sampledImages.insert result (image, sampler) }) :=
    modifyPaired (fun _ => rfl) (fun _ => rfl) (fun _ => rfl) fun pass paired =>
      paired_insert paired Stays.stays Stays.stays
  exact otherwise (word fun result => word fun image => word fun sampler => inferInstance)

instance imageOf : Steady base moved (imageOf inst) := by
  simp only [Emit.imageOf]
  refine otherwise (word fun result => word fun combined => ?_)
  refine look fun c d _ mirrors => ?_
  rw [Mirrors.pass_eq (d := d)]
  cases found : c.pass.sampledImages.find? combined with
  | none => exact steady
  | some pair =>
    obtain ⟨image, sampler⟩ := pair
    have stays : Stays moved image := ⟨(mirrors.pairs combined image sampler found).1⟩
    exact steady

instance image : Steady base moved (image inst) := by
  simp only [Emit.image]
  split <;> infer_instance

instance lower : Steady base moved (lower inst) := by
  simp only [Emit.lower]
  split <;> infer_instance

instance instruction : Steady base moved (instruction inst) := by
  simp only [Emit.instruction]
  infer_instance

end SpirvMetal.Emit.Steady

namespace SpirvMetal

namespace Compiler.Mirrors

variable {moved : Id → Prop} {c d : Compiler} [mirrors : Mirrors moved c d]

include mirrors

@[simp] theorem isDeclaredStruct (id : Id) (type : ValueType) :
    d.isDeclaredStruct id type = c.isDeclaredStruct id type := by
  simp [Compiler.isDeclaredStruct]

@[simp] theorem memberAttribute (struct index : Nat) :
    d.memberAttribute struct index = c.memberAttribute struct index := by
  simp [Compiler.memberAttribute, Compiler.vertexInputAttribute, Compiler.vertexOutputAttribute,
    Compiler.fragmentInputAttribute, Compiler.fragmentOutputAttribute,
    Compiler.computeInputAttribute]

@[simp] theorem arrayConstants : Emit.arrayConstants d = Emit.arrayConstants c := by
  simp [Emit.arrayConstants]

end Compiler.Mirrors

namespace Emit.Steady

open Compiler (Mirrors)

variable {base : Compiler} {moved : Id → Prop}

instance memberTypeName (struct index member : Nat) (type : ValueType) :
    Steady base moved (memberTypeName struct index member type) := by
  refine read fun c => onward fun natural => ?_
  refine otherwise (onward fun form => ?_)
  split <;> infer_instance

instance structMember (struct index member : Nat) (isInterface : Bool) :
    Steady base moved (structMember struct index member isInterface) := by
  refine look fun c d follows mirrors => lifted (by simp) fun type found => ?_
  refine @same _ _ _ _ _ ?_ inferInstance
  simp [mirrors.arraySuffix found]

instance struct (id : Id) : Steady base moved (struct id) := by
  refine look fun c d follows mirrors => lifted (by simp) fun type found => ?_
  have stays : Stays moved id := mirrors.stays_of_type (Program.getType_ok.mp found)
  exact @same _ _ _ _ _ (by simp) inferInstance

instance interfaceStruct (var : Id) : Steady base moved (interfaceStruct var) :=
  read inferInstance

instance specConstant (id : Id) : Steady base moved (specConstant id) := by
  refine look fun c d follows mirrors => lifted (by simp) fun constant found => ?_
  have stays : Stays moved id := mirrors.stays_of_constant (Program.expect_ok.mp found)
  have derived (words : List Nat) : Steady base moved (Emit.derivedConstant id constant words) :=
    read inferInstance
  refine @same _ _ _ _ _ (by simp) (onward fun type => ?_)
  dsimp only
  split <;> infer_instance

instance constantOrStruct (constantsOpen : Bool) (id : Id) :
    Steady base moved (constantOrStruct constantsOpen id) := by
  refine read fun c => ?_
  split <;> infer_instance

instance constantsAndStructs : Steady base moved constantsAndStructs :=
  read inferInstance

instance table (type : Id) (name : String) (value : Id) :
    Steady base moved (table type name value) :=
  read inferInstance

instance moduleConstants : Steady base moved moduleConstants := by
  refine look fun c d follows mirrors => ?_
  have tables : Steady base moved ((sortBy (· ≤ ·) c.plan.lookupTables).filterM lookupTable) := by
    refine filterM_of_mem _ fun id member => ?_
    have stays : Stays moved id := mirrors.stays_of_shared (.table (mem_sortBy.mp member))
    refine read fun c => onward fun var => ?_
    split <;> infer_instance
  have undefineds : Steady base moved
      (c.program.undefineds.filterM fun (id, type) => undefinedValue id type) := by
    refine filterM_of_mem _ fun (id, type) member => ?_
    have stays : Stays moved id := mirrors.stays_of_shared (.undefined member)
    exact read inferInstance
  simp only [Mirrors.plan_eq, Mirrors.undefineds, Mirrors.arrayConstants]
  refine andAlso (forIn_of_mem _ (fun (id, constant) member _ => ?_) _) fun _ => steady
  have stays : Stays moved id :=
    mirrors.stays_of_shared (.constant (List.mem_of_mem_filter member))
  exact @same _ _ _ _ _ (by simp) inferInstance

instance helpers : Steady base moved helpers :=
  read inferInstance

end Emit.Steady

end SpirvMetal
