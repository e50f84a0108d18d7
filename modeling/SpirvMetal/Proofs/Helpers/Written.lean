import SpirvMetal.Proofs.Helpers.Called

/-!
The lines of calls: every helper function that an instruction calls is called in a line that the
instruction is written with.
-/

namespace SpirvMetal

open Spirv (Op GlslOp)
open Compiler
open HelperDefinition (CopySource copyName)

namespace Emit

open Compiler (WritesHelperCall)

variable {c c' : Compiler} {u : Unit} {inst : Instruction} {helper : Helper} {name : String}
variable {type element : ValueType} {result typeId pointer image : Id} {space : AddressSpace}
  {arguments : List Id} {swizzles : Bool} {info : ImageInfo} {access : ImageAccess}

theorem statement_writesCall {line : String} (done : statement line c = .ok u c')
    (invokes : Invokes name line) : WritesHelperCall name c c' := by
  obtain rfl := modifyPass_ok.mp done
  exact ⟨c.pass.lines.toList, ⟨c.pass.depth, line⟩, List.prefix_refl _, by simp, invokes⟩

theorem define_writesCall {type : Id} {value : String}
    (done : define type result value c = .ok u c') (invokes : Invokes name value) :
    WritesHelperCall name c c' := by
  replace done := get_bind.mp done
  dsimp only at done
  split at done
  · obtain ⟨_, written, writing, done⟩ := bind_ok.mp done
    exact (statement_writesCall writing (invokes.within _ _)).within (.refl c) (advances done)
  · obtain ⟨_, _, done⟩ := lift_bind.mp done
    obtain ⟨_, written, writing, done⟩ := bind_ok.mp done
    exact (statement_writesCall writing (invokes.within _ _)).within (.refl c) (advances done)

theorem copyArray_writesCall {source : HelperDefinition.CopySource} {target value : String}
    (done : copyArray source type target value c = .ok u c') :
    WritesHelperCall (copyName source type.dimensions.length) c c' :=
  statement_writesCall done ⟨"", "(", target ++ ", " ++ value ++ ");", .inl rfl, by
    simp [toString, String.append_assoc]⟩

theorem load_ok (done : load inst c = .ok u c') :
    ∃ typeId result pointer type source, inst.word? 0 = some typeId ∧
      inst.word? 1 = some result ∧ inst.word? 2 = some pointer ∧
      c.program.getType typeId = .ok type ∧ c.textOf pointer = .ok source ∧
      (type.isOpaque = false → ∃ backed, setBacking result pointer c = .ok () backed ∧
        (if type.isArray then loadArray typeId result pointer type source
        else if pointer ∈ backed.pass.rowMajor && type.isMatrix then
          loadRowMajor typeId result type source (decide (pointer ∈ backed.pass.packed))
        else if decide (pointer ∈ backed.pass.packed) ||
            pointer ∈ backed.plan.convertedInputs then do
          define typeId result s!"{← typeName typeId}({source})"
        else define typeId result source) backed = .ok u c') := by
  obtain ⟨_, _, done⟩ := need_bind.mp done
  obtain ⟨typeId, named, done⟩ := word_bind.mp done
  obtain ⟨result, held, done⟩ := word_bind.mp done
  obtain ⟨pointer, pointed, done⟩ := word_bind.mp done
  obtain ⟨type, typed, done⟩ := getType_bind.mp done
  obtain ⟨source, spelled, done⟩ := text_bind.mp done
  refine ⟨typeId, result, pointer, type, source, named, held, pointed, typed, spelled,
    fun plain => ?_⟩
  rw [plain] at done
  obtain ⟨_, backed, backing, done⟩ := bind_ok.mp done
  replace done := get_bind.mp done
  exact ⟨backed, backing, done⟩

/-- What is known about a pointer stays known when its variable is noted for a result. -/
theorem setBacking_keeps {source : Id} (done : setBacking result source c = .ok u c') :
    c'.pointerSpace source = c.pointerSpace source ∧ c'.pass.rowMajor = c.pass.rowMajor ∧
      c'.pass.packed = c.pass.packed := by
  replace done := get_bind.mp done
  cases backing : c.backingVariable? source with
  | none =>
    rw [backing] at done
    obtain ⟨-, rfl⟩ := pure_ok.mp done
    exact ⟨rfl, rfl, rfl⟩
  | some var =>
    rw [backing] at done
    obtain rfl := modifyPass_ok.mp done
    refine ⟨?_, rfl, rfl⟩
    have same : backingVariable?
        { c with pass := { c.pass with backing := c.pass.backing.insert result var } } source =
        some var := by
      unfold backingVariable? at backing ⊢
      dsimp only
      split
      · rw [if_pos ‹_›] at backing
        exact backing
      · rw [if_neg ‹_›] at backing
        rw [Assoc.find?_insert]
        split
        · rfl
        · exact backing
    unfold pointerSpace
    rw [same, backing]
    rfl

theorem loadArray_writesCall {source : String} (placed : c.pointerSpace pointer = .ok space)
    (done : loadArray typeId result pointer type source c = .ok u c') :
    WritesHelperCall (copyName space.copySource type.dimensions.length) c c' := by
  unfold loadArray at done
  replace done := get_bind.mp done
  replace done := (lift_known placed).mp done
  have declares {copy : CopySource} {step : Emit CopySource} (chosen : step = pure copy)
      (done : (do
        let copy ← step
        let name ← declare typeId result
        copyArray copy type name source) c = .ok u c') :
      WritesHelperCall (copyName copy type.dimensions.length) c c' := by
    rw [chosen, pure_bind] at done
    obtain ⟨_, declared, declaring, done⟩ := bind_ok.mp done
    exact (copyArray_writesCall done).within (advances declaring) (.refl c')
  cases space with
  | constant => exact declares rfl done
  | thread => exact declares rfl done
  | value => exact declares rfl done
  | _ =>
    exact (fail_bind done).elim

theorem copyMemory_writesCall {target source data : Id} (written : inst.word? 0 = some target)
    (read : inst.word? 1 = some source) (typed : c.program.typeOf? target = some pointer)
    (pointed : c.program.pointee pointer = .ok (data, type)) (isArray : type.isArray = true)
    (placed : c.pointerSpace source = .ok space) (done : copyMemory inst c = .ok u c') :
    WritesHelperCall (copyName space.copySource type.dimensions.length) c c' := by
  obtain ⟨_, _, done⟩ := need_bind.mp done
  replace done := (word_known written).mp done
  replace done := (word_known read).mp done
  obtain ⟨_, _, done⟩ := text_bind.mp done
  obtain ⟨_, _, done⟩ := text_bind.mp done
  replace done := get_bind.mp done
  simp only [typed] at done
  replace done := (lift_known pointed).mp done
  dsimp only at done
  rw [if_pos isArray] at done
  obtain ⟨_, checked, checking, done⟩ := bind_ok.mp done
  replace done := (lift_known placed).mp done
  exact (copyArray_writesCall done).within (advances checking) (.refl c')

theorem arrayOfArrays_writesCall {parts : List String} (some : parts ≠ [])
    (done : arrayOfArrays typeId result element parts c = .ok u c') :
    WritesHelperCall (copyName .stack element.dimensions.length) c c' := by
  obtain ⟨target, declared, declaring, done⟩ := bind_ok.mp done
  obtain ⟨first, rest, rfl⟩ := List.exists_cons_of_ne_nil some
  simp only [forIn_eq_forM, bind_pure_unit, List.zipIdx_cons] at done
  obtain ⟨_, copied, copying, done⟩ := bind_ok.mp done
  refine (statement_writesCall copying ?_).within (advances declaring) (advances done)
  exact ⟨"", "(", _, .inl rfl, by
    simp only [toString, String.append_assoc, String.empty_append]
    rfl⟩

theorem compositeConstruct_writesCall (named : inst.word? 0 = some typeId)
    (typed : c.program.getType typeId = .ok type) (isArray : type.isArray = true)
    (inner : c.program.getType (type.parent.getD typeId) = .ok element)
    (nested : element.isArray = true) (whole : 3 ≤ inst.words.length)
    (done : compositeConstruct inst c = .ok u c') :
    WritesHelperCall (copyName .stack element.dimensions.length) c c' := by
  replace done := (word_known named).mp done
  obtain ⟨result, _, done⟩ := word_bind.mp done
  obtain ⟨_, found, done⟩ := getType_bind.mp done
  obtain rfl := Except.ok.inj (typed.symm.trans found)
  obtain ⟨parts, _, reading, done⟩ := bind_ok.mp done
  obtain ⟨texts, rfl⟩ := (mapM_reads fun _ _ _ => text_ok).mp reading
  have some : parts ≠ [] := by
    rintro rfl
    have short := (Except.mapM_ok.mp texts).length_eq
    rw [List.length_drop, List.length_nil] at short
    omega
  rw [if_pos isArray] at done
  obtain ⟨_, found, done⟩ := getType_bind.mp done
  obtain rfl := Except.ok.inj (inner.symm.trans found)
  rw [if_pos nested] at done
  exact arrayOfArrays_writesCall some done

theorem callText_invokes {text : String} (called : c.callText name arguments = .ok text) :
    Invokes name text := by
  obtain ⟨texts, _, done⟩ := Except.bind_ok.mp called
  obtain rfl := Except.ok.inj done
  exact .callee name texts

theorem remainder_writesCall (op : inst.op = .fMod) (done : value inst c = .ok u c') :
    WritesHelperCall "mod" c c' := by
  obtain ⟨_, _, done⟩ := need_bind.mp done
  simp only [op] at done
  obtain ⟨_, _, done⟩ := word_bind.mp done
  obtain ⟨_, _, done⟩ := word_bind.mp done
  obtain ⟨text, middle, computing, done⟩ := bind_ok.mp done
  refine (define_writesCall done ?_).within (advances computing) (.refl c')
  have operation : arithmetic inst = (do
      need inst 4
      (← get).callText "mod" [← word inst 2, ← word inst 3]) := by
    simp [arithmetic, binaryOperation?, plainOperation?, op, BinaryOperator.ofOp?,
      BinarySymbol.ofFloatOp?, BinarySymbol.ofUnorderedOp?, unaryFunction?, binaryFunction?]
  simp only [operation, bind_ok, lift_ok] at computing
  obtain ⟨_, _, _, _, _, _, _, _, _, _, _, _, called, _⟩ := computing
  exact callText_invokes called

theorem extended_ok (done : extended inst c = .ok u c') :
    ∃ type result imported number op text middle, inst.word? 0 = some type ∧
      inst.word? 2 = some imported ∧ inst.word? 3 = some number ∧ GlslOp.ofCode? number = some op ∧
      extendedText inst op type (inst.words.drop 4) c = .ok text middle ∧
      define type result text middle = .ok u c' := by
  obtain ⟨_, _, done⟩ := need_bind.mp done
  obtain ⟨type, typed, done⟩ := word_bind.mp done
  obtain ⟨result, _, done⟩ := word_bind.mp done
  obtain ⟨imported, fromSet, done⟩ := word_bind.mp done
  obtain ⟨number, numbered, done⟩ := word_bind.mp done
  replace done := get_bind.mp done
  split at done
  · exact (fail_bind done).elim
  · cases decoded : GlslOp.ofCode? number with
    | none =>
      simp only [decoded] at done
      exact (fail_ok done).elim
    | some op =>
      simp only [decoded] at done
      obtain ⟨text, middle, computing, done⟩ := bind_ok.mp done
      exact ⟨type, result, imported, number, op, text, middle, typed, fromSet, numbered, decoded,
        computing, done⟩

/-- Instructions other than the geometric ones are written the same for scalars and vectors. -/
theorem extendedText_ok {op : GlslOp} {type : Id} {text : String}
    (plain : scalarGeometry? inst arguments op = none)
    (done : extendedText inst op type arguments c = .ok text c') :
    ∃ middle : Compiler, c.Advances middle ∧
      (∀ name signed, op.integerFunction? = some (name, signed) →
        integerFunction type name signed arguments middle = .ok text c') ∧
      (∀ name, op.integerFunction? = none → op.function? = some name →
        middle.callText name arguments = .ok text) ∧
      (op = .matrixInverse → matrixInverse type arguments middle = .ok text c') := by
  obtain ⟨scalar, middle, testing, done⟩ := bind_ok.mp done
  have geometry : (if scalar then scalarGeometry? inst arguments op else none) = none := by
    split
    · exact plain
    · rfl
  simp only [geometry] at done
  refine ⟨middle, advances testing, fun name signed integer => ?_, fun name other named => ?_,
    fun inverts => ?_⟩
  · simpa only [integer] using done
  · simp only [other, named] at done
    replace done := get_bind.mp done
    exact (lift_ok.mp done).1
  · subst inverts
    exact done

theorem extendedText_invokes {op : GlslOp} {type : Id} {text : String}
    (found : op.helper? = some helper)
    (named : op.function? = some name ∨ op.integerFunction?.map (·.1) = some name)
    (done : extendedText inst op type arguments c = .ok text c') : Invokes name text := by
  have plain : scalarGeometry? inst arguments op = none := by
    unfold GlslOp.helper? at found
    split at found <;> first | rfl | cases found
  obtain ⟨middle, -, integers, functions, -⟩ := extendedText_ok plain done
  cases integer : op.integerFunction? with
  | none =>
    obtain named | named := named
    · exact callText_invokes (functions name integer named)
    · rw [integer] at named
      cases named
  | some form =>
    obtain ⟨other, signed⟩ := form
    have same : other = name := by
      unfold GlslOp.helper? at found
      split at found <;> cases found <;> cases integer <;> rcases named with named | named <;>
        cases named <;> rfl
    have done := integers name signed (same ▸ integer)
    replace done := get_bind.mp done
    obtain ⟨texts, _, lifted, done⟩ := bind_ok.mp done
    obtain ⟨_, rfl⟩ := (mapM_reads fun _ _ _ => lift_ok).mp lifted
    obtain ⟨_, _, done⟩ := getType_bind.mp done
    split at done
    · obtain ⟨spelled, _, _, done⟩ := bind_ok.mp done
      obtain ⟨rfl, -⟩ := pure_ok.mp done
      exact (Invokes.callee name texts).within (spelled ++ "(") ")"
    · obtain ⟨rfl, -⟩ := pure_ok.mp done
      exact .callee name texts

theorem matrixInverse_invokes {text : String} (typed : c.program.getType typeId = .ok type)
    (done : extendedText inst .matrixInverse typeId arguments c = .ok text c') :
    Invokes s!"spvInverse{type.columns}x{type.columns}" text := by
  obtain ⟨middle, reached, -, -, inverts⟩ := extendedText_ok rfl done
  obtain ⟨_, found, done⟩ := getType_bind.mp (inverts rfl)
  rw [reached.program.getType_eq, typed] at found
  obtain rfl := Except.ok.inj found
  dsimp only at done
  split at done
  · exact (fail_bind done).elim
  · replace done := get_bind.mp done
    exact callText_invokes (lift_ok.mp done).1

theorem coordinateArguments_invokes {coordinate : Id} {fetch projection : Bool}
    {arguments : List String} (isBuffer : info.dim = .dimBuffer)
    (found : c.coordinateArguments info coordinate fetch projection = .ok arguments) :
    ∃ argument ∈ arguments, Invokes "spvTexelBufferCoord" argument := by
  obtain ⟨text, _, found⟩ := Except.bind_ok.mp found
  obtain ⟨type, _, found⟩ := Except.bind_ok.mp found
  simp only [isBuffer] at found
  obtain ⟨index, _, found⟩ := Except.bind_ok.mp found
  obtain rfl := Except.ok.inj found
  have opens : "spvTexelBufferCoord(" = "spvTexelBufferCoord" ++ "(" := rfl
  exact ⟨_, List.mem_singleton.mpr rfl, "", "(", index ++ ")", .inl rfl, by
    simp only [toString, opens, String.append_assoc, String.empty_append]⟩

theorem accessArguments_invokes {arguments : List String} (isBuffer : access.info.dim = .dimBuffer)
    (found : c.accessArguments access = .ok arguments) :
    ∃ argument ∈ arguments, Invokes "spvTexelBufferCoord" argument := by
  simp only [Compiler.accessArguments, Except.bind_ok] at found
  obtain ⟨coordinates, coordinated, _, _, _, _, _, _, _, _, _, _, _, _, found⟩ := found
  obtain ⟨argument, member, invokes⟩ := coordinateArguments_invokes isBuffer coordinated
  refine ⟨argument, ?_, invokes⟩
  split at found
  · obtain ⟨_, _, found⟩ := Except.bind_ok.mp found
    obtain rfl := Except.ok.inj found
    simp [member]
  · obtain rfl := Except.ok.inj found
    simp [member]

/-- The parts of a sample: its arguments are arguments of its text, which may be swizzled. -/
structure SampleParts (c : Compiler) (access : ImageAccess) (text : String)
    (arguments : List String) (type : Id) (swizzles : Bool) : Prop where
  collected : c.accessArguments access = .ok arguments
  typed : c.program.typeOf? access.image = some type
  needed : c.needsSwizzle type = .ok swizzles
  argument : ∀ argument ∈ arguments, ∀ name, Invokes name argument → Invokes name text
  sample : swizzles = true → access.op.isComparison = false → access.op.isGather = false →
    Invokes "spvTextureSwizzle" text
  gather : swizzles = true → access.op.isGather = true → access.op.isFetch = false →
    Invokes (if access.op.isComparison then "spvGatherCompareSwizzle" else "spvGatherSwizzle") text

/-- The text of a sample behind the choice of its sampler and its method. -/
def sampleTextWith (c : Compiler) (access : ImageAccess) (sampler : Option String)
    (method : String) : Except Fault String := do
  let arguments ← c.accessArguments access
  let image ← c.textOf access.image
  match c.program.typeOf? access.image with
  | none => .error (.internal (.imageWithoutType access.image))
  | some type =>
    let swizzles ← c.needsSwizzle type
    match access.op.isGather && swizzles, sampler with
    | true, some sampler => c.swizzledGather access type image sampler arguments
    | _, _ =>
      let suffix := if access.op.isComparison then "_compare" else ""
      let call := applied s!"{image}.{method}{suffix}" (sampler.toList ++ arguments)
      if swizzles && !access.op.isComparison then
        return s!"spvTextureSwizzle({call}, {← c.swizzleText access.image})"
      else return call

theorem sampleText_eq (c : Compiler) (access : ImageAccess) : c.sampleText access =
      if access.op.isFetch then sampleTextWith c access none "read"
      else
        c.samplerText access.image >>= fun sampler =>
          sampleTextWith c access (some sampler)
            (if access.op.isGather then "gather" else "sample") := by
  unfold sampleText
  dsimp only
  cases access.op.isFetch <;> rfl

theorem swizzledGather_invokes {type : Id} {image sampler text : String} {arguments : List String}
    (found : c.swizzledGather access type image sampler arguments = .ok text) :
    (∀ argument ∈ arguments, ∀ name, Invokes name argument → Invokes name text) ∧
      Invokes (if access.op.isComparison then "spvGatherCompareSwizzle" else "spvGatherSwizzle")
        text := by
  obtain ⟨scalar, _, found⟩ := Except.bind_ok.mp found
  obtain ⟨texture, _, found⟩ := Except.bind_ok.mp found
  obtain ⟨swizzle, _, found⟩ := Except.bind_ok.mp found
  obtain rfl := Except.ok.inj found
  refine ⟨fun argument member name invokes => invokes.argument (by simp [member]), ?_⟩
  refine ⟨"", "<", scalar ++ ", " ++ texture ++ ">" ++ "(" ++
    ", ".intercalate ([sampler, image] ++ arguments ++ [swizzle]) ++ ")", .inr rfl, ?_⟩
  simp only [applied, toString, String.append_assoc, String.empty_append]

theorem methodText_ok {type : Id} {callee text : String} {front arguments : List String}
    (collected : c.accessArguments access = .ok arguments)
    (typed : c.program.typeOf? access.image = some type)
    (needed : c.needsSwizzle type = .ok swizzles)
    (ungathered : swizzles = true → access.op.isGather = true → access.op.isFetch = true)
    (found : (if swizzles && !access.op.isComparison then do
        let call := applied callee (front ++ arguments)
        return s!"spvTextureSwizzle({call}, {← c.swizzleText access.image})"
      else return applied callee (front ++ arguments)) = .ok text) :
    SampleParts c access text arguments type swizzles := by
  have call : ∀ argument ∈ arguments, ∀ name, Invokes name argument →
      Invokes name (applied callee (front ++ arguments)) :=
    fun argument member name invokes => invokes.argument (by simp [member])
  have fetched : swizzles = true → access.op.isGather = true → access.op.isFetch = false → False :=
    fun swizzled gathers reads => by simp [ungathered swizzled gathers] at reads
  split at found
  · obtain ⟨swizzle, _, found⟩ := Except.bind_ok.mp found
    obtain rfl := Except.ok.inj found
    refine ⟨collected, typed, needed, fun argument member name invokes => ?_, fun _ _ _ => ?_,
      fun swizzled gathers reads => (fetched swizzled gathers reads).elim⟩
    · have outer := (call argument member name invokes).within "spvTextureSwizzle("
        (", " ++ swizzle ++ ")")
      simpa only [toString, String.append_assoc] using outer
    · have opens : "spvTextureSwizzle(" = "spvTextureSwizzle" ++ "(" := rfl
      refine ⟨"", "(", applied callee (front ++ arguments) ++ ", " ++ swizzle ++ ")", .inl rfl, ?_⟩
      simp only [toString, opens, String.append_assoc, String.empty_append]
  · rename_i plain
    obtain rfl := Except.ok.inj found
    exact ⟨collected, typed, needed, call,
      fun swizzled compares => by simp [swizzled, compares] at plain,
      fun swizzled gathers reads => (fetched swizzled gathers reads).elim⟩

theorem sampleTextWith_ok {sampler : Option String} {method text : String}
    (sampling : access.op.isFetch = false → sampler.isSome = true)
    (found : sampleTextWith c access sampler method = .ok text) :
    ∃ arguments type swizzles, SampleParts c access text arguments type swizzles := by
  obtain ⟨arguments, collected, found⟩ := Except.bind_ok.mp found
  obtain ⟨image, _, found⟩ := Except.bind_ok.mp found
  cases typed : c.program.typeOf? access.image with
  | none =>
    rw [typed] at found
    cases found
  | some type =>
    simp only [typed] at found
    obtain ⟨swizzles, needed, found⟩ := Except.bind_ok.mp found
    refine ⟨arguments, type, swizzles, ?_⟩
    cases gathers : access.op.isGather && swizzles with
    | false =>
      simp only [gathers] at found
      refine methodText_ok collected typed needed (fun swizzled gathered => ?_) found
      rw [gathered, swizzled] at gathers
      cases gathers
    | true =>
      cases sampler with
      | none =>
        simp only [gathers] at found
        refine methodText_ok collected typed needed (fun _ _ => ?_) found
        by_contra reads
        exact Bool.noConfusion (sampling (by simpa using reads))
      | some sampler =>
        simp only [gathers] at found
        obtain ⟨inner, outer⟩ := swizzledGather_invokes found
        rw [Bool.and_eq_true] at gathers
        exact ⟨collected, typed, needed, inner, fun _ _ plain => by simp [gathers.1] at plain,
          fun _ _ _ => outer⟩

theorem sampleText_ok {text : String} (found : c.sampleText access = .ok text) :
    ∃ arguments type swizzles, SampleParts c access text arguments type swizzles := by
  rw [sampleText_eq] at found
  split at found
  · rename_i fetches
    exact sampleTextWith_ok (by simp [fetches]) found
  · obtain ⟨sampler, _, found⟩ := Except.bind_ok.mp found
    exact sampleTextWith_ok (fun _ => rfl) found

theorem accessResult_ok {type : Id} {text : String}
    (found : c.accessResult access type = .ok text) :
    ∃ sampled, c.sampleText access = .ok sampled ∧
      ∀ name, Invokes name sampled → Invokes name text := by
  obtain ⟨sampled, sampling, found⟩ := Except.bind_ok.mp found
  refine ⟨sampled, sampling, fun name invokes => ?_⟩
  dsimp only at found
  split at found
  · obtain ⟨_, _, found⟩ := Except.bind_ok.mp found
    split at found
    · obtain ⟨spelled, _, found⟩ := Except.bind_ok.mp found
      obtain rfl := Except.ok.inj found
      exact invokes.within (spelled ++ "(") ")"
    · obtain rfl := Except.ok.inj found
      exact invokes
  · obtain rfl := Except.ok.inj found
    exact invokes

theorem optional_ok {condition : Prop} [Decidable condition] {step : Emit Unit}
    {next : Unit → Emit Unit} (advancing : Advancing step)
    (done : (if condition then step >>= next else next ()) c = .ok u c') :
    ∃ middle : Compiler, c.Advances middle ∧ next () middle = .ok u c' := by
  split at done
  · obtain ⟨_, middle, stepped, done⟩ := bind_ok.mp done
    exact ⟨middle, advancing.keeps stepped, done⟩
  · exact ⟨c, .refl c, done⟩

/-- A call in the text of a sample is in the line of the access. The sample is written for a program
that is alike, with the same plan. -/
theorem imageAccess_writesCall (imaged : inst.word? 2 = some image)
    (done : imageAccess inst c = .ok u c')
    (call : ∀ {noted : Compiler} {access : ImageAccess} {text arguments type swizzles},
      c.Advances noted → access.op = inst.op → access.image = image →
      c.imageInfo image = .ok access.info →
      SampleParts noted access text arguments type swizzles → Invokes name text) :
    WritesHelperCall name c c' := by
  unfold imageAccess at done
  split at done
  · exact (fail_bind done).elim
  · replace done := (word_known imaged).mp done
    obtain ⟨info, described, done⟩ := read_bind.mp done
    obtain ⟨operands, _, done⟩ := lift_bind.mp done
    obtain ⟨noted, reached, done⟩ := optional_ok (Advancing.noteImageAccess image rfl) done
    obtain ⟨type, _, done⟩ := word_bind.mp done
    replace done := get_bind.mp done
    obtain ⟨coordinate, _, done⟩ := word_bind.mp done
    obtain ⟨text, accessed, done⟩ := lift_bind.mp done
    obtain ⟨result, _, done⟩ := word_bind.mp done
    obtain ⟨sampled, sampling, inner⟩ := accessResult_ok accessed
    obtain ⟨_, _, _, parts⟩ := sampleText_ok sampling
    have invokes := inner name (call reached rfl rfl described parts)
    exact (define_writesCall done invokes).within reached (.refl c')

theorem SampleParts.swizzles_eq {noted : Compiler} {text : String} {arguments : List String}
    {type type' : Id} (parts : SampleParts noted access text arguments type' swizzles)
    (reached : c.Advances noted) (same : access.image = image)
    (typed : c.program.typeOf? image = some type) (swizzled : c.needsSwizzle type = .ok true) :
    swizzles = true := by
  have found := parts.typed
  rw [same, reached.program.typeOf?_eq, typed] at found
  obtain rfl := Option.some.inj found
  have aux : noted.plan.auxBuffer = c.plan.auxBuffer :=
    settled_eq (·.auxBuffer) (fun _ => rfl) reached.plan
  have needed := parts.needed
  rw [needsSwizzle, aux, funext reached.program.pointee_eq] at needed
  exact (Except.ok.inj (swizzled.symm.trans needed)).symm

theorem imageWrite_writesCall (imaged : inst.word? 0 = some image)
    (described : c.imageInfo image = .ok info) (isBuffer : info.dim = .dimBuffer)
    (done : imageWrite inst c = .ok u c') : WritesHelperCall "spvTexelBufferCoord" c c' := by
  unfold imageWrite at done
  split at done
  · exact (fail_bind done).elim
  · replace done := (word_known imaged).mp done
    replace done := get_bind.mp done
    replace done := (lift_known described).mp done
    obtain ⟨operands, _, done⟩ := lift_bind.mp done
    obtain ⟨_, noted, noting, done⟩ := bind_ok.mp done
    have reached : c.Advances noted := (Advancing.noteImageAccess image rfl).keeps noting
    replace done := get_bind.mp done
    obtain ⟨_, _, done⟩ := word_bind.mp done
    obtain ⟨texel, _, done⟩ := lift_bind.mp done
    obtain ⟨_, _, done⟩ := word_bind.mp done
    obtain ⟨coordinates, coordinated, done⟩ := lift_bind.mp done
    obtain ⟨argument, member, invokes⟩ := coordinateArguments_invokes isBuffer coordinated
    have written {level : List String} (done : (do
          let text ← noted.textOf image
          statement (applied s!"{text}.write" ([texel] ++ coordinates ++ level) ++ ";") :
          Emit Unit) noted = .ok u c') : WritesHelperCall "spvTexelBufferCoord" c c' := by
      obtain ⟨text, _, done⟩ := lift_bind.mp done
      have call : Invokes "spvTexelBufferCoord"
          (applied s!"{text}.write" ([texel] ++ coordinates ++ level)) :=
        invokes.argument (by simp [member])
      have line := call.within "" ";"
      rw [String.empty_append] at line
      exact (statement_writesCall done line).within reached (.refl c')
    cases lod : operands.lod with
    | none =>
      simp only [lod, pure_bind] at done
      exact written done
    | some level =>
      simp only [lod, isBuffer, decide_true, Bool.or_true, if_true, pure_bind] at done
      exact written done

theorem lower_imageAccess (reads : inst.op.isSample = true ∨ inst.op = .imageRead) :
    lower inst = imageAccess inst := by
  rcases inst with ⟨op, words⟩
  dsimp only at reads
  rcases reads with samples | rfl
  · cases op <;> first | rfl | cases samples
  · rfl

theorem resultType?_eq {program : Program} (named : inst.word? 0 = some typeId)
    (typed : program.getType typeId = .ok type) : program.resultType? inst = some type := by
  simp [Program.resultType?, named, typed, Except.toOption]

theorem loadRowMajor_ok (typed : c.program.resultType? inst = some type)
    (plain : type.isOpaque = false) (isMatrix : type.isMatrix = true)
    (pointed : inst.word? 2 = some pointer) (byRows : pointer ∈ c.pass.rowMajor)
    (loose : pointer ∉ c.pass.packed)
    (found : Helper.rowMajor? type.columns type.components = some helper)
    (done : load inst c = .ok u c') :
    ∃ (typeId result : Id) (source : String) (backed required : Compiler), c.Advances backed ∧
      requireHelper helper backed = .ok () required ∧
      define typeId result s!"spvConvertFromRowMajor{type.columns}x{type.components}({source})"
        required = .ok u c' := by
  obtain ⟨typeId, result, _, _, source, named, _, word, typing, _, loading⟩ := load_ok done
  obtain rfl := Option.some.inj (pointed.symm.trans word)
  obtain rfl := Option.some.inj (typed.symm.trans (resultType?_eq named typing))
  obtain ⟨backed, backing, done⟩ := loading plain
  obtain ⟨-, rows, packed⟩ := setBacking_keeps backing
  have single : type.isArray = false := by simpa using (Bool.and_eq_true_iff.mp isMatrix).2
  simp only [single, rows, byRows, isMatrix, packed, loose, decide_true, decide_false,
    Bool.and_self, Bool.false_eq_true, if_false, if_true] at done
  unfold loadRowMajor at done
  have oblong : type.columns ≠ type.components := by
    intro square
    rw [square] at found
    unfold Helper.rowMajor? at found
    split at found <;> simp_all
  simp only [oblong, decide_false, Bool.or_self, Bool.false_eq_true, if_false, found] at done
  obtain ⟨_, required, requiring, done⟩ := bind_ok.mp done
  exact ⟨typeId, result, source, backed, required, advances backing, requiring, done⟩

theorem lower_imageWrite (op : inst.op = .imageWrite) : lower inst = imageWrite inst := by
  rcases inst with ⟨_, words⟩
  obtain rfl := op
  rfl

theorem lower_value (op : inst.op = .fMod ∨ inst.op = .compositeConstruct) :
    lower inst = value inst := by
  rcases inst with ⟨_, words⟩
  rcases op with rfl | rfl <;> rfl

theorem lower_writesCall (calls : Calls c inst helper name) (done : lower inst c = .ok u c') :
    WritesHelperCall name c c' := by
  induction calls with
  | loadArray op typed plain isArray pointed placed =>
    simp only [lower, op] at done
    obtain ⟨typeId, result, _, _, source, named, _, found, typing, _, loading⟩ := load_ok done
    obtain rfl := Option.some.inj (pointed.symm.trans found)
    obtain rfl := Option.some.inj (typed.symm.trans (resultType?_eq named typing))
    obtain ⟨backed, backing, done⟩ := loading plain
    obtain ⟨kept, -⟩ := setBacking_keeps backing
    rw [if_pos isArray] at done
    exact (loadArray_writesCall (kept.trans placed) done).within (advances backing) (.refl _)
  | loadRowMajor op typed plain isMatrix pointed byRows loose found =>
    simp only [lower, op] at done
    obtain ⟨_, _, source, _, _, reached, requiring, defining⟩ :=
      loadRowMajor_ok typed plain isMatrix pointed byRows loose found done
    have required : Advances .. := (Always.requireHelper found).keeps requiring
    refine (define_writesCall defining ?_).within (reached.trans required) (.refl c')
    exact ⟨"", "(", source ++ ")", .inl rfl, by
      simp only [toString, String.append_assoc, String.empty_append]⟩
  | storeArray op stored typed isArray =>
    simp only [lower, op] at done
    obtain ⟨_, _, done⟩ := need_bind.mp done
    obtain ⟨pointer, _, done⟩ := word_bind.mp done
    replace done := (word_known stored).mp done
    obtain ⟨target, _, done⟩ := text_bind.mp done
    obtain ⟨source, _, done⟩ := text_bind.mp done
    replace done := get_bind.mp done
    replace done := (lift_known typed).mp done
    rw [if_pos isArray] at done
    obtain ⟨_, checked, checking, done⟩ := bind_ok.mp done
    exact (copyArray_writesCall done).within (advances checking) (.refl _)
  | copyMemory op written read typed pointed isArray placed =>
    simp only [lower, op] at done
    exact copyMemory_writesCall written read typed pointed isArray placed done
  | constructArray op named typed isArray inner nested =>
    rw [lower_value (.inr op)] at done
    obtain ⟨_, whole, done⟩ := need_bind.mp done
    simp only [op] at done
    exact compositeConstruct_writesCall named typed isArray inner nested whole done
  | remainder op =>
    rw [lower_value (.inl op)] at done
    exact remainder_writesCall op done
  | extended code typed fromSet known numbered decoded found named =>
    simp only [lower, code] at done
    obtain ⟨_, _, _, _, _, text, middle, _, _, numbered', decoded', computing, defining⟩ :=
      extended_ok done
    obtain rfl := Option.some.inj (numbered.symm.trans numbered')
    obtain rfl := Option.some.inj (decoded.symm.trans decoded')
    exact (define_writesCall defining (extendedText_invokes found named computing)).within
      (advances computing) (.refl c')
  | inverse code named typed fromSet known numbered decoded found =>
    simp only [lower, code] at done
    obtain ⟨_, _, _, _, _, text, middle, named', _, numbered', decoded', computing, defining⟩ :=
      extended_ok done
    obtain rfl := Option.some.inj (named.symm.trans named')
    obtain rfl := Option.some.inj (numbered.symm.trans numbered')
    obtain rfl := Option.some.inj (decoded.symm.trans decoded')
    exact (define_writesCall defining (matrixInverse_invokes typed computing)).within
      (advances computing) (.refl c')
  | texelBuffer accesses imaged described isBuffer =>
    simp only [Op.accessesImage, Bool.or_eq_true, decide_eq_true_eq] at accesses
    by_cases writes : inst.op = .imageWrite
    · rw [Instruction.image?, if_pos writes] at imaged
      rw [lower_imageWrite writes] at done
      exact imageWrite_writesCall imaged described isBuffer done
    · rw [Instruction.image?, if_neg writes] at imaged
      rw [lower_imageAccess (accesses.resolve_right writes)] at done
      refine imageAccess_writesCall imaged done fun _ _ _ described' parts => ?_
      have buffer := Except.ok.inj (described.symm.trans described') ▸ isBuffer
      obtain ⟨argument, member, invokes⟩ := accessArguments_invokes buffer parts.collected
      exact parts.argument argument member _ invokes
  | sample reads plain imaged typed swizzled =>
    rw [lower_imageAccess reads] at done
    refine imageAccess_writesCall imaged done fun reached op same _ parts => ?_
    obtain ⟨compares, gathers⟩ := plain
    exact parts.sample (parts.swizzles_eq reached same typed swizzled) (op ▸ compares)
      (op ▸ gathers)
  | gather gathers imaged typed swizzled =>
    rw [lower_imageAccess (.inl (Op.isSample_of_isGather gathers))] at done
    refine imageAccess_writesCall imaged done fun reached op same _ parts => ?_
    have call := parts.gather (parts.swizzles_eq reached same typed swizzled) (op ▸ gathers)
      (op ▸ Op.isFetch_of_isGather gathers)
    rwa [op] at call

theorem place_of_converts (converts : helper.Converts) : 12 ≤ helper.place ∧ helper.place ≤ 17 := by
  obtain ⟨_, _, found⟩ := converts
  unfold Helper.rowMajor? at found
  split at found <;> cases found <;> decide

theorem lower_converts (calls : Calls c inst helper name) (converts : helper.Converts)
    (done : lower inst c = .ok u c') : helper ∈ c'.session.helpers := by
  have place := place_of_converts converts
  induction calls with
  | loadRowMajor op typed plain isMatrix pointed byRows loose found =>
    simp only [lower, op] at done
    obtain ⟨_, _, _, _, required, _, requiring, defining⟩ :=
      loadRowMajor_ok typed plain isMatrix pointed byRows loose found done
    refine (advances defining).session.helpers ((requireHelper_enlists requiring _).mpr (.inr ?_))
    exact ⟨_, List.mem_singleton.mpr rfl, Helper.closure_rowMajor found ▸ List.mem_singleton.mpr
      rfl⟩
  | loadArray | storeArray | copyMemory | constructArray => simp [Helper.place] at place
  | remainder | texelBuffer | sample | gather => simp [Helper.place] at place
  | extended _ _ _ _ _ _ found =>
    unfold GlslOp.helper? at found
    split at found <;> cases found <;> simp [Helper.place] at place
  | inverse _ _ _ _ _ _ _ found =>
    unfold Helper.inverse? at found
    split at found <;> cases found <;> simp [Helper.place] at place

end Emit

end SpirvMetal
