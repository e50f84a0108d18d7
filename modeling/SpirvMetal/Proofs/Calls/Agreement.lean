import SpirvMetal.Proofs.Calls.Positions
import SpirvMetal.Proofs.Passes.Text
import SpirvMetal.Proofs.Threading.Exact

/-!
Calls agree with signatures in the text of a compilation: what is passed and what is declared has
the same kinds, position by position, exactly where no builtin of a block has the type of an image.
-/

namespace SpirvMetal

open Compiler

namespace Compiler

variable {c d : Compiler}

theorem companions_eq (advances : c.Advances d) : d.companions = c.companions := by
  have aux : d.plan.settled.auxBuffer = c.plan.settled.auxBuffer := by rw [advances.plan]
  change d.plan.auxBuffer = c.plan.auxBuffer at aux
  funext type
  simp only [companions, advances.program.pointee_eq, aux]

theorem isBlockBuiltin_eq (advances : c.Advances d) : d.isBlockBuiltin = c.isBlockBuiltin := by
  funext parameter
  rw [isBlockBuiltin, isBlockBuiltin, advances.program.variableAt?_eq]

theorem argumentKinds_eq (advances : c.Advances d) : d.argumentKinds = c.argumentKinds := by
  funext parameter
  rw [argumentKinds, argumentKinds, isBlockBuiltin_eq advances, companions_eq advances]

theorem parameterKinds_eq (advances : c.Advances d) : d.parameterKinds = c.parameterKinds := by
  funext parameter
  rw [parameterKinds, parameterKinds, isBlockBuiltin_eq advances, companions_eq advances]

end Compiler

namespace Emit

open Compiler (Position)

variable {c c' start stop : Compiler} {u : Unit} {inst : Instruction} {function callee : Id}

theorem statement_written {text : String} (run : statement text c = .ok u c') :
    ⟨c.pass.depth, text⟩ ∈ c'.pass.lines.toList := by
  obtain rfl := modifyPass_ok.mp run
  simp

theorem mapM_reads {α β : Type} {step : α → Emit β} {read : α → Except Fault β} {items : List α}
    {results : List β}
    (reads : ∀ item result c', step item c = .ok result c' ↔ read item = .ok result ∧ c = c') :
    items.mapM step c = .ok results c' ↔ items.mapM read = .ok results ∧ c = c' := by
  induction items generalizing results with
  | nil =>
    rw [List.mapM_nil, List.mapM_nil, pure_ok]
    simp [pure, Except.pure]
  | cons first rest ih =>
    simp only [List.mapM_cons, bind_ok, Except.bind_ok, pure_ok, reads]
    constructor
    · rintro ⟨result, _, ⟨here, rfl⟩, others, middle, later, rfl, rfl⟩
      obtain ⟨rest, rfl⟩ := ih.mp later
      exact ⟨⟨result, here, others, rest, rfl⟩, rfl⟩
    · rintro ⟨⟨result, here, others, later, same⟩, rfl⟩
      exact ⟨result, c, ⟨here, rfl⟩, others, c, ih.mpr ⟨later, rfl⟩, Except.ok.inj same, rfl⟩

def IsCall (call line : String) : Prop :=
  line = call ++ ";" ∨ ∃ target, line = target ++ " = " ++ call ++ ";"

theorem functionCall_written (run : functionCall inst c = .ok u c') :
    ∃ callee found arguments, inst.word? 2 = some callee ∧
      c.program.getFunction callee = .ok found ∧
      c.callPositions callee (inst.words.drop 3) found.parameters = .ok arguments ∧
      ∃ line ∈ c'.pass.lines.toList,
        IsCall (applied (c.program.plainName callee) (arguments.map (·.text))) line.text := by
  obtain ⟨_, _, run⟩ := need_bind.mp run
  obtain ⟨type, _, run⟩ := word_bind.mp run
  obtain ⟨result, _, run⟩ := word_bind.mp run
  obtain ⟨callee, named, run⟩ := word_bind.mp run
  obtain ⟨found, stored, run⟩ := read_bind.mp run
  obtain ⟨texts, _, mapped, run⟩ := bind_ok.mp run
  have reads (item : Parameter × Nat) (texts : List String) (after : Compiler) :
      (do
        liftM (c.argumentTexts item.1
          (← liftM (c.argumentFor callee (inst.words.drop 3) item.2 item.1))) :
            Emit (List String)) c =
        .ok texts after ↔
      List.map (·.text) <$> (c.argumentFor callee (inst.words.drop 3) item.2 item.1 >>=
        c.argumentPositions item.1) = .ok texts ∧ c = after := by
    simp only [bind_ok, lift_ok, argumentTexts_eq, map_bind, Except.bind_ok]
    grind
  obtain ⟨spelled, rfl⟩ := (mapM_reads reads).mp mapped
  rw [mapM_map_right] at spelled
  obtain ⟨parts, placed, rfl⟩ := map_ok.mp spelled
  refine ⟨callee, found, parts.flatten, named, stored, Except.bind_ok.mpr ⟨parts, placed, rfl⟩, ?_⟩
  rw [List.map_flatten]
  obtain ⟨kind, _, run⟩ := getType_bind.mp run
  split at run
  · exact ⟨_, statement_written run, .inl rfl⟩
  · replace run := get_bind.mp run
    split at run
    · obtain ⟨_, written, writing, run⟩ := bind_ok.mp run
      exact ⟨_, (advances run).lines.subset (statement_written writing), .inr ⟨_, rfl⟩⟩
    · obtain ⟨declared, _, lifted, run⟩ := bind_ok.mp run
      obtain ⟨_, written, writing, run⟩ := bind_ok.mp run
      exact ⟨_, (advances run).lines.subset (statement_written writing), .inr ⟨_, rfl⟩⟩

/-- A pass writes the call of an instruction, with these arguments. -/
structure WritesCall (start stop : Compiler) (inst : Instruction) (callee : Id)
    (arguments : List Position) : Prop where
  names : inst.word? 2 = some callee
  writes : ∃ printing found, start.Advances printing ∧
    printing.program.getFunction callee = .ok found ∧
    printing.callPositions callee (inst.words.drop 3) found.parameters = .ok arguments ∧
    ∃ line ∈ stop.pass.lines.toList,
      IsCall (applied (printing.program.plainName callee) (arguments.map (·.text))) line.text

def WritesSignature (start stop : Compiler) (function : Id) (parameters : List Position) : Prop :=
  ∃ printing found returned, start.Advances printing ∧
    printing.program.getFunction function = .ok found ∧
    printing.signaturePositions found.parameters = .ok parameters ∧
    ∃ line ∈ stop.pass.lines.toList,
      line.text = applied (returned ++ " " ++ printing.program.plainName function)
        (parameters.map (·.text))

theorem pass_writes_signature (run : pass start = .ok u stop)
    (ordered : function ∈ start.plan.callGraph.order) (other : function ≠ start.plan.entry) :
    ∃ parameters, WritesSignature start stop function parameters := by
  obtain ⟨before, after, earlier, run, later⟩ := pass_runs_function run ordered
  obtain ⟨printing, printed, line, begun, bodyRuns, writing, signed⟩ := function_runs run
  have signed := signed (by rwa [settled_entry earlier.plan])
  obtain ⟨found, parameters, returned, stored, placed, rfl⟩ :=
    functionSignature_ok signed
  obtain ⟨opened, closed, inner, bodyRun, outer⟩ := bodyRuns
  have kept : printed.Advances stop :=
    ((inner.trans (advances bodyRun)).trans outer).trans later
  exact ⟨parameters, printing, found, returned, earlier.trans begun, stored, placed, _,
    kept.lines.subset (statement_written writing), rfl⟩

theorem pass_writes_call {found : Function} {block : Block} (run : pass start = .ok u stop)
    (ordered : function ∈ start.plan.callGraph.order)
    (stored : start.program.getFunction function = .ok found)
    (listed : IsListed start.program found block) (member : inst ∈ block.body)
    (calls : inst.op = .functionCall) :
    ∃ callee arguments, WritesCall start stop inst callee arguments := by
  obtain ⟨before, after, earlier, lowered, later⟩ :=
    pass_runs_instruction run ordered stored listed member
  simp only [lower, calls] at lowered
  obtain ⟨callee, found, arguments, names, stored, placed, line, written, isCall⟩ :=
    functionCall_written lowered
  exact ⟨callee, arguments, names, before, found, earlier, stored, placed, line,
    later.lines.subset written, isCall⟩

theorem kinds_of_call {arguments parameters : List Position}
    (call : WritesCall start stop inst callee arguments)
    (signature : WritesSignature start stop callee parameters) :
    ∃ found, start.program.getFunction callee = .ok found ∧
      arguments.map (·.kind) = found.parameters.flatMap start.argumentKinds ∧
      parameters.map (·.kind) = found.parameters.flatMap start.parameterKinds := by
  obtain ⟨calling, found, reached, stored, placed, _⟩ := call.writes
  obtain ⟨signing, found', _, reached', stored', placed', _⟩ := signature
  rw [reached.program.getFunction_eq] at stored
  rw [reached'.program.getFunction_eq, stored] at stored'
  cases stored'
  refine ⟨found, stored, ?_, ?_⟩
  · rw [callPositions_kinds placed, argumentKinds_eq reached]
  · rw [signaturePositions_kinds placed', parameterKinds_eq reached']

/-- Calls and signatures agree in the text of a compilation, position by position, exactly if no
parameter for a builtin of a block is followed by a sampler or a swizzle constant. -/
theorem compile_calls_agree {text : String} (compiled : compile c = .ok text stop) :
    ∃ start, pass start = .ok () stop ∧ stop.output = text ∧
      (∀ function ∈ start.plan.callGraph.order, function ≠ start.plan.entry →
        ∃ parameters, WritesSignature start stop function parameters) ∧
      (∀ function ∈ start.plan.callGraph.order, ∀ found block inst,
        start.program.getFunction function = .ok found → IsListed start.program found block →
        inst ∈ block.body → inst.op = .functionCall →
        ∃ callee arguments, WritesCall start stop inst callee arguments) ∧
      ∀ inst callee arguments parameters, WritesCall start stop inst callee arguments →
        WritesSignature start stop callee parameters →
        ∃ found, start.program.getFunction callee = .ok found ∧
          (arguments.map (·.kind) = parameters.map (·.kind) ↔
            ∀ parameter ∈ found.parameters, start.isBlockBuiltin parameter = true →
              start.companions parameter.type = []) := by
  obtain ⟨ready, start, _, writes, same⟩ := compile_last compiled
  refine ⟨start, writes.written, same, fun function ordered other =>
    pass_writes_signature writes.written ordered other,
    fun function ordered found block inst stored listed member calls =>
      pass_writes_call writes.written ordered stored listed member calls,
    fun inst callee arguments parameters call signature => ?_⟩
  obtain ⟨found, stored, argumentKinds, parameterKinds⟩ := kinds_of_call call signature
  refine ⟨found, stored, ?_⟩
  rw [argumentKinds, parameterKinds]
  exact start.kinds_agree_iff found.parameters

/-- A function with a parameter of its own gets an image with a sampler, a texel buffer and the
position in a block of builtins. -/
def mixedParameters : Spirv.Module where
  entryPoints := [.entry .vertex 20 [6]]
  annotations := [⟨.memberDecorate, none, none,
    [.idRef 4, .literal 0, .decoration .builtIn, .builtIn .position]⟩]
  globals := [⟨.typeVoid, none, some 1, []⟩, ⟨.typeFloat, none, some 2, [.literal 32]⟩,
    ⟨.typeVector, none, some 3, [.idRef 2, .literal 4]⟩,
    ⟨.typeStruct, none, some 4, [.idRef 3]⟩, .pointer 5 .output 4, .variable 6 5 .output,
    .pointer 7 .output 3,
    ⟨.typeInt, none, some 8, [.literal 32, .literal 1]⟩,
    ⟨.constant, some 8, some 9, [.literal 0]⟩,
    ⟨.typeImage, none, some 10, [.idRef 2, .dim .dim2D, .literal 0, .literal 0, .literal 0,
      .literal 1, .imageFormat .unknown]⟩,
    ⟨.typeSampledImage, none, some 11, [.idRef 10]⟩, .pointer 12 .uniformConstant 11,
    .variable 13 12 .uniformConstant,
    ⟨.typeImage, none, some 14, [.idRef 2, .dim .dimBuffer, .literal 0, .literal 0, .literal 0,
      .literal 1, .imageFormat .unknown]⟩,
    .pointer 15 .uniformConstant 14, .variable 16 15 .uniformConstant,
    ⟨.typeVector, none, some 17, [.idRef 2, .literal 2]⟩,
    ⟨.constant, some 2, some 18, [.literal 0]⟩,
    ⟨.constantComposite, some 17, some 19, [.idRef 18, .idRef 18]⟩,
    ⟨.typeFunction, none, some 25, [.idRef 1, .idRef 2]⟩,
    ⟨.typeFunction, none, some 26, [.idRef 1]⟩]
  functions := [
    { definition := some ⟨.function, some 1, some 21, [.mask .functionControl 0, .idRef 25]⟩
      parameters := [⟨.functionParameter, some 2, some 30, []⟩]
      blocks := [{
        label := some ⟨.label, none, some 27, []⟩
        instructions := [⟨.load, some 11, some 31, [.idRef 13]⟩,
          ⟨.imageSampleExplicitLod, some 3, some 32,
            [.idRef 31, .idRef 19, .mask .imageOperands 2, .idRef 18]⟩,
          ⟨.load, some 14, some 33, [.idRef 16]⟩,
          ⟨.imageFetch, some 3, some 34, [.idRef 33, .idRef 9]⟩,
          ⟨.accessChain, some 7, some 35, [.idRef 6, .idRef 9]⟩,
          ⟨.store, none, none, [.idRef 35, .idRef 32]⟩,
          ⟨.ret, none, none, []⟩] }] },
    .ofBody 1 20 26 28 [⟨.functionCall, some 1, some 40, [.idRef 21, .idRef 18]⟩]]

theorem compile_calls_agree_mixedParameters :
    ∃ program text stop start, Program.ofModule mixedParameters = .ok program ∧
      compile (Compiler.new program { swizzleTextures := true }) = .ok text stop ∧
      pass start = .ok () stop ∧
      (stop.program.functionAt? 21).map (·.parameters.flatMap stop.parameterKinds) =
        some [.plain, .builtin, .plain, .sampler, .swizzle, .plain] ∧
      ∀ inst arguments parameters, WritesCall start stop inst 21 arguments →
        WritesSignature start stop 21 parameters →
        arguments.map (·.kind) = parameters.map (·.kind) := by
  have computed : (compiled? mixedParameters { swizzleTextures := true }).any (fun stop =>
      (stop.program.functionAt? 21).map (·.parameters.flatMap stop.parameterKinds) =
        some [.plain, .builtin, .plain, .sampler, .swizzle, .plain] ∧
      (stop.program.functionAt? 21).all fun found => found.parameters.all fun parameter =>
        !stop.isBlockBuiltin parameter || stop.companions parameter.type = []) = true := by
    decide +kernel
  obtain ⟨program, text, stop, loaded, compiled, kinds, alone⟩ := compiled?_decide computed
  obtain ⟨start, written, _, _, _, agree⟩ := compile_calls_agree compiled
  refine ⟨program, text, stop, start, loaded, compiled, written, kinds,
    fun inst arguments parameters call signature => ?_⟩
  obtain ⟨callee, stored, agree⟩ := agree inst 21 arguments parameters call signature
  have reached : start.Advances stop := advances written
  rw [← reached.program.getFunction_eq, Program.getFunction_ok] at stored
  refine agree.mpr fun parameter member carries => ?_
  rw [← Compiler.isBlockBuiltin_eq reached] at carries
  rw [← Compiler.companions_eq reached]
  simp only [stored, Option.all_some, List.all_eq_true] at alone
  simpa [carries] using alone parameter member

/-- The only builtin of a block is declared as an image with a sampler, and a function takes its
address. -/
def builtinImage : Spirv.Module where
  entryPoints := [.entry .vertex 20 [12]]
  annotations := [⟨.memberDecorate, none, none,
    [.idRef 9, .literal 0, .decoration .builtIn, .builtIn .position]⟩]
  globals := [⟨.typeVoid, none, some 2, []⟩, ⟨.typeFloat, none, some 3, [.literal 32]⟩,
    ⟨.typeImage, none, some 5, [.idRef 3, .dim .dim2D, .literal 0, .literal 0, .literal 0,
      .literal 1, .imageFormat .unknown]⟩,
    ⟨.typeSampledImage, none, some 6, [.idRef 5]⟩,
    ⟨.typeInt, none, some 7, [.literal 32, .literal 1]⟩,
    ⟨.constant, some 7, some 8, [.literal 0]⟩,
    ⟨.typeStruct, none, some 9, [.idRef 6]⟩, .pointer 10 .output 9, .variable 12 10 .output,
    .pointer 11 .output 6,
    ⟨.typeFunction, none, some 13, [.idRef 2]⟩]
  functions := [
    .ofBody 2 21 13 22 [⟨.accessChain, some 11, some 23, [.idRef 12, .idRef 8]⟩],
    .ofBody 2 20 13 24 [⟨.functionCall, some 2, some 25, [.idRef 21]⟩]]

def callingBlock : Block :=
  ⟨24, [⟨.functionCall, [2, 25, 21], [21]⟩, ⟨.ret, [], []⟩]⟩

/-- The signature declares a sampler behind the builtin, and the call passes the builtin alone. -/
theorem call_of_builtin_image_disagrees : ∃ program text stop start inst arguments parameters,
      Program.ofModule builtinImage = .ok program ∧
      compile (Compiler.new program {}) = .ok text stop ∧ pass start = .ok () stop ∧
      WritesCall start stop inst 21 arguments ∧ WritesSignature start stop 21 parameters ∧
      arguments.map (·.kind) = [.builtin] ∧ parameters.map (·.kind) = [.builtin, .sampler] := by
  have computed : (compiled? builtinImage {}).any (fun stop =>
      stop.plan.callGraph.order = [21, 20] ∧ stop.plan.entry = 20 ∧
      (stop.program.functionAt? 20).map (·.blocks) = some [callingBlock] ∧
      24 ∈ (structureBlocks stop.program [callingBlock] 24).listing.labels ∧
      (stop.program.functionAt? 21).map (·.parameters.flatMap stop.argumentKinds) =
        some [.builtin] ∧
      (stop.program.functionAt? 21).map (·.parameters.flatMap stop.parameterKinds) =
        some [.builtin, .sampler]) = true := by
    decide +kernel
  obtain ⟨program, text, stop, loaded, compiled, order, entry, caller, listed, passed,
    declared⟩ := compiled?_decide computed
  obtain ⟨_, start, _, ⟨_, _, written⟩, _⟩ := compile_last compiled
  have reached : start.Advances stop := advances written
  rw [settled_callGraph reached.plan] at order
  rw [settled_entry reached.plan] at entry
  obtain ⟨main, stored, blocks⟩ := Option.map_eq_some_iff.mp caller
  have stored := (reached.program.getFunction_eq 20).symm.trans (Program.getFunction_ok.mpr stored)
  have listed : IsListed start.program main callingBlock :=
    .of_alike reached.program ⟨callingBlock, [], blocks, by rw [blocks]; rfl, by rwa [blocks]⟩
  obtain ⟨parameters, signature⟩ : ∃ parameters, WritesSignature start stop 21 parameters :=
    pass_writes_signature written (by simp [order]) (by simp [entry])
  have member : ⟨.functionCall, [2, 25, 21], [21]⟩ ∈ callingBlock.body := by decide
  obtain ⟨callee, arguments, call⟩ :=
    pass_writes_call written (by simp [order]) stored listed member rfl
  obtain rfl : callee = 21 := Option.some.inj (call.names.symm.trans rfl)
  refine ⟨program, text, stop, start, _, arguments, parameters, loaded, compiled, written, call,
    signature, ?_⟩
  obtain ⟨function, stored, argumentKinds, parameterKinds⟩ := kinds_of_call call signature
  rw [← reached.program.getFunction_eq, Program.getFunction_ok] at stored
  rw [stored, Compiler.argumentKinds_eq reached] at passed
  rw [stored, Compiler.parameterKinds_eq reached] at declared
  exact ⟨argumentKinds.trans (Option.some.inj passed),
    parameterKinds.trans (Option.some.inj declared)⟩

/-- The member has the type of the attribute, the parameter that of the variable. -/
theorem attribute_passed_as_int : ∃ program text stop,
      Program.ofModule { sharedCallee with
        entryPoints := [.entry .vertex 20 [15]]
        annotations := [⟨.decorate, none, none, [.idRef 15, .decoration .location, .literal 0]⟩]
        globals := sharedCallee.globals ++ [
          .pointer 14 .input 8, .variable 15 14 .input]
        functions := [sharedCallee.function 21 31 [⟨.load, some 8, some 40, [.idRef 15]⟩],
          sharedCallee.function 20 30 [⟨.functionCall, some 1, some 46, [.idRef 21]⟩]] } =
        .ok program ∧
      compile (Compiler.new program { vertexAttributes := [{ location := 0, format := .uint8 }] }) =
        .ok text stop ∧
      ["uint m_15 [[attribute(0)]];", "void _21(thread int& v_15)", "_21(in.m_15);"] ⊆
        stop.pass.lines.toList.map (·.text) :=
  compiled?_decide (by decide +kernel)

end Emit

end SpirvMetal
