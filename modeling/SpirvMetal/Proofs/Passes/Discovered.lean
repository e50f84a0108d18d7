import SpirvMetal.Proofs.Repeat.Recompile

/-!
What was discovered is in the text, and the prepared program is still there.
-/

set_option synthInstance.maxSize 2048

namespace SpirvMetal

def Session.helperLines (session : Session) (texelBufferWidth : Nat) : List String :=
  session.helpers.flatMap fun helper => helper.lines texelBufferWidth session.helpers ++ [""]

def outermost (lines : List String) : List Line := lines.map (Line.mk 0)

def renderLines (lines : List Line) : String := String.join (lines.map Line.render)

theorem renderLines_append (first second : List Line) :
    renderLines (first ++ second) = renderLines first ++ renderLines second := by
  simp [renderLines, String.join_append]

theorem mem_paragraphLines {line : String} {lines : List String} (member : line ∈ lines) :
    line ∈ paragraphLines lines := by
  cases lines with
  | nil => cases member
  | cons first rest => exact List.mem_append_left _ member

theorem Session.mem_headerLines {session : Session} {line : String}
    (member : line ∈ session.pragmas ++ session.headers ++ session.typedefs) :
    line ∈ session.headerLines := by
  simp only [List.mem_append] at member
  simp only [headerLines, List.mem_append]
  rcases member with (pragma | header) | typedef
  · exact .inl (.inl (.inl (mem_paragraphLines pragma)))
  · exact .inl (.inl (.inr (mem_paragraphLines (List.mem_append_right _ header))))
  · exact .inr (mem_paragraphLines typedef)

def Compiler.SameDepth (before after : Compiler) : Prop := after.pass.depth = before.pass.depth

namespace Emit

open Compiler (SameDepth)
open Keeps (onward)

variable {c c' : Compiler} {u : Unit}

namespace Level

instance : Std.Refl SameDepth := ⟨fun _ => rfl⟩

instance : IsTrans Compiler SameDepth := ⟨fun _ _ _ first second => second.trans first⟩

instance statement (line : String) : Always SameDepth (statement line) := .modify fun _ => rfl

instance requireTypedef (line : String) : Always SameDepth (requireTypedef line) :=
  .modify fun _ => rfl

instance memberTypeName (struct index member : Nat) (type : ValueType) :
    Always SameDepth (memberTypeName struct index member type) := by
  simp only [Emit.memberTypeName]
  repeat' first | infer_instance | refine Always.onward fun _ => ?_ | split

theorem inBraces {part : Emit Unit} {next : Unit → Emit Unit} (level : Keeps SameDepth part)
    (rest : ∀ u, Keeps SameDepth (next u)) :
    Keeps SameDepth (do beginScope; part; endDeclaration >>= next) where
  keeps {c c' _} done := by
    obtain ⟨_, opened, opening, done⟩ := bind_ok.mp done
    obtain ⟨_, filled, filling, done⟩ := bind_ok.mp done
    obtain ⟨_, closed, closing, done⟩ := bind_ok.mp done
    have deeper : opened.pass.depth = c.pass.depth + 1 := by
      have deepened := modify_bind.mp opening
      obtain rfl := modifyPass_ok.mp deepened
      rfl
    have same : filled.pass.depth = opened.pass.depth := level.keeps filling
    have back : closed.pass.depth = filled.pass.depth - 1 := by
      have braced := modify_bind.mp closing
      obtain rfl := modifyPass_ok.mp braced
      rfl
    have behind : c'.pass.depth = closed.pass.depth := (rest ()).keeps done
    exact behind.trans (by omega)

instance struct (id : Id) : Keeps SameDepth (struct id) := by
  simp only [Emit.struct, Emit.structMember]
  refine onward fun _ => onward fun _ => onward fun _ => ?_
  exact inBraces inferInstance inferInstance

instance interfaceStruct (var : Id) : Keeps SameDepth (interfaceStruct var) := by
  simp only [Emit.interfaceStruct]
  infer_instance

instance specConstant (id : Id) : Always SameDepth (specConstant id) := by
  simp only [Emit.specConstant, Emit.derivedConstant]
  repeat' first | infer_instance | refine Always.onward fun _ => ?_ | split

instance constantOrStruct (constantsOpen : Bool) (id : Id) :
    Keeps SameDepth (constantOrStruct constantsOpen id) := by
  simp only [Emit.constantOrStruct]
  repeat' first | infer_instance | refine onward fun _ => ?_ | split

instance lookupTable (id : Id) : Always SameDepth (lookupTable id) := by
  simp only [Emit.lookupTable, Emit.table]
  repeat' first | infer_instance | refine Always.onward fun _ => ?_ | split

instance declarations : Keeps SameDepth declarations := by
  simp only [Emit.declarations, Emit.constantsAndStructs, Emit.moduleConstants,
    Emit.table, Emit.undefinedValue]
  infer_instance

end Level

theorem helpers_eq (c : Compiler) : helpers c = .ok ()
      { c with pass := c.pass.write (c.session.helperLines c.options.texelBufferWidth) } := by
  -- the lines of some of the helpers, below what was written before
  have written (some : List Helper) (now : Compiler) :
      (some.forM fun helper => do
        (helper.lines c.options.texelBufferWidth c.session.helpers).forM statement
        statement "" : Emit Unit) now =
        .ok ()
          { now with
            pass := now.pass.write (some.flatMap fun helper =>
              helper.lines c.options.texelBufferWidth c.session.helpers ++ [""]) } := by
    induction some generalizing now with
    | nil => rw [List.flatMap_nil, Pass.write_nil]; rfl
    | cons helper rest ih =>
      refine bind_ok.mpr ⟨(), _, bind_ok.mpr ⟨(), _, statements_eq .., statement_eq ..⟩, ?_⟩
      rw [ih]
      simp only [Pass.write_write, List.flatMap_cons]
  exact bind_ok.mpr ⟨c, c, get_ok.mpr ⟨rfl, rfl⟩, written c.session.helpers c⟩

/-- The results of compiling a program once or more, each time from where the last one ended. -/
inductive Compiles (program : Program) (options : Options) : String → Compiler → Prop
  | first {text : String} {c : Compiler}
      (compiled : compile (Compiler.new program options) = .ok text c) :
      Compiles program options text c
  | again {text text' : String} {c c' : Compiler} (earlier : Compiles program options text c)
      (compiled : compile c = .ok text' c') : Compiles program options text' c'

/-- What the preparation brings about and every pass keeps holds for the last pass of a
compilation. -/
theorem compiles_keep {m : Spirv.Module} {program : Program} {options : Options} {text : String}
    (loaded : Program.ofModule m = .ok program) (holds : Compiler → Prop)
    (ready : ∀ c, prepare (Compiler.new program options) = .ok () c → holds c)
    (counts : ∀ (c : Compiler) prepared passCount, holds c → holds { c with prepared, passCount })
    (each : ∀ c c', pass (afresh c) = .ok () c' → c.session.Ordered → holds c → holds c')
    (compiles : Compiles program options text c) :
    ∃ start, EndsWith start c ∧ holds start ∧ holds c ∧ c.prepared = true ∧ c.output = text := by
  induction compiles with
  | first compiled =>
    obtain ⟨c, preparing, ran, output⟩ := compile_first rfl compiled
    obtain ⟨session, _⟩ := prepare_ready loaded preparing
    have ordered : c.session.Ordered := session ▸ ⟨.nil, .nil, .nil, .nil⟩
    obtain ⟨_, prepared, _⟩ := passes_end ran ordered
    obtain ⟨ends, starts, stops⟩ := passes_keep each ran ordered (counts c _ _ (ready c preparing))
    exact ⟨_, ends, starts, stops, prepared, output⟩
  | @again _ _ earlier _ _ compiled ih =>
    obtain ⟨start, ends, _, holds, prepared, _⟩ := ih
    obtain ⟨ran, output⟩ :=
      printed_ok.mp (compile_of_prepared prepared ▸ compiled)
    have ordered := (pass_keeps ends.written ends.ordered).1
    obtain ⟨_, prepared', _⟩ := passes_end ran ordered
    obtain ⟨ends', starts, stops⟩ := passes_keep each ran ordered (counts earlier _ _ holds)
    exact ⟨_, ends', starts, stops, prepared'.trans prepared, output⟩

/-- A text shows all that a compilation has discovered: first what goes ahead of the code, then
`declarations`, then each helper once and in the order of the catalogue, and then `functions`. -/
structure ShowsSession (c : Compiler) (text : String) (declarations functions : List Line) :
    Prop where
  ahead : ∀ line ∈ c.session.pragmas ++ c.session.headers ++ c.session.typedefs,
    line ∈ c.session.headerLines
  once : c.session.helpers.Nodup
  catalogue : c.session.helpers.Pairwise (Helper.before · · = true)
  parts : text = renderLines (outermost c.session.headerLines) ++ renderLines declarations ++
    renderLines (outermost (c.session.helperLines c.options.texelBufferWidth)) ++
    renderLines functions

theorem EndsWith.shows {start : Compiler} (ends : EndsWith start c) :
    ∃ scanned declared helped declarations functions,
      PassSteps (afresh start) scanned declared helped c ∧ c.session = scanned.session ∧
      declared.pass.lines.toList = outermost c.session.headerLines ++ declarations ∧
      c.pass.lines.toList = helped.pass.lines.toList ++ functions ∧
      ShowsSession c c.output declarations functions := by
  obtain ⟨scanned, declared, helped, steps⟩ := pass_steps.mp ends.written
  have scans := Scanning.scan.keeps steps.scanning
  have onward := (steps.helps ends.ordered).toReaches.trans (steps.helped_reaches ends.ordered)
  obtain ⟨-, session, -⟩ := (steps.reaches ends.ordered).settled ends.fresh
  obtain ⟨-, session', -⟩ := onward.settled ends.fresh
  have depth : scanned.pass.depth = 0 := scans.depth
  have empty : scanned.pass.lines = #[] := scans.lines
  have header : (titled scanned).pass.lines.toList = outermost c.session.headerLines := by
    rw [session]
    simp [titled, Pass.write, outermost, depth, empty]
  have level : declared.pass.depth = 0 :=
    (Level.declarations.keeps steps.declaring : _ = _).trans depth
  obtain ⟨declarations, declared_lines⟩ := (advances steps.declaring).lines
  obtain ⟨functions, function_lines⟩ := (advances steps.writing).lines
  have width : declared.options.texelBufferWidth = c.options.texelBufferWidth :=
    (congrArg (·.texelBufferWidth) onward.options).symm
  have helping := steps.helping
  rw [helpers_eq, ← session', width] at helping
  cases helping
  rw [header] at declared_lines
  refine ⟨scanned, declared, _, declarations, functions, steps, session,
    declared_lines.symm, function_lines.symm, ?_⟩
  exact
    { ahead := fun line => Session.mem_headerLines
      once := onward.ordered.helpers.imp fun {first second} before same => by
        subst same
        exact Bool.noConfusion ((IsStrictOrder.helper.asymmetric _ _ before).symm.trans before)
      catalogue := onward.ordered.helpers
      parts := by
        rw [Compiler.output, ← function_lines]
        change renderLines _ = _
        simp only [Pass.write, level, Array.toList_append, ← declared_lines, renderLines_append]
        rfl }

/-- A buffer with a packed matrix, whose type is named when its struct is written, and a remainder,
for which there is a helper. -/
def packedRemainder : Spirv.Module where
  entryPoints := [.entry .glCompute 20 []]
  annotations := [⟨.decorate, none, none, [.idRef 9, .decoration .block]⟩,
    .onMember 9 0 .offset [0], .onMember 9 0 .rowMajor [], .onMember 9 0 .matrixStride [8],
    .onMember 9 1 .offset [24]]
  globals := [⟨.typeVoid, none, some 2, []⟩, ⟨.typeFloat, none, some 3, [.literal 32]⟩,
    ⟨.typeVector, none, some 4, [.idRef 3, .literal 3]⟩,
    ⟨.typeMatrix, none, some 6, [.idRef 4, .literal 2]⟩,
    ⟨.typeInt, none, some 7, [.literal 32, .literal 1]⟩,
    ⟨.constant, some 7, some 8, [.literal 0]⟩,
    ⟨.constant, some 7, some 15, [.literal 1]⟩,
    ⟨.typeStruct, none, some 9, [.idRef 6, .idRef 3]⟩, .pointer 10 .storageBuffer 9,
    .variable 14 10 .storageBuffer, .pointer 11 .storageBuffer 3, .pointer 12 .storageBuffer 6,
    ⟨.typeFunction, none, some 5, [.idRef 2]⟩]
  functions := [.ofBody 2 20 5 21 [⟨.accessChain, some 12, some 32, [.idRef 14, .idRef 8]⟩,
    ⟨.load, some 6, some 33, [.idRef 32]⟩,
    ⟨.compositeExtract, some 3, some 34, [.idRef 33, .literal 1, .literal 2]⟩,
    ⟨.fMod, some 3, some 36, [.idRef 34, .idRef 34]⟩,
    ⟨.accessChain, some 11, some 35, [.idRef 14, .idRef 15]⟩,
    ⟨.store, none, none, [.idRef 35, .idRef 36]⟩]]

end Emit

structure Compiler.Remains (ready c : Compiler) : Prop where
  program : ready.program.Alike c.program
  plan : c.plan.settled = ready.plan.settled
  options : c.options.unmarked = ready.options.unmarked

theorem Compiler.Remains.trans {first second third : Compiler} (left : first.Remains second)
    (right : second.Remains third) : first.Remains third :=
  ⟨left.program.trans right.program, right.plan.trans left.plan, right.options.trans left.options⟩

namespace Emit

variable {c c' : Compiler} {u : Unit}

theorem pass_remains (done : pass (afresh c) = .ok u c') (ordered : c.session.Ordered) :
    c.Remains c' := by
  obtain ⟨scanned, declared, helped, steps⟩ := pass_steps.mp done
  have scans := Scanning.scan.keeps steps.scanning
  have reaches := steps.reaches ordered
  have advances := advances done
  exact ⟨advances.program, advances.plan,
    reaches.options.trans (congrArg Options.unmarked scans.options)⟩

theorem compiles_ready {m : Spirv.Module} {program : Program} {options : Options} {text : String}
    (loaded : Program.ofModule m = .ok program) (compiles : Compiles program options text c) :
    ∃ ready start, prepare (Compiler.new program options) = .ok () ready ∧
      ready.Remains start ∧ ready.Remains c ∧ EndsWith start c ∧ c.prepared = true ∧
      c.output = text := by
  obtain ⟨start, ends, ⟨ready, preparing, starts⟩, ⟨_, same, stops⟩, prepared, output⟩ :=
    compiles_keep loaded
      (fun c => ∃ ready, prepare (Compiler.new program options) = .ok () ready ∧ ready.Remains c)
      (fun ready preparing => ⟨ready, preparing, .refl _, rfl, rfl⟩)
      (fun _ _ _ ⟨ready, preparing, remains⟩ =>
        ⟨ready, preparing, remains.program, remains.plan, remains.options⟩)
      (fun _ _ passed ordered ⟨ready, preparing, remains⟩ =>
        ⟨ready, preparing, remains.trans (pass_remains passed ordered)⟩) compiles
  rw [preparing] at same
  cases same
  exact ⟨ready, start, preparing, starts, stops, ends, prepared, output⟩

end Emit

end SpirvMetal
