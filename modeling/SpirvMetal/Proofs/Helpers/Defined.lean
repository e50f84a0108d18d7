import SpirvMetal.Proofs.Helpers.Written
import SpirvMetal.Proofs.Passes.Discovered
import SpirvMetal.Proofs.Prepare.Tables

/-!
Which of the helpers that functions call are defined above them. The buffer of swizzle constants is
declared only if textures are to be swizzled and a function that is called samples an image.
-/

namespace SpirvMetal

open List

namespace Program.Alike

variable {before after : Program}

theorem announced_eq (alike : before.Alike after) (swizzles : Bool) (inst : Instruction) :
    after.announced swizzles inst = before.announced swizzles inst := by
  have typed : after.resultType? inst = before.resultType? inst := by
    simp only [resultType?, alike.getType_eq]
  have extended : after.announcedExtended inst = before.announcedExtended inst := by
    have known (imported : Id) : after.importedSetAt? imported = before.importedSetAt? imported :=
      by
      rw [importedSetAt?, importedSetAt?, alike.record?_eq]
    simp only [announcedExtended, known, alike.getType_eq]
  simp only [announced, typed, extended, alike.expressionType_eq]

theorem announcedIn_eq (alike : before.Alike after) (swizzles : Bool) (id : Id) :
    after.announcedIn swizzles id = before.announcedIn swizzles id := by
  have each : after.announced swizzles = before.announced swizzles :=
    funext (alike.announced_eq swizzles)
  simp only [announcedIn, alike.getFunction_eq, each]

end Program.Alike

def Compiler.Announces (c : Compiler) (helper : Helper) : Prop :=
  ∃ id ∈ c.plan.callGraph.order, ∃ new ∈ c.program.announcedIn c.options.swizzleTextures id,
    helper ∈ new.closure

namespace Compiler

variable {c c' before after : Compiler} {scope : Scope} {helper : Helper}

/-- Two states with the same instructions, and options that ask for the same helpers. -/
structure SameCode (before after : Compiler) : Prop where
  program : before.program.Alike after.program
  plan : after.plan.settled = before.plan.settled
  swizzles : after.options.swizzleTextures = before.options.swizzleTextures

theorem SameCode.announces_iff (same : before.SameCode after) :
    after.Announces helper ↔ before.Announces helper := by
  simp only [Announces, Emit.settled_callGraph same.plan, same.program.announcedIn_eq,
    same.swizzles]

theorem Announces.of_instruction {id : Id} {function : Function} {inst : Instruction}
    (member : id ∈ c.plan.callGraph.order) (stored : c.program.getFunction id = .ok function)
    (contained : inst ∈ function.instructions)
    (announces : c.program.Announces c.options.swizzleTextures inst helper) :
    c.Announces helper := by
  obtain ⟨new, announced, closed⟩ := announces
  refine ⟨id, member, new, ?_, closed⟩
  simp only [Program.announcedIn, stored, Except.toOption, Option.toList_some,
    flatMap_singleton]
  exact mem_flatMap.mpr ⟨inst, contained, announced⟩

/-- Swizzles, and the buffer of their constants, have a reason: textures are to be swizzled, and one
of the functions takes a sample. -/
structure Swizzles (c : Compiler) : Prop where
  bounded : c.program.Bounded
  reason : c.plan.usesSwizzle = true ∨ c.plan.auxBuffer.isSome = true →
    c.options.swizzleTextures = true ∧ c.program.Samples c.plan.callGraph.order

theorem Swizzles.change (swizzles : c.Swizzles) (change : Change scope c c') : c'.Swizzles := by
  have growth := change.extends swizzles.bounded
  have samples {functions : List Id} (found : c.program.Samples functions) :
      c'.program.Samples functions := by
    refine found.of_extends growth swizzles.bounded fun {left right} same => ?_
    change left.given.instructions = right.given.instructions
    rw [same]
  refine ⟨growth.bounded swizzles.bounded, ?_⟩
  cases change with
  | plan fixed reason =>
    rename_i plan
    have order := congrArg Plan.callGraph fixed
    have aux := congrArg Plan.auxBuffer fixed
    change plan.callGraph = c.plan.callGraph at order
    change plan.auxBuffer = c.plan.auxBuffer at aux
    dsimp only
    rw [order, aux]
    rintro (used | declared)
    · exact (reason used).elim (fun used => swizzles.reason (.inl used)) id
    · exact swizzles.reason (.inr declared)
  | addsAux used => exact fun _ => (swizzles.reason (.inl used)).imp_right samples
  | _ => exact fun used => (swizzles.reason used).imp_right samples

/-- Helpers are known only for a reason, and swizzle constants are declared only for samples. -/
structure Foreseen (c : Compiler) : Prop where
  helpers : ∀ helper ∈ c.session.helpers, helper.Converts ∨ c.Announces helper
  swizzles : c.plan.auxBuffer.isSome = true →
    c.options.swizzleTextures = true ∧ c.program.Samples c.plan.callGraph.order

def Converts (before after : Compiler) : Prop :=
  ∀ helper ∈ after.session.helpers, helper ∈ before.session.helpers ∨ helper.Converts

instance : Emit.Always.AllowsFunctions Converts where
  refl _ _ := .inl
  trans _ _ _ first second helper member := (second helper member).elim (first helper) .inr
  text _ _ := .inl
  lines _ _ := .inl
  notes _ _ _ _ := .inl
  discovers _ converts := converts
  opens _ _ := .inl
  slots _ _ := .inl
  marks _ _ := .inl
  renames _ := .inl

theorem Foreseen.textureSwizzle (foreseen : c.Foreseen)
    (declared : c.plan.auxBuffer.isSome = true) :
    c.Announces .textureSwizzle := by
  obtain ⟨asked, id, member, function, stored, inst, contained, samples⟩ :=
    foreseen.swizzles declared
  refine .of_instruction member (Program.getFunction_ok.mpr stored) contained ?_
  rw [asked]
  exact .textureSwizzle samples

end Compiler

namespace Emit

variable {c c' : Compiler} {u : Unit} {helper : Helper}

theorem pass_sameCode (done : pass (afresh c) = .ok u c') (ordered : c.session.Ordered) :
    c.SameCode c' := by
  obtain ⟨scanned, declared, helped, steps⟩ := pass_steps.mp done
  have advances : (afresh c).Advances c' := advances done
  have scans := Scanning.scan.keeps steps.scanning
  have options : scanned.options = c.options := scans.options
  refine ⟨advances.program, advances.plan, ?_⟩
  rw [← options]
  exact congrArg (·.swizzleTextures) (steps.reaches ordered).options

theorem pass_helpers (done : pass (afresh c) = .ok u c') :
    (∀ helper, c.Announces helper → helper ∈ c'.session.helpers) ∧ ∀ helper ∈ c'.session.helpers,
        helper ∈ c.session.helpers ∨ c.Announces helper ∨ helper.Converts := by
  obtain ⟨_, scanned, scanning, done⟩ := bind_ok.mp done
  have converts : scanned.Converts c' := Keeps.keeps done
  have enlists (helper : Helper) : helper ∈ scanned.session.helpers ↔
      helper ∈ c.session.helpers ∨ c.Announces helper := by
    rw [scan_enlists scanning helper]
    refine or_congr_right ?_
    simp only [mem_flatMap, Compiler.Announces]
    exact ⟨fun ⟨new, ⟨id, member, announced⟩, closed⟩ => ⟨id, member, new, announced, closed⟩,
      fun ⟨id, member, new, announced, closed⟩ => ⟨new, ⟨id, member, announced⟩, closed⟩⟩
  refine ⟨fun helper announces => ?_, fun helper member => ?_⟩
  · exact (advances done).session.helpers ((enlists helper).mpr (.inr announces))
  · rcases converts helper member with found | converts
    · exact ((enlists helper).mp found).imp_right .inl
    · exact .inr (.inr converts)

theorem pass_foreseen (done : pass (afresh c) = .ok u c') (ordered : c.session.Ordered)
    (foreseen : c.Foreseen) : c'.Foreseen where
  helpers helper member := by
    rw [(pass_sameCode done ordered).announces_iff]
    rcases (pass_helpers done).2 helper member with earlier | announced | converts
    · exact foreseen.helpers helper earlier
    · exact .inr announced
    · exact .inl converts
  swizzles declared := by
    have same := pass_sameCode done ordered
    rw [settled_eq (·.auxBuffer) (fun _ => rfl) same.plan] at declared
    obtain ⟨asked, id, member, function, stored, samples⟩ := foreseen.swizzles declared
    rw [same.swizzles, settled_callGraph same.plan]
    refine ⟨asked, id, member, function, ?_, samples⟩
    rwa [Program.functionAt?, same.program.record?_eq]

/-- Behind preparation there is a buffer of swizzle constants only if textures are to be swizzled
and one of the functions takes a sample. -/
theorem prepare_aux {m : Spirv.Module} {program : Program} {options : Options} {ready : Compiler}
    {u : Unit} (loaded : Program.ofModule m = .ok program)
    (prepared : prepare (Compiler.new program options) = .ok u ready)
    (declared : ready.plan.auxBuffer.isSome = true) :
    ready.options.swizzleTextures = true ∧ ready.program.Samples ready.plan.callGraph.order := by
  obtain ⟨point, named, graph, activeVariables, _, naming, _, _, prepares⟩ :=
    prepare_changes prepared
  have start : ((Compiler.new program options).entered point named graph activeVariables).Swizzles := by
    have growth : program.Extends Function.given named :=
      .of_records_eq (Program.legalizeNames_records naming)
    refine ⟨growth.bounded (Program.ofModule_bounded loaded), fun used => ?_⟩
    simp [Compiler.entered, Compiler.new] at used
  have swizzles : ready.Swizzles :=
    prepares.keeps _ (fun _ _ change swizzles => swizzles.change change) start
  exact swizzles.reason (.inr declared)

/-- The last pass of a compilation starts from a state that has its helpers for a reason. -/
theorem compiles_foreseen {m : Spirv.Module} {program : Program} {options : Options} {text : String}
    (loaded : Program.ofModule m = .ok program) (compiles : Compiles program options text c) :
    ∃ start, EndsWith start c ∧ start.Foreseen ∧ c.Foreseen ∧ c.prepared = true ∧
      c.output = text := by
  refine compiles_keep loaded _ (fun ready preparing => ?_)
    (fun _ _ _ foreseen => ⟨foreseen.helpers, foreseen.swizzles⟩)
    (fun _ _ passed ordered => pass_foreseen passed ordered) compiles
  obtain ⟨session, _⟩ := prepare_ready loaded preparing
  exact ⟨fun helper member => by simp [session] at member, prepare_aux loaded preparing⟩

end Emit

theorem HelperDefinition.separated_infix {piece : List String} {pieces : List (List String)}
    (member : piece ∈ pieces) : piece <:+: separated pieces := by
  fun_induction separated pieces with
  | case1 => cases member
  | case2 only => exact mem_singleton.mp member ▸ infix_rfl
  | case3 first rest _ ih =>
    rcases mem_cons.mp member with rfl | later
    · exact ⟨[], [""] ++ separated rest, by simp⟩
    · exact (ih later).trans (suffix_append _ _).isInfix

/-- The text of all helpers holds the function of this name. -/
def Session.DefinesFunction (session : Session) (width : Nat) (name : String) : Prop :=
  ∃ helper ∈ session.helpers, ∃ definition ∈ helper.definitions width session.helpers,
    definition.name = name ∧ definition.lines <:+: session.helperLines width

theorem Helper.lines_infix {helper : Helper} {width : Nat} {registered : List Helper}
    {definition : HelperDefinition} (member : definition ∈ helper.definitions width registered) :
    definition.lines <:+: helper.lines width registered := by
  have piece : definition.lines ∈ (helper.definitions width registered).map (·.lines) :=
    mem_map_of_mem member
  unfold Helper.lines
  split
  · exact infix_of_mem_flatten piece
  · exact HelperDefinition.separated_infix piece

theorem Helper.Defines.in_session {helper : Helper} {name : String} (defines : helper.Defines name)
    {session : Session} (registered : helper ∈ session.helpers) (width : Nat) :
    session.DefinesFunction width name := by
  obtain ⟨definition, member, named⟩ := defines width session.helpers
  refine ⟨helper, registered, definition, member, named, ?_⟩
  have whole : helper.lines width session.helpers ++ [""] <:+: session.helperLines width :=
    infix_of_mem_flatten (mem_map_of_mem registered)
  exact ((Helper.lines_infix member).trans (prefix_append _ _).isInfix).trans whole

theorem Compiler.WritesHelperCall.mem_functions {name : String}
    {helped before after c : Compiler} {functions : List Line}
    (writes : WritesHelperCall name before after) (earlier : helped.Advances before)
    (later : after.Advances c)
    (lines : c.pass.lines.toList = helped.pass.lines.toList ++ functions) :
    ∃ line ∈ functions, Invokes name line.text := by
  obtain ⟨front, line, starts, ends, invokes⟩ := writes.within earlier later
  obtain ⟨between, rfl⟩ := starts
  rw [lines, append_assoc, prefix_append_right_inj] at ends
  exact ⟨line, ends.subset (by simp), invokes⟩

namespace Emit

theorem IsListed.instructions {program : Program} {function : Function} {block : Block}
    {inst : Instruction} (listed : IsListed program function block) (held : inst ∈ block.body) :
    inst ∈ function.instructions := by
  obtain ⟨_, _, _, found, _⟩ := listed
  exact mem_flatMap.mpr ⟨block, Structure.mem_of_findBlock found, mem_of_mem_take held⟩

/-- Every call of a helper stands in the text of the functions. Its helper is registered, and so its
definition stands above them, exactly if it converts a matrix or some instruction announces it;
this is so for every call that does not escape the scan. -/
theorem called_helpers_defined {m : Spirv.Module} {program : Program} {options : Options}
    {text : String} (loaded : Program.ofModule m = .ok program)
    (compiles : Compiles program options text c) :
    ∃ declarations functions, ShowsSession c text declarations functions ∧
      ∀ id ∈ c.plan.callGraph.order, ∀ function block inst,
        c.program.getFunction id = .ok function → IsListed c.program function block →
        inst ∈ block.body →
        ∃ before after, lower inst before = .ok () after ∧ after.Advances c ∧
          ∀ helper name, Calls before inst helper name →
            (∃ line ∈ functions, Invokes name line.text) ∧
            (helper ∈ c.session.helpers ↔ helper.Converts ∨ c.Announces helper) ∧
            (helper ∈ c.session.helpers →
              c.session.DefinesFunction c.options.texelBufferWidth name) ∧
            (¬ Escapes before inst helper → helper ∈ c.session.helpers) := by
  obtain ⟨start, ends, _, foreseen, _, rfl⟩ := compiles_foreseen loaded compiles
  obtain ⟨scanned, declared, helped, declarations, functions, steps, _, _, lines, shows⟩ :=
    ends.shows
  refine ⟨declarations, functions, shows, fun id member function block inst stored listed held =>
    ?_⟩
  obtain ⟨entered, left, entering, run, leaving⟩ :=
    forM_runs steps.writing (steps.order_eq ends.ordered ▸ member)
  have inside := ((advances run).trans leaving).program
  obtain ⟨before, after, earlier, lowered, later⟩ := function_runs_instruction run
    ((inside.getFunction_eq id).symm.trans stored) (listed.of_alike inside) held
  have reached : after.Advances c := later.trans leaving
  have same : before.Advances c := (advances lowered).trans reached
  have announced (helper : Helper) (announces : c.Announces helper) : helper ∈ c.session.helpers :=
    (pass_helpers ends.written).1 helper
      ((pass_sameCode ends.written ends.ordered).announces_iff.mp announces)
  refine ⟨before, after, lowered, reached, fun helper name calls => ⟨?_, ⟨?_, ?_⟩, ?_, ?_⟩⟩
  · exact (lower_writesCall calls lowered).mem_functions (entering.trans earlier) reached lines
  · exact foreseen.helpers helper
  · rintro (converts | announces)
    · exact reached.session.helpers (lower_converts calls converts lowered)
    · exact announced helper announces
  · exact fun registered => calls.defines.in_session registered _
  · intro foreseeable
    have asked : before.plan.auxBuffer.isSome = true → c.options.swizzleTextures = true := by
      rw [← settled_eq (·.auxBuffer) (fun _ => rfl) same.plan]
      exact fun declared => (foreseen.swizzles declared).1
    rcases calls.announced foreseeable asked with converts | announces | ⟨rfl, declared⟩
    · exact reached.session.helpers (lower_converts calls converts lowered)
    · rw [Program.Announces, ← same.program.announced_eq] at announces
      exact announced helper (.of_instruction member stored (listed.instructions held) announces)
    · rw [← settled_eq (·.auxBuffer) (fun _ => rfl) same.plan] at declared
      exact announced _ (foreseen.textureSwizzle declared)

def remainderBlock : Block :=
  ⟨21, [⟨.accessChain, [12, 32, 14, 8], [14, 8]⟩, ⟨.load, [6, 33, 32], [32]⟩,
    ⟨.compositeExtract, [3, 34, 33, 1, 2], [33]⟩, ⟨.fMod, [3, 36, 34, 34], [34, 34]⟩,
    ⟨.accessChain, [11, 35, 14, 15], [14, 15]⟩, ⟨.store, [35, 36], [35, 36]⟩, ⟨.ret, [], []⟩]⟩

theorem called_helpers_defined_packedRemainder :
    ∃ program text c declarations functions, Program.ofModule packedRemainder = .ok program ∧
      compile (Compiler.new program {}) = .ok text c ∧
      ShowsSession c text declarations functions ∧ .mod ∈ c.session.helpers ∧
      c.session.DefinesFunction c.options.texelBufferWidth "mod" ∧
      ∃ line ∈ functions, Invokes "mod" line.text := by
  have computed : (compiled? packedRemainder {}).any (fun c =>
      c.plan.callGraph.order = [20] ∧
      (c.program.functionAt? 20).map (·.blocks) = some [remainderBlock] ∧
      21 ∈ (structureBlocks c.program [remainderBlock] 21).listing.labels) = true := by
    decide +kernel
  obtain ⟨program, text, c, loaded, compiled, order, blocks, labelled⟩ := compiled?_decide computed
  obtain ⟨main, stored, blocks⟩ := Option.map_eq_some_iff.mp blocks
  have listed : IsListed c.program main remainderBlock :=
    ⟨remainderBlock, [], blocks, by rw [blocks]; rfl, by rwa [blocks]⟩
  obtain ⟨declarations, functions, shows, called⟩ := called_helpers_defined loaded (.first compiled)
  obtain ⟨before, after, lowered, reached, calls⟩ := called 20 (by simp [order]) main remainderBlock
    ⟨.fMod, [3, 36, 34, 34], [34, 34]⟩ (Program.getFunction_ok.mpr stored) listed (by decide)
  obtain ⟨written, -, defined, registered⟩ := calls .mod "mod" (.remainder rfl)
  have mod := registered nofun
  exact ⟨program, text, c, declarations, functions, loaded, compiled, shows, mod, defined mod,
    written⟩

def copiedArray : Spirv.Module where
  entryPoints := [.entry .glCompute 20 []]
  globals := [⟨.typeVoid, none, some 2, []⟩, ⟨.typeFloat, none, some 3, [.literal 32]⟩,
    ⟨.typeInt, none, some 7, [.literal 32, .literal 0]⟩,
    ⟨.constant, some 7, some 8, [.literal 4]⟩,
    ⟨.typeArray, none, some 9, [.idRef 3, .idRef 8]⟩, .pointer 4 .function 9,
    ⟨.typeFunction, none, some 5, [.idRef 2]⟩]
  functions := [.ofBody 2 20 5 21 [.variable 14 4 .function, .variable 10 4 .function,
    ⟨.copyMemory, none, none, [.idRef 14, .idRef 10]⟩]]

/-- The copy calls a function, and no helper is registered. -/
theorem copied_array_undefined : ∃ program text c, Program.ofModule copiedArray = .ok program ∧
      compile (Compiler.new program {}) = .ok text c ∧ text = c.output ∧
      "spvArrayCopyFromStack1(_14, _10);" ∈ c.pass.lines.toList.map (·.text) ∧
      c.session.helpers = [] ∧
      ¬ c.session.DefinesFunction c.options.texelBufferWidth "spvArrayCopyFromStack1" := by
  have computed : (compiled? copiedArray {}).any (fun c =>
      "spvArrayCopyFromStack1(_14, _10);" ∈ c.pass.lines.toList.map (·.text) ∧
      c.session.helpers = []) = true := by
    decide +kernel
  obtain ⟨program, text, c, loaded, compiled, written, none⟩ := compiled?_decide computed
  obtain ⟨_, _, _, output⟩ := compile_first rfl compiled
  refine ⟨program, text, c, loaded, compiled, output.symm, written, none, ?_⟩
  rintro ⟨helper, registered, _⟩
  rw [none] at registered
  cases registered

/-- The second copy names the constant address space for a local array. -/
theorem local_copied_as_constant : ∃ program text stop,
      Program.ofModule { copiedTable with
        functions := [namesakes.function 20 21 [⟨.load, some 8, some 30, [.idRef 11]⟩,
          ⟨.store, none, none, [.idRef 12, .idRef 30]⟩]] } = .ok program ∧
      compile (Compiler.new program {}) = .ok text stop ∧
      ["int _30[2];", "spvArrayCopyFromConstant1(_30, _11);",
        "spvArrayCopyFromConstant1(_12, _30);"] <:+: stop.pass.lines.toList.map (·.text) :=
  compiled?_decide (by decide +kernel)

/-- Packs two halves, and does not say which. -/
def missingArgument : Spirv.Module :=
  { namesakes "y" with
    imports := [⟨.extInstImport, none, some 1, [.text "GLSL.std.450"]⟩]
    functions := [
      namesakes.function 20 21 [⟨.extInst, some 3, some 30, [.idRef 1, .extInst 58]⟩]] }

theorem missing_argument_aborts : ∃ program fault stop,
      Program.ofModule missingArgument = .ok program ∧
      compile (Compiler.new program {}) = .error fault stop ∧ fault.message = "aborted" := by
  have computed : Except.passes (Program.ofModule missingArgument) (fun program =>
      runFails (compile (Compiler.new program {})) fun fault _ => fault.message = "aborted") =
      true := by
    decide +kernel
  obtain ⟨program, loaded, computed⟩ := Except.of_passes computed
  obtain ⟨fault, stop, run, computed⟩ := of_runFails computed
  exact ⟨program, fault, stop, loaded, run, of_decide_eq_true computed⟩

end Emit

end SpirvMetal
