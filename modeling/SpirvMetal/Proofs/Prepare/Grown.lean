import Mathlib.Logic.Function.Iterate
import SpirvMetal.Proofs.Passes.Bound
import SpirvMetal.Proofs.Prepare.Kept
import SpirvMetal.Proofs.Program.Samples

/-!
A program only grows while it is compiled, however often that is and wherever it fails. A
preparation that fails is not undone, and the next compilation starts over from what it left.
-/

namespace SpirvMetal

/-- What has become of a record: a function may have been added to, anything else is as it was. -/
def Record.Continues (before after : Record) : Prop :=
  match before with
  | .function found => ∃ now, after = .function now ∧ found.Continues now
  | _ => after = before

theorem Record.Continues.refl (record : Record) : record.Continues record := by
  cases record with
  | function found => exact ⟨found, rfl, .refl found⟩
  | _ => rfl

theorem Record.Continues.trans {first second third : Record} (left : first.Continues second)
    (right : second.Continues third) : first.Continues third := by
  cases first with
  | function found =>
    obtain ⟨middle, rfl, left⟩ := left
    obtain ⟨now, rfl, right⟩ := right
    exact ⟨now, rfl, left.trans right⟩
  | _ =>
    cases left
    exact right

namespace Program

variable {before middle after : Program}

/-- Everything that was stored is still stored, and what is new lies above it. -/
structure Grows (before after : Program) : Prop where
  bound : before.bound ≤ after.bound
  kept : ∀ id record, before.record? id = some record →
    ∃ now, after.record? id = some now ∧ record.Continues now
  fresh : ∀ id record, after.record? id = some record → before.record? id = none → before.bound ≤ id

namespace Grows

theorem refl (program : Program) : program.Grows program where
  bound := Nat.le_refl _
  kept _ record found := ⟨record, found, .refl record⟩
  fresh _ _ found absent := by
    rw [absent] at found
    cases found

theorem trans (first : before.Grows middle) (second : middle.Grows after) : before.Grows after where
  bound := Nat.le_trans first.bound second.bound
  kept id record found := by
    obtain ⟨between, stored, left⟩ := first.kept id record found
    obtain ⟨now, stored, right⟩ := second.kept id between stored
    exact ⟨now, stored, left.trans right⟩
  fresh id record found absent := by
    cases between : middle.record? id with
    | none => exact Nat.le_trans first.bound (second.fresh id record found between)
    | some stored => exact first.fresh id stored between absent

theorem of_extends (bounded : before.Bounded)
    (growth : Extends (fun function => function) before after) : before.Grows after where
  bound := growth.bound
  kept id record found := by
    have below := (bounded.below id record found).1
    exact ⟨record, (growth.record?_eq below).trans found, .refl record⟩
  fresh id record found absent := by
    by_contra above
    rw [growth.record?_eq (Nat.lt_of_not_le above), absent] at found
    cases found

theorem modifyFunction {id : Id} {change : Function → Function}
    (continues : ∀ function : Function, function.Continues (change function))
    (changed : before.modifyFunction id change = .ok after) : before.Grows after := by
  obtain ⟨function, stored, _, bound, _, records⟩ := modifyFunction_ok changed
  replace stored := functionAt?_some.mp stored
  refine ⟨bound, fun other record found => ?_, fun other record found absent => ?_⟩
  · rw [records]
    by_cases same : other = id
    · rw [same, stored] at found
      cases found
      exact ⟨_, if_pos same, _, rfl, continues function⟩
    · exact ⟨record, (if_neg same).trans found, .refl record⟩
  · by_cases same : other = id
    · rw [same, stored] at absent
      cases absent
    · rw [records, if_neg same, absent] at found
      cases found

end Grows

end Program

namespace Compiler

variable {scope : Scope} {c c' : Compiler}

/-- The program of a compiler grows and keeps its ids below its bound. -/
def Grown (before after : Compiler) : Prop :=
  before.program.Bounded → before.program.Grows after.program ∧ after.program.Bounded

instance : Std.Refl Grown := ⟨fun _ bounded => ⟨.refl _, bounded⟩⟩

instance : IsTrans Compiler Grown where
  trans _ _ _ first second bounded := by
    obtain ⟨left, middle⟩ := first bounded
    obtain ⟨right, after⟩ := second middle
    exact ⟨left.trans right, after⟩

theorem Grown.of_records_eq (same : c'.program.records = c.program.records) : c.Grown c' := by
  intro bounded
  have growth : c.program.Extends (fun function => function) c'.program := .of_records_eq same
  exact ⟨.of_extends bounded growth, growth.bounded bounded⟩

theorem Change.grown_program (change : Change scope c c') : c.Grown c' := by
  intro bounded
  refine ⟨?_, (change.extends bounded).bounded bounded⟩
  rcases change.stored bounded with growth | ⟨_, _, continues, changed, _⟩
  · exact .of_extends bounded growth
  · exact .modifyFunction continues changed

theorem Prepares.grown (prepares : Prepares scope c c') : c.Grown c' := by
  induction prepares with
  | refl => exact Std.Refl.refl c
  | tail _ change ih => exact IsTrans.trans _ _ _ ih change.grown_program

end Compiler

namespace Emit

open Compiler (Grown Prepares)

variable {c : Compiler}

instance prepare_grown : Always Grown prepare := by
  have grown {α : Type} {step : Emit α}
      (always : Always (Prepares (Preparing.AnyType True True)) step) :
      Always Grown step := always.mono fun _ _ => Prepares.grown
  have reaching : Always Grown Preparing.reaching := Preparing.reaching_always
    (fun _ _ _ named => .of_records_eq (Program.legalizeNames_records named))
    fun _ _ _ => .of_records_eq rfl
  have arranging (point : EntryPoint) (program : Program) :
      Always Grown (Preparing.arranging point program) :=
    grown inferInstance
  have threads : Always Grown threadGlobals := grown inferInstance
  have layouts : Always Grown layoutStructs := grown inferInstance
  have fixups : Always Grown entryFixups := grown inferInstance
  unfold prepare
  rw [Preparing.survey_eq]
  infer_instance

def compiled (c : Compiler) : Compiler :=
  match compile c with
  | .ok _ c' => c'
  | .error _ c' => c'

def passed (left : Nat) (c : Compiler) : Compiler :=
  match passes left c with
  | .ok _ c' => c'
  | .error _ c' => c'

theorem passed_succ (left : Nat) (c : Compiler) : passed (left + 1) c = match pass (afresh c) with
      | .ok _ next => if next.pass.stale then passed left next else next
      | .error _ failed => failed := by
  unfold passed
  rw [passes_succ]
  cases pass (afresh c) with
  | error fault failed => rfl
  | ok u next => cases stale : next.pass.stale <;> simp [stale]

theorem compiled_of_printed {ready : Compiler} (same : compile c = printed ready) :
    compiled c = passed maxPasses { ready with passCount := 0 } := by
  rw [compiled, same, printed, passed]
  cases passes maxPasses { ready with passCount := 0 } <;> rfl

theorem compiled_unprepared (unprepared : c.prepared = false) : compiled c = match prepare c with
      | .ok _ ready => passed maxPasses { ready with prepared := true, passCount := 0 }
      | .error _ failed => failed := by
  have run := compile_of_unprepared unprepared
  cases preparing : prepare c with
  | error fault failed => rw [compiled, run, preparing]
  | ok u ready => exact compiled_of_printed (by rw [run, preparing])

/-- A relation that holds across the parts of a compilation. -/
class AllowsCompiling (relation : Compiler → Compiler → Prop) : Prop extends
    Std.Refl relation, IsTrans Compiler relation where
  prepare : Always relation prepare
  pass (c : Compiler) : relation c (leaves pass (afresh c))
  counts {c : Compiler} {prepared : Bool} {passCount : Nat} :
    relation c { c with prepared, passCount }

section

variable {relation : Compiler → Compiler → Prop} [AllowsCompiling relation]

theorem passed_always (left : Nat) (c : Compiler) : relation c (passed left c) := by
  induction left generalizing c with
  | zero => exact Std.Refl.refl c
  | succ left ih =>
    have first : relation c (leaves pass (afresh c)) := AllowsCompiling.pass c
    rw [passed_succ]
    cases run : pass (afresh c) with
    | error fault next => rwa [leaves_error run] at first
    | ok u next =>
      rw [leaves_ok run] at first
      by_cases stale : next.pass.stale = true
      · simp only [stale, if_true]
        exact IsTrans.trans _ _ _ first (ih next)
      · simp only [stale]
        exact first

theorem compiled_always (c : Compiler) : relation c (compiled c) := by
  cases prepared : c.prepared with
  | true =>
    rw [compiled_of_printed (compile_of_prepared prepared)]
    have started : relation c { c with passCount := 0 } := AllowsCompiling.counts
    exact IsTrans.trans _ _ _ started (passed_always ..)
  | false =>
    have prepares : relation c (leaves prepare c) := AllowsCompiling.prepare.always c
    rw [compiled_unprepared prepared]
    cases run : prepare c with
    | error fault failed => rwa [leaves_error run] at prepares
    | ok u ready =>
      rw [leaves_ok run] at prepares
      have started : relation ready { ready with prepared := true, passCount := 0 } :=
        AllowsCompiling.counts
      exact IsTrans.trans _ _ _ (IsTrans.trans _ _ _ prepares started) (passed_always ..)

theorem iterate_compiled_always (count : Nat) (c : Compiler) : relation c (compiled^[count] c) := by
  induction count with
  | zero => exact Std.Refl.refl c
  | succ count ih =>
    rw [Function.iterate_succ_apply']
    exact IsTrans.trans _ _ _ ih (compiled_always _)

end

instance : AllowsCompiling Grown where
  prepare := inferInstance
  pass c := by
    have advances : (afresh c).Advances (leaves pass (afresh c)) := Always.always _
    exact .of_records_eq advances.program.records
  counts := .of_records_eq rfl

def readsInput : Spirv.Module where
  entryPoints := [
    .entry .fragment 20 [14]]
  annotations := [⟨.decorate, none, none, [.idRef 14, .decoration .location, .literal 0]⟩]
  globals := [⟨.typeVoid, none, some 2, []⟩, ⟨.typeFloat, none, some 3, [.literal 32]⟩,
    .pointer 4 .input 3,
    ⟨.typeFunction, none, some 5, [.idRef 2]⟩, .variable 14 4 .input]
  functions := [.ofBody 2 20 5 21 [⟨.load, some 3, some 30, [.idRef 14]⟩]]

end Emit

namespace Program

variable {program : Program} {point : EntryPoint}

/-- The builtins that are used from the entry point, once its calls are charted. -/
def entryBuiltins (program : Program) : Except Fault ActiveBuiltins := do
  let point ← program.entryPoint
  program.activeBuiltins point.id

theorem entryPoint_ok : program.entryPoint = .ok point ↔
      program.entryPoints.find? program.defaultEntry = some point := by
  unfold entryPoint
  split <;> simp_all

theorem entryPoint_renameEntry (found : program.entryPoint = .ok point) :
    ∃ now, (program.renameEntry point.id point).entryPoint = .ok now ∧ now.id = point.id := by
  have stored := entryPoint_ok.mp found
  simp only [entryPoint_ok]
  unfold renameEntry
  by_cases here : program.defaultEntry = point.id
  · let name := Name.legal (Name.reservedForFunctions ++ Name.reserved) point.name
    refine ⟨{ point with name }, ?_, rfl⟩
    rw [here] at stored
    rw [stored]
    change (program.entryPoints.insert _ _).find? program.defaultEntry = _
    rw [here, Assoc.find?_insert, if_pos rfl]
  · refine ⟨point, ?_, rfl⟩
    dsimp only
    split
    · change (program.entryPoints.insert _ _).find? program.defaultEntry = _
      rw [Assoc.find?_insert, if_neg here, stored]
    · exact stored

theorem activeBuiltins_legalizeNames {named : Program} {entry : Id}
    (legal : program.legalizeNames entry = .ok named) :
    named.activeBuiltins entry = program.activeBuiltins entry := by
  have same := legalizeNames_records legal
  have kept (id : Id) : KeepsMarks program named id := .legalizeNames legal
  have own (id : Id) : named.builtin? id = program.builtin? id := (kept id).builtin
  have members : named.memberBuiltin? = program.memberBuiltin? :=
    funext fun id => funext fun member => congrArg (·.builtin?) ((kept id).members member)
  have read {α : Type} (lookup : Lookup) (select : Record → Option α) :
      named.expect lookup select = program.expect lookup select := by
    funext id
    simp only [expect, record?, same]
  have used : named.usedBuiltins = program.usedBuiltins := by
    funext inst
    have words : named.constantWord? = program.constantWord? := by
      funext id
      simp only [constantWord?, constantWord, getConstant, read]
    simp only [usedBuiltins, variableAt?, record?, dataType, getVariable, pointee, getType, read,
      same, own, members, words]
  simp only [activeBuiltins, reachedInstructions, callGraph_eq same, getFunction, read, used]

theorem legalizeNames_entryBuiltins (found : program.entryPoint = .ok point) :
    ∃ named, program.legalizeNames point.id = .ok named ∧
      named.entryBuiltins = program.entryBuiltins := by
  have computed := program.legalizeNames_eq point.id
  rw [found] at computed
  refine ⟨_, computed, ?_⟩
  obtain ⟨now, again, same⟩ := entryPoint_renameEntry (program.entryPoint_legalized.trans found)
  rw [entryBuiltins, entryBuiltins, found, again]
  simp only [bind, Except.bind, same, activeBuiltins_legalizeNames computed]

end Program

namespace Emit

variable {c : Compiler} {fault : Fault}

/-- The survey stops at the builtins at the latest, before anything is added to the program. -/
theorem prepare_stops {point : EntryPoint} {named : Program}
    (found : c.program.entryPoint = .ok point)
    (legal : c.program.legalizeNames point.id = .ok named)
    (unknown : named.activeBuiltins point.id = .error fault) :
    ∃ plan, prepare c = .error fault { c with program := named, plan } := by
  simp only [prepare, survey, bind, EStateM.bind, get, getThe, MonadStateOf.get, run_get, found,
    liftM, monadLift, MonadLift.monadLift, modifyPlan, updateProgram, modifyProgram, modify,
    modifyGet, MonadStateOf.modifyGet, run_modifyGet, legal]
  -- Calls and variables are found before the builtins, for which they are found once more.
  cases calls : named.callGraph point.id with
  | error cause =>
    simp only [Program.activeBuiltins, Program.reachedInstructions, calls] at unknown
    cases unknown
    exact ⟨_, rfl⟩
  | ok graph =>
    simp only [Program.activeVariables]
    cases reached : named.reachedInstructions point.id with
    | error cause =>
      rw [Program.activeBuiltins, reached] at unknown
      cases unknown
      exact ⟨_, rfl⟩
    | ok insts =>
      simp only [bind, Except.bind, pure, Except.pure, unknown]
      exact ⟨_, rfl⟩

theorem prepare_refused (refused : c.program.entryBuiltins = .error fault) :
    ∃ failed, prepare c = .error fault failed ∧ failed.prepared = c.prepared ∧
      failed.program.entryBuiltins = .error fault := by
  cases found : c.program.entryPoint with
  | error cause =>
    obtain rfl : cause = fault := by
      rw [Program.entryBuiltins, found] at refused
      cases refused
      rfl
    refine ⟨c, ?_, rfl, refused⟩
    simp [prepare, survey, bind, EStateM.bind, get, getThe, MonadStateOf.get, run_get, found,
      liftM, monadLift, MonadLift.monadLift]
  | ok point =>
    obtain ⟨named, legal, same⟩ := Program.legalizeNames_entryBuiltins found
    have unknown : named.activeBuiltins point.id = .error fault := by
      rw [Program.activeBuiltins_legalizeNames legal]
      rwa [Program.entryBuiltins, found] at refused
    obtain ⟨plan, run⟩ := prepare_stops found legal unknown
    exact ⟨_, run, rfl, same.trans refused⟩

/-- If the calls of the entry point cannot be charted, or the type of a block of builtins that it
uses cannot be found, every compilation fails for that reason. -/
theorem compile_fails_again {program : Program} (refused : program.entryBuiltins = .error fault)
    (options : Options) (count : Nat) :
    ∃ failed, compile (compiled^[count] (Compiler.new program options)) = .error fault failed := by
  have waiting : (compiled^[count] (Compiler.new program options)).prepared = false ∧
      (compiled^[count] (Compiler.new program options)).program.entryBuiltins = .error fault := by
    induction count with
    | zero => exact ⟨rfl, refused⟩
    | succ count ih =>
      obtain ⟨unprepared, refused⟩ := ih
      obtain ⟨failed, run, prepared, refused⟩ := prepare_refused refused
      rw [Function.iterate_succ_apply', compiled_unprepared unprepared, run]
      exact ⟨prepared.trans unprepared, refused⟩
  obtain ⟨failed, run, -⟩ := prepare_refused waiting.2
  exact ⟨failed, by rw [compile_of_unprepared waiting.1, run]⟩

def selfCaller : Spirv.Module where
  entryPoints := [.entry .glCompute 20 []]
  globals := [⟨.typeVoid, none, some 2, []⟩, ⟨.typeFunction, none, some 5, [.idRef 2]⟩]
  functions := [.ofBody 2 20 5 21 [⟨.functionCall, some 2, some 22, [.idRef 20]⟩]]

theorem compile_fails_again_selfCaller :
    ∃ program failed, Program.ofModule selfCaller = .ok program ∧
      compile (compiled^[2] (Compiler.new program {})) =
        .error (.unsupported (.recursion 20 20)) failed := by
  have computed : Except.passes (Program.ofModule selfCaller) (fun program =>
      match program.entryBuiltins with
      | .error (.unsupported (.recursion 20 20)) => true
      | _ => false) = true := by
    decide +kernel
  obtain ⟨program, loaded, computed⟩ := Except.of_passes computed
  split at computed
  · rename_i refused
    obtain ⟨failed, run⟩ := compile_fails_again refused {} 2
    exact ⟨program, failed, loaded, run⟩
  · cases computed

/-- A kernel next to a buffer whose struct has members of types that nothing declares. -/
def undeclaredMembers : Spirv.Module where
  bound := some 26
  entryPoints := [.entry .glCompute 13 []]
  annotations := [⟨.decorate, none, none, [.idRef 10, .decoration .block]⟩]
  globals := [⟨.typeStruct, none, some 10, [.idRef 8, .idRef 24]⟩, .pointer 11 .storageBuffer 10,
    .variable 12 11 .storageBuffer]
  functions := [.ofBody 2 13 14 15 []]

/-- The first compilation stops at the type of the last member. It has marked the struct by then, so
that the next one gets past it and stops at the first member. -/
theorem compile_fails_otherwise_undeclaredMembers :
    ∃ program first second failed again, Program.ofModule undeclaredMembers = .ok program ∧
      compile (Compiler.new program {}) = .error first failed ∧
      compile failed = .error second again ∧
      first.message = "Internal invariant violation: id 24 has no record (get_type)" ∧
      second.message = "Internal invariant violation: id 8 has no record (get_type)" := by
  have computed : Except.passes (Program.ofModule undeclaredMembers) (fun program =>
      runFails (compile (Compiler.new program {})) fun first failed =>
        runFails (compile failed) fun second _ => decide
          (first.message = "Internal invariant violation: id 24 has no record (get_type)" ∧
            second.message = "Internal invariant violation: id 8 has no record (get_type)")) =
      true := by
    decide +kernel
  obtain ⟨program, loaded, computed⟩ := Except.of_passes computed
  obtain ⟨first, failed, run, computed⟩ := of_runFails computed
  obtain ⟨second, again, rerun, computed⟩ := of_runFails computed
  obtain ⟨before, after⟩ := of_decide_eq_true computed
  exact ⟨program, first, second, failed, again, loaded, run, rerun, before, after⟩

end Emit

end SpirvMetal
