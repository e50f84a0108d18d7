import SpirvMetal.Proofs.Prepare.Kept
import SpirvMetal.Proofs.Program.Samples
import SpirvMetal.Proofs.Threading.Uses

/-!
Preparation threads globals exactly: a function gets what it or a function that it reaches uses, and
nothing else.
-/

namespace SpirvMetal

open Compiler (Threads)

namespace Program

variable {program after : Program} {function callee : Id}

theorem Extends.functionAt?_outline (growth : Extends Function.outline program after)
    (bounded : program.Bounded) {found : Function}
    (stored : program.functionAt? function = some found) :
    ∃ now, after.functionAt? function = some now ∧ now.outline = found.outline := by
  have same := growth.functionAt?_eq (bounded.function_below stored)
  rw [stored] at same
  exact Option.map_eq_some_iff.mp same

theorem instructions_eq {left right : Function} (same : left.outline = right.outline) :
    left.instructions = right.instructions := by
  change left.outline.instructions = right.outline.instructions
  rw [same]

theorem Extends.directCallees_ok (growth : Extends Function.outline program after)
    (bounded : program.Bounded) {callees : List Id}
    (found : program.directCallees function = .ok callees) :
    after.directCallees function = .ok callees := by
  obtain ⟨own, getting, found⟩ := Except.bind_ok.mp found
  obtain ⟨now, stored, same⟩ := growth.functionAt?_outline bounded (getFunction_ok.mp getting)
  refine Except.bind_ok.mpr ⟨now, getFunction_ok.mpr stored, ?_⟩
  rw [instructions_eq same]
  exact found

theorem Extends.charts {graph : CallGraph} (growth : Extends Function.outline program after)
    (bounded : program.Bounded) (charts : graph.Charts program) : graph.Charts after where
  nodup := charts.nodup
  noted function listed := growth.directCallees_ok bounded (charts.noted function listed)
  first before function behind split callee calls := by
    have noted := charts.noted function (by simp [split])
    have called := (Program.directCallees_ok (growth.directCallees_ok bounded noted)).mpr calls
    exact charts.first before function behind split callee
      ((Program.directCallees_ok noted).mp called)

theorem Extends.reaches (growth : Extends Function.outline program after)
    (bounded : program.Bounded) (reaches : program.Reaches function callee) :
    after.Reaches function callee := by
  refine Relation.ReflTransGen.mono ?_ function callee reaches
  rintro caller callee ⟨found, inst, stored, member, calls⟩
  obtain ⟨now, stored, same⟩ := growth.functionAt?_outline bounded stored
  exact ⟨now, inst, stored, by rwa [instructions_eq same], calls⟩

end Program

namespace Emit

variable {c c' : Compiler}

instance markStructs_threads (fuel : Nat) (pending : List Id) :
    Keeps (Threads fun _ => []) (markStructs fuel pending) := by
  induction fuel generalizing pending with
  | zero => exact Keeps.fail .aborted
  | succ fuel ih =>
    cases pending with
    | nil => exact Keeps.pure ()
    | cons id pending =>
      have marked (struct : Id) : Keeps (Threads fun _ => []) (modifyPlan fun plan =>
          { plan with packableStructs := Compiler.insertId plan.packableStructs struct }) :=
        ⟨fun done => by
          obtain rfl := modify_ok.mp done
          exact
            { Threads.refl _ with
              activeBuiltins := rfl
              callGraph := rfl
              entry := rfl }⟩
      simp only [markStructs]
      infer_instance

instance alignStruct_threads (struct : Id) :
    Keeps (Threads fun _ => []) (edit (Layout.alignStruct struct)) where
  keeps {c c' _} done := by
    unfold edit at done
    split at done
    · rename_i program run
      cases done
      have laid := (Layout.alignStruct_decides run).toLaid
      refine ⟨.of_records_eq laid.records, fun id _ => ?_, fun id _ => ?_, fun id _ member =>
        (laid.sameMembers id).memberBuiltin?_eq member, rfl, rfl, rfl, rfl⟩
      · simp [Program.parameters?, Program.functionAt?, laid.record?_eq]
      · rw [Program.builtin?, Program.builtin?, laid.own]
    · cases done

instance layoutStructs_threads : Keeps (Threads fun _ => []) layoutStructs := by
  simp only [layoutStructs]
  infer_instance

instance entryFixups_threads : Keeps (Threads fun _ => []) entryFixups := by
  have appended (fixups : List Fixup) : Keeps (Threads fun _ => [])
      (modifyEntry fun f => { f with fixupsIn := f.fixupsIn ++ fixups }) :=
    ⟨fun done => by
      replace done := get_bind.mp done
      obtain ⟨program, changed, rfl⟩ := updateProgram_ok.mp done
      exact Compiler.only_nil _ ▸ .modifyFunction (fun _ => by rfl) (fun _ => by simp) changed⟩
  unfold entryFixups
  infer_instance

/-- The globals that functions have received between the survey of a program and the end of its
preparation, as parameters: what they need, in ascending order, behind their own parameters. -/
structure ThreadsExactly (program : Program) (surveyed prepared : Compiler)
    (globals : Id → List Nat) : Prop where
  code : program.Extends Function.outline surveyed.program
  called : ∀ function, function ∈ surveyed.plan.callGraph.order ↔
    surveyed.program.Reaches surveyed.plan.entry function
  ascending : ∀ function ∈ surveyed.plan.callGraph.order, (globals function).Pairwise (· < ·)
  needed : ∀ function ∈ surveyed.plan.callGraph.order, ∀ id,
    id ∈ globals function ↔ surveyed.Needs function id
  received : ∀ function ∈ surveyed.plan.callGraph.order, function ≠ surveyed.plan.entry →
    ∃ own now parts, program.functionAt? function = some own ∧
      prepared.program.functionAt? function = some now ∧
      now.parameters = own.parameters ++ parts.flatten ∧
      List.Forall₂ prepared.Stands (globals function) parts
  others : ∀ function own, program.functionAt? function = some own →
    function ∉ surveyed.plan.callGraph.order ∨ function = surveyed.plan.entry →
    ∃ now, prepared.program.functionAt? function = some now ∧ now.parameters = own.parameters
  passed : ∀ function callee, function ∈ surveyed.plan.callGraph.order →
    surveyed.program.Calls function callee →
    callee ∈ surveyed.plan.callGraph.order ∧ globals callee ⊆ globals function

theorem prepare_threads_exactly {m : Spirv.Module} {program : Program} {options : Options}
    {after : Compiler} (loaded : Program.ofModule m = .ok program)
    (prepared : prepare (Compiler.new program options) = .ok () after) :
    ∃ start globals, survey (Compiler.new program options) = .ok () start ∧
      ThreadsExactly program start after globals := by
  have bounded := Program.ofModule_bounded loaded
  obtain ⟨_, start, surveyed, prepared⟩ := bind_ok.mp prepared
  obtain ⟨_, threaded, threading, prepared⟩ := bind_ok.mp prepared
  have finish : Threads (fun _ => []) threaded after := Keeps.keeps prepared
  obtain ⟨point, graph, _, called, growth, entry, rfl, _⟩ := survey_ok bounded surveyed
  rw [← entry] at called
  obtain ⟨charted, last, reached⟩ := Program.callGraph_ok called
  have charts := growth.charts bounded charted
  obtain ⟨candidates, uses, added, collected, swept, threads, stands, none⟩ :=
    threadGlobals_ok (growth.bounded bounded) charts.nodup threading
  have lists := Compiler.uses_lists (fun _ => Compiler.threadedVariables_ok collected) charts
    (List.nil_append _).symm (by simp) swept
  have final (function : Id) (own : Function) (stored : program.functionAt? function = some own) :
      ∃ now, after.program.functionAt? function = some now ∧
        now.parameters = own.parameters ++ added function := by
    obtain ⟨found, surveyed, same⟩ := growth.functionAt?_outline bounded stored
    have below := (growth.bounded bounded).function_below surveyed
    have grown := (threads.append finish).parameters function below
    have kept : found.outline.parameters = own.outline.parameters := by rw [same]
    change found.parameters = own.parameters at kept
    simp only [Program.parameters?, surveyed, Option.map_some, kept, List.append_nil] at grown
    exact Option.map_eq_some_iff.mp grown
  have needed (function : Id) (listed : function ∈ start.plan.callGraph.order) :
      List.Pairwise (· < ·) ((uses.find? function).getD [] : List Nat) ∧
        ∀ id, id ∈ (uses.find? function).getD [] ↔ start.Needs function id := by
    obtain ⟨ids, found, ascending, members⟩ := lists function listed
    rw [found]
    exact ⟨ascending, members⟩
  refine ⟨start, fun function => (uses.find? function).getD [], surveyed, growth,
    fun function => ⟨fun listed => ?_, fun reaches => ?_⟩,
    fun function listed => (needed function listed).1,
    fun function listed => (needed function listed).2, fun function listed other => ?_,
    fun function own stored outside => ?_, fun function callee listed calls => ?_⟩
  · exact growth.reaches bounded ((reached function).mp listed)
  · exact charts.reaches (List.mem_of_getLast? last) reaches
  · obtain ⟨own, found, _⟩ := Except.bind_ok.mp (charted.noted function listed)
    have stored := Program.getFunction_ok.mp found
    obtain ⟨now, stored_after, parameters⟩ := final function own stored
    obtain ⟨parts, flat, stands⟩ := stands function listed other
    refine ⟨own, now, parts, stored, stored_after, by rw [parameters, flat], ?_⟩
    exact stands.imp fun _ _ stands =>
      stands.mono (threads.program.bounded (growth.bounded bounded)) finish
  · obtain ⟨now, stored_after, parameters⟩ := final function own stored
    exact ⟨now, stored_after, by rw [parameters, none function outside, List.append_nil]⟩
  · have called := charts.closed listed calls
    refine ⟨called, fun id member => ?_⟩
    have needs := ((needed callee called).2 id).mp member
    exact ((needed function listed).2 id).mpr (Compiler.needs_iff.mpr (.inr ⟨callee, calls, needs⟩))

/-- The entry point calls two functions that share a callee. The callee writes the position in a
block of builtins and reads a buffer; one of its callers, and a function that is not called, read
another. -/
def sharedCallee : Spirv.Module where
  entryPoints := [.entry .vertex 20 [6]]
  annotations := [⟨.memberDecorate, none, none,
      [.idRef 4, .literal 0, .decoration .builtIn, .builtIn .position]⟩]
  globals := [⟨.typeVoid, none, some 1, []⟩, ⟨.typeFloat, none, some 2, [.literal 32]⟩,
    ⟨.typeVector, none, some 3, [.idRef 2, .literal 4]⟩,
    ⟨.typeStruct, none, some 4, [.idRef 3]⟩, .pointer 5 .output 4, .variable 6 5 .output,
    .pointer 7 .output 3,
    ⟨.typeInt, none, some 8, [.literal 32, .literal 1]⟩,
    ⟨.constant, some 8, some 9, [.literal 0]⟩, .pointer 10 .uniform 3, .variable 11 10 .uniform,
    .variable 12 10 .uniform,
    ⟨.typeFunction, none, some 13, [.idRef 1]⟩]
  functions := [function 24 34 [⟨.load, some 3, some 40, [.idRef 12]⟩], function 23 33 [
      ⟨.accessChain, some 7, some 41, [.idRef 6, .idRef 9]⟩,
      ⟨.load, some 3, some 42, [.idRef 11]⟩, ⟨.store, none, none, [.idRef 41, .idRef 42]⟩],
    function 22 32 [
      ⟨.load, some 3, some 43, [.idRef 12]⟩, ⟨.functionCall, some 1, some 44, [.idRef 23]⟩],
    function 21 31 [⟨.functionCall, some 1, some 45, [.idRef 23]⟩],
    function 20 30 [⟨.functionCall, some 1, some 46, [.idRef 21]⟩,
      ⟨.functionCall, some 1, some 47, [.idRef 22]⟩]]
where
  function (id label : Nat) (body : List Spirv.Instruction) : Spirv.Function :=
    .ofBody 1 id 13 label body

def basesOf (c : Compiler) (function : Id) : Option (List (Option Id)) :=
  (c.program.parameters? function).map fun parameters =>
    parameters.map fun parameter => (c.program.variableAt? parameter.id).bind (·.base)

theorem prepare_threads_exactly_sharedCallee :
    ∃ program start after globals, Program.ofModule sharedCallee = .ok program ∧
      prepare (Compiler.new program {}) = .ok () after ∧
      ThreadsExactly program start after globals ∧
      [20, 21, 22, 23, 24].map (basesOf after) =
        [some [], some [none, some 11], some [none, some 11, some 12], some [none, some 11],
          some []] := by
  have computed : Except.passes (Program.ofModule sharedCallee) (fun program =>
      runPasses (prepare (Compiler.new program {})) fun _ after =>
        [20, 21, 22, 23, 24].map (basesOf after) =
          [some [], some [none, some 11], some [none, some 11, some 12], some [none, some 11],
            some []]) = true := by
    decide +kernel
  obtain ⟨program, loaded, computed⟩ := Except.of_passes computed
  obtain ⟨_, after, prepared, computed⟩ := of_runPasses computed
  obtain ⟨start, globals, _, threads⟩ := prepare_threads_exactly loaded prepared
  exact ⟨program, start, after, globals, loaded, prepared, threads, of_decide_eq_true computed⟩

end Emit

end SpirvMetal
