import SpirvMetal.Program.Load
import SpirvMetal.Proofs.Flow.Written
import SpirvMetal.Proofs.Passes.Bound

/-!
Where the text of a compilation comes from. The last pass writes all of it, for the program as it
was prepared, one function after the other. A header is made of what the session holds when it is
written.
-/

namespace SpirvMetal.Emit

open Structure

variable {c c' start stop : Compiler} {u : Unit}
variable {text : String} {m : Spirv.Module} {options : Options} {α : Type} {plan plan' : Plan}
  {id : Id} {before after : Program} {found : Function} {block : Block} {inst : Instruction}

/-- A pass that writes for the program and the plan of `ready`, and ends in `stop`. -/
structure WritesFor (ready start stop : Compiler) : Prop where
  program : ready.program.Alike start.program
  plan : start.plan.settled = ready.plan.settled
  written : pass start = .ok () stop

theorem passes_last {left : Nat} (ran : passes left c = .ok u stop) :
    ∃ start, WritesFor c start stop := by
  induction left generalizing c with
  | zero => cases ran
  | succ left ih =>
    rw [passes_succ] at ran
    cases passed : pass (afresh c) with
    | error fault failed =>
      rw [passed] at ran
      cases ran
    | ok _ next =>
      have advances : (afresh c).Advances next := Keeps.keeps passed
      simp only [passed] at ran
      split at ran
      · obtain ⟨start, writes⟩ := ih ran
        exact ⟨start, advances.program.trans writes.program, writes.plan.trans advances.plan,
          writes.written⟩
      · cases ran
        exact ⟨afresh c, .refl _, rfl, passed⟩

theorem printed_last {ready : Compiler} (ran : printed ready = .ok text stop) :
    ∃ start, WritesFor ready start stop ∧ stop.output = text := by
  obtain ⟨writing, output⟩ := printed_ok.mp ran
  obtain ⟨start, writes⟩ := passes_last writing
  exact ⟨start, { writes with }, output⟩

theorem compile_last (compiled : compile c = .ok text stop) :
    ∃ ready start, (prepare c = .ok () ready ∨ c.prepared = true ∧ c = ready) ∧
      WritesFor ready start stop ∧ stop.output = text := by
  cases prepared : c.prepared with
  | true =>
    obtain ⟨start, writes⟩ := printed_last (compile_of_prepared prepared ▸ compiled)
    exact ⟨c, start, .inr ⟨rfl, rfl⟩, writes⟩
  | false =>
    obtain ⟨ready, preparing, ran⟩ := (compile_unprepared_ok prepared).mp compiled
    obtain ⟨start, writes, output⟩ := printed_last ran
    exact ⟨ready, start, .inl preparing, { writes with }, output⟩

/-- The state at the end of the compilation of a module, if there is one. -/
def compiled? (m : Spirv.Module) (options : Options) : Option Compiler :=
  match Program.ofModule m with
  | .error _ => none
  | .ok program =>
    match compile (Compiler.new program options) with
    | .error _ _ => none
    | .ok _ stop => some stop

theorem compiled?_some (found : compiled? m options = some stop) :
    ∃ program text, Program.ofModule m = .ok program ∧
      compile (Compiler.new program options) = .ok text stop := by
  unfold compiled? at found
  split at found
  · cases found
  · rename_i program loaded
    split at found
    · cases found
    · rename_i text _ compiled
      cases found
      exact ⟨program, text, loaded, compiled⟩

theorem compiled?_decide {facts : Compiler → Prop} [DecidablePred facts]
    (computed : (compiled? m options).any (fun c => facts c) = true) :
    ∃ program text stop, Program.ofModule m = .ok program ∧
      compile (Compiler.new program options) = .ok text stop ∧ facts stop := by
  obtain ⟨stop, found, holds⟩ := (Option.any_eq_true _ _).mp computed
  obtain ⟨program, text, loaded, compiled⟩ := compiled?_some found
  exact ⟨program, text, stop, loaded, compiled, of_decide_eq_true holds⟩

theorem forM_within {relation : Compiler → Compiler → Prop} [Std.Refl relation]
    [IsTrans Compiler relation] {step : α → Emit Unit} [∀ a, Keeps relation (step a)]
    {list : List α} {a : α} (run : list.forM step c = .ok u c') (member : a ∈ list) :
    ∃ before after, relation c before ∧ step a before = .ok () after ∧ relation after c' := by
  induction list generalizing c u with
  | nil => cases member
  | cons first rest ih =>
    obtain ⟨_, middle, firstRun, restRun⟩ := bind_ok.mp run
    rcases List.mem_cons.mp member with rfl | member
    · exact ⟨c, middle, Std.Refl.refl c, firstRun, Keeps.keeps restRun⟩
    · obtain ⟨before, after, earlier, run, later⟩ := ih restRun member
      exact ⟨before, after, IsTrans.trans _ _ _ (Keeps.keeps firstRun) earlier, run, later⟩

theorem forM_runs {step : α → Emit Unit} [∀ a, Advancing (step a)] {list : List α} {a : α}
    (run : list.forM step c = .ok u c') (member : a ∈ list) : RunsOn (step a) c c' :=
  forM_within run member

theorem settled_eq (view : Plan → α) (blind : ∀ plan, view plan.settled = view plan)
    (same : plan'.settled = plan.settled) : view plan' = view plan := by
  rw [← blind plan', same, blind]

theorem settled_callGraph (same : plan'.settled = plan.settled) :
    plan'.callGraph = plan.callGraph := settled_eq (·.callGraph) (fun _ => rfl) same

theorem settled_entry (same : plan'.settled = plan.settled) :
    plan'.entry = plan.entry := settled_eq (·.entry) (fun _ => rfl) same

theorem pass_parts (run : pass start = .ok u stop) : RunsOn constantsAndStructs start stop ∧
      RunsOn (start.plan.callGraph.order.forM function) start stop := by
  simp only [pass, contents, bind_ok, get_ok] at run
  obtain ⟨_, scanned, scanning, _, headed, heading, _, declared, declaring, _, constants,
    defining, _, _, ⟨rfl, rfl⟩, _, outDone, outRun, _, inDone, inRun, _, helped, helping,
    run⟩ := run
  have titled : start.Advances headed := (advances scanning).trans (advances heading)
  have earlier : start.Advances constants :=
    (titled.trans (advances declaring)).trans (advances defining)
  have between : constants.Advances helped :=
    ((advances outRun).trans (advances inRun)).trans (advances helping)
  have later : declared.Advances stop :=
    ((advances defining).trans between).trans (advances run)
  rw [settled_callGraph earlier.plan] at run
  exact ⟨⟨headed, declared, titled, declaring, later⟩,
    ⟨helped, stop, earlier.trans between, run, .refl stop⟩⟩

theorem pass_runs_function (run : pass start = .ok u stop)
    (member : id ∈ start.plan.callGraph.order) : RunsOn (function id) start stop :=
  (pass_parts run).2.inside fun _ _ run => forM_runs run member

theorem closing_runs (run : (do
      body id
      endScope
      statement ""
      modifyPass ({ · with currentFunction := none }) : Emit Unit) c = .ok u c') :
    RunsOn (body id) c c' := by
  obtain ⟨_, closing, bodyRun, run⟩ := bind_ok.mp run
  obtain ⟨_, closed, closeRun, run⟩ := bind_ok.mp run
  obtain ⟨_, spaced, spacing, leaving⟩ := bind_ok.mp run
  exact ⟨c, closing, .refl c, bodyRun,
    ((advances closeRun).trans (advances spacing)).trans (advances leaving)⟩

theorem function_runs (run : function id c = .ok u c') :
    ∃ printing printed line, c.Advances printing ∧ RunsOn (body id) printed c' ∧
      statement line printing = .ok () printed ∧
      (id ≠ c.plan.entry → printing.functionSignature id = .ok line) := by
  obtain ⟨_, entered, entering, run⟩ := bind_ok.mp run
  obtain ⟨_, named, naming, run⟩ := bind_ok.mp run
  replace run := get_bind.mp run
  have begun : c.Advances named := (advances entering).trans (advances naming)
  dsimp only at run
  split at run
  · rename_i isEntry
    obtain ⟨line, printing, signing, run⟩ := bind_ok.mp run
    obtain ⟨_, printed, writing, run⟩ := bind_ok.mp run
    obtain ⟨_, opened, opening, run⟩ := bind_ok.mp run
    obtain ⟨_, _, run⟩ := read_bind.mp run
    obtain ⟨_, declared, declaring, run⟩ := bind_ok.mp run
    obtain ⟨_, gathered, gathering, run⟩ := bind_ok.mp run
    obtain ⟨_, _, run⟩ := read_bind.mp run
    obtain ⟨_, fixed, fixing, run⟩ := bind_ok.mp run
    have earlier : printed.Advances fixed :=
      (((advances opening).trans (advances declaring)).trans (advances gathering)).trans
        (advances fixing)
    refine ⟨printing, printed, line, begun.trans (advances signing),
      (closing_runs run).within earlier (.refl c'), writing, fun other => ?_⟩
    rw [settled_entry begun.plan, decide_eq_true_eq] at isEntry
    exact absurd isEntry other
  · obtain ⟨line, signature, run⟩ := lift_bind.mp run
    obtain ⟨_, printed, writing, run⟩ := bind_ok.mp run
    obtain ⟨_, opened, opening, run⟩ := bind_ok.mp run
    obtain ⟨_, _, run⟩ := read_bind.mp run
    obtain ⟨_, declared, declaring, run⟩ := bind_ok.mp run
    have earlier : printed.Advances declared := (advances opening).trans (advances declaring)
    exact ⟨named, printed, line, begun, (closing_runs run).within earlier (.refl c'), writing,
      fun _ => signature⟩

/-- The blocks of a function that its text holds, in a function with at least one. -/
def IsListed (program : Program) (function : Function) (block : Block) : Prop :=
  ∃ first rest, function.blocks = first :: rest ∧
    findBlock function.blocks block.label = .ok block ∧
    block.label ∈ (structureBlocks program function.blocks first.label).listing.labels

theorem IsListed.of_alike {function : Function} (alike : before.Alike after)
    (listed : IsListed after function block) : IsListed before function block := by
  obtain ⟨first, rest, starts, found, listed⟩ := listed
  exact ⟨first, rest, starts, found, by rwa [Structure.structureBlocks_eq alike] at listed⟩

theorem block_runs (run : Emit.block block c = .ok u c') (member : inst ∈ block.body) :
    RunsOn (lower inst) c c' := by
  obtain ⟨_, begun, forgetting, run⟩ := bind_ok.mp run
  refine ((forM_runs run member).inside fun before after lowered => ?_).within (advances forgetting)
    (.refl c')
  obtain ⟨_, middle, lowered, noted⟩ := bind_ok.mp lowered
  have marks : Advancing (modifyPass fun pass => { pass with previousOp := some inst.op }) :=
    Advancing.modifyPass fun _ => List.prefix_refl _
  exact ⟨before, middle, .refl before, lowered, marks.keeps noted⟩

theorem function_runs_instruction (run : function id c = .ok u c')
    (stored : c.program.getFunction id = .ok found) (listed : IsListed c.program found block)
    (member : inst ∈ block.body) : RunsOn (lower inst) c c' := by
  obtain ⟨first, rest, starts, blockFound, listed⟩ := listed
  obtain ⟨printing, printed, line, begun, bodyRuns, writing, _⟩ := function_runs run
  obtain ⟨opened, closing, inner, bodyRun, outer⟩ := bodyRuns
  have reached : c.Advances opened := (begun.trans (advances writing)).trans inner
  obtain ⟨_, runs⟩ := body_listed ((reached.program.getFunction_eq id).trans stored) starts bodyRun
  rw [Structure.structureBlocks_eq reached.program] at runs
  have blockRuns := runs.inside fun _ _ run => listing_writes run listed blockFound
  exact (blockRuns.inside fun _ _ run => block_runs run member).within reached outer

theorem pass_runs_instruction (run : pass start = .ok u stop)
    (ordered : id ∈ start.plan.callGraph.order) (stored : start.program.getFunction id = .ok found)
    (listed : IsListed start.program found block) (member : inst ∈ block.body) :
    RunsOn (lower inst) start stop := by
  obtain ⟨before, after, earlier, run, later⟩ := pass_runs_function run ordered
  exact (function_runs_instruction run ((earlier.program.getFunction_eq id).trans stored)
    (listed.of_alike earlier.program.symm) member).within earlier later

end SpirvMetal.Emit

namespace SpirvMetal

def paragraphLines (lines : List String) : List String :=
  if lines.isEmpty then [] else lines ++ [""]

def Session.headerLines (session : Session) : List String :=
  paragraphLines session.pragmas ++
    paragraphLines (["#include <metal_stdlib>", "#include <simd/simd.h>"] ++ session.headers) ++
    paragraphLines ["using namespace metal;"] ++ paragraphLines session.typedefs

def Pass.write (pass : Pass) (lines : List String) : Pass :=
  { pass with lines := pass.lines ++ (lines.map (Line.mk pass.depth)).toArray }

theorem Pass.write_nil (pass : Pass) : pass.write [] = pass := by
  simp [write]

theorem Pass.write_write (pass : Pass) (first second : List String) :
    (pass.write first).write second = pass.write (first ++ second) := by
  simp [write]

namespace Emit

theorem statement_eq (line : String) (c : Compiler) :
    statement line c = .ok () { c with pass := c.pass.write [line] } := by
  simp only [Pass.write, List.map_cons, List.map_nil, Array.append_singleton]
  rfl

theorem statements_eq (lines : List String) (c : Compiler) :
    lines.forM statement c = .ok () { c with pass := c.pass.write lines } := by
  induction lines generalizing c with
  | nil => rw [Pass.write_nil]; rfl
  | cons line rest ih =>
    refine bind_ok.mpr ⟨(), _, statement_eq line c, ?_⟩
    rw [ih, Pass.write_write]
    rfl

theorem paragraph_eq (lines : List String) (c : Compiler) :
    paragraph lines c = .ok () { c with pass := c.pass.write (paragraphLines lines) } := by
  refine bind_ok.mpr ⟨(), _, statements_eq lines c, ?_⟩
  cases lines with
  | nil => rfl
  | cons line rest =>
    simp only [paragraphLines, List.isEmpty_cons, Bool.not_false, if_true, Bool.false_eq_true,
      if_false]
    rw [statement_eq, Pass.write_write]

theorem header_eq (c : Compiler) : header c = .ok ()
      { c with
        pass := { c.pass.write c.session.headerLines with headerWritten := true } } := by
  refine bind_ok.mpr ⟨c, c, get_ok.mpr ⟨rfl, rfl⟩, ?_⟩
  refine bind_ok.mpr ⟨(), _, paragraph_eq .., ?_⟩
  refine bind_ok.mpr ⟨(), _, paragraph_eq .., ?_⟩
  refine bind_ok.mpr ⟨(), _, paragraph_eq .., ?_⟩
  refine bind_ok.mpr ⟨(), _, paragraph_eq .., ?_⟩
  simp only [Pass.write_write, Session.headerLines, List.append_assoc]
  rfl

end Emit

end SpirvMetal
