import SpirvMetal.Proofs.Passes.Instruction
import SpirvMetal.Proofs.Repeat.Session

/-!
How many passes a compilation takes. The scan makes no pass stale, since it comes ahead of the
header.
-/

set_option synthInstance.maxSize 2048

namespace SpirvMetal

open Session

namespace Compiler

structure Scans (before after : Compiler) : Prop where
  program : after.program = before.program
  options : after.options = before.options
  plan : after.plan.settled = before.plan.settled
  session : before.session.Within after.session
  ordered : before.session.Ordered → after.session.Ordered
  prepared : after.prepared = before.prepared
  passCount : after.passCount = before.passCount
  current : after.pass.currentFunction = before.pass.currentFunction
  depth : after.pass.depth = before.pass.depth
  origins : after.pass.origins = before.pass.origins
  lines : after.pass.lines = before.pass.lines
  headerWritten : after.pass.headerWritten = before.pass.headerWritten
  slotting : after.pass.slotting = before.pass.slotting
  stale : before.pass.headerWritten = false → after.pass.stale = before.pass.stale

variable {first second third before after : Compiler}

theorem Scans.refl (c : Compiler) : c.Scans c :=
  ⟨rfl, rfl, rfl, .refl _, id, rfl, rfl, rfl, rfl, rfl, rfl, rfl, rfl, fun _ => rfl⟩

theorem Scans.trans (left : first.Scans second) (right : second.Scans third) :
    first.Scans third where
  program := right.program.trans left.program
  options := right.options.trans left.options
  plan := right.plan.trans left.plan
  session := left.session.trans right.session
  ordered := right.ordered ∘ left.ordered
  prepared := right.prepared.trans left.prepared
  passCount := right.passCount.trans left.passCount
  current := right.current.trans left.current
  depth := right.depth.trans left.depth
  origins := right.origins.trans left.origins
  lines := right.lines.trans left.lines
  headerWritten := right.headerWritten.trans left.headerWritten
  slotting := right.slotting.trans left.slotting
  stale unwritten :=
    (right.stale (left.headerWritten.trans unwritten)).trans (left.stale unwritten)

instance : Std.Refl Scans := ⟨.refl⟩

instance : IsTrans Compiler Scans := ⟨fun _ _ _ => .trans⟩

theorem Scans.advances (scans : before.Scans after) : before.Advances after :=
  { scans with
    program := scans.program ▸ .refl _
    restricted := scans.program ▸ fun _ _ has => has
    lines := scans.lines ▸ List.prefix_refl _ }

/-- What is looked up, and whether the pass is stale, stay as they are. -/
def Settled (before after : Compiler) : Prop :=
  after.pass.origins = before.pass.origins ∧ after.pass.stale = before.pass.stale

instance : Std.Refl Settled := ⟨fun _ => ⟨rfl, rfl⟩⟩

instance : IsTrans Compiler Settled :=
  ⟨fun _ _ _ left right => ⟨right.1.trans left.1, right.2.trans left.2⟩⟩

end Compiler

namespace Emit

open Compiler (Scans Settled Parallel)
open Always (andThen onward)

namespace Scanning

theorem discover {add : Session → Bool × Session} {extra : Session}
    (adds : Session.Adds add extra) (keeps : Session.KeepsOrder add) :
    Always Scans (discover add) :=
  .modify fun c =>
    { Scans.refl c with
      session := adds.grows _
      ordered := keeps.ordered _
      stale := fun unwritten => by simp [unwritten] }

instance requirePragma (line : String) : Always Scans (requirePragma line) :=
  discover (adds_pragma line) (keepsOrder_pragma line)

instance requireHeader (line : String) : Always Scans (requireHeader line) :=
  discover (adds_header line) (keepsOrder_header line)

instance requireHelper (helper : Helper) : Always Scans (requireHelper helper) :=
  andThen (discover (adds_helper helper) (keepsOrder_helper helper)) inferInstance

instance requireArrayCopy (depth : Nat) : Always Scans (requireArrayCopy depth) := by
  simp only [Emit.requireArrayCopy]
  infer_instance

instance noteAtomics : Always Scans (modifyPass ({ · with usesAtomics := true })) :=
  .modify fun c => { Scans.refl c with }

instance noteWrites : Always Scans (modifyPass ({ · with writesResources := true })) :=
  .modify fun c => { Scans.refl c with }

instance noteWriteThrough (pointer : Id) : Always Scans (noteWriteThrough pointer) := by
  simp only [Emit.noteWriteThrough]
  infer_instance

instance scanExtended (inst : Instruction) : Always Scans (scanExtended inst) := by
  simp only [Emit.scanExtended]
  repeat' first | infer_instance | refine onward fun _ => ?_ | split

instance resultType? (inst : Instruction) : Always Scans (resultType? inst) := by
  simp only [Emit.resultType?]
  split <;> infer_instance

instance scanInstruction (inst : Instruction) : Always Scans (scanInstruction inst) := by
  simp only [Emit.scanInstruction]
  repeat' first | infer_instance | refine onward fun _ => ?_ | split

instance scan : Always Scans scan := by
  have noted : Always Scans (modifyPlan ({ · with rasterizationDisabled := true })) :=
    .modify fun c => { Scans.refl c with }
  simp only [Emit.scan]
  infer_instance

end Scanning

instance (priority := low) settled_of_quiet {α : Type} (step : Emit α) [Quiet step] :
    Keeps Settled step where
  keeps done := by
    have writes := (Keeps.keeps done : Compiler.Writes ..)
    exact ⟨writes.origins, writes.stale⟩

instance settled_header : Keeps Settled header := by
  have marked : Keeps Settled (modifyPass ({ · with headerWritten := true })) :=
    ⟨fun done => by
      obtain rfl := modifyPass_ok.mp done
      exact ⟨rfl, rfl⟩⟩
  simp only [Emit.header]
  infer_instance

namespace Always

instance scan : Always Compiler.Advances scan where
  always c := (Scanning.scan.always c).advances

instance pass : Always Compiler.Advances pass := by
  simp only [Emit.pass]
  infer_instance

end Always

variable {c c' : Compiler} {u : Unit}

theorem pass_header (done : pass (afresh c) = .ok u c') :
    ∃ headed, (afresh c).Advances headed ∧ headed.pass.origins = ({} : Pass).origins ∧
      headed.pass.stale = false ∧ contents headed = .ok u c' := by
  obtain ⟨_, scanned, scanning, done⟩ := bind_ok.mp done
  obtain ⟨_, headed, heading, done⟩ := bind_ok.mp done
  have scans := Scanning.scan.keeps scanning
  have titles := settled_header.keeps heading
  refine ⟨headed, scans.advances.trans (Keeps.keeps heading), ?_, ?_, done⟩
  · rw [titles.1, scans.origins]
    rfl
  · rw [titles.2, scans.stale rfl]
    rfl

theorem pass_after_pass {first second : Compiler} {v : Unit} (done : pass (afresh c) = .ok u first)
    (again : pass (afresh first) = .ok v second) : second.pass.stale = false := by
  have advances : (afresh c).Advances first := Keeps.keeps done
  obtain ⟨headed, begun, origins, _, rest⟩ := pass_header done
  obtain ⟨headed', begun', origins', fresh, rest'⟩ := pass_header again
  have parallel : Parallel (afresh first) headed headed' :=
    { begun' with
      agrees :=
        { program := begun.program.symm.trans (advances.program.trans begun'.program)
          plan := begun'.plan.trans (advances.plan.trans begun.plan.symm)
          origins := origins'.trans origins.symm }
      stale := by simp [fresh] }
  have ended := Matched.contents parallel rest rest'
  rw [← Bool.not_eq_true]
  intro stale
  -- the second pass starts with all that the first one has found
  rcases ended.stale stale with new | ⟨id, decoration, closed, opened⟩
  · exact new (.refl _)
  · exact Bool.noConfusion (closed.symm.trans opened)

theorem passes_succ (left : Nat) (c : Compiler) : passes (left + 1) c = match pass (afresh c) with
      | .ok _ c' => if c'.pass.stale then passes left c' else .ok () c'
      | .error fault c' => .error fault c' := by
  simp only [passes, bind, EStateM.bind, modify, modifyGet, MonadStateOf.modifyGet,
    run_modifyGet, liftM, monadLift, MonadLift.monadLift, get, getThe, MonadStateOf.get,
    run_get]
  cases pass (afresh c) with
  | error fault c' => rfl
  | ok u c' => cases stale : c'.pass.stale <;> simp [stale, pure, EStateM.pure]

/-- The result of a compilation: a text after one or two passes, or an error other than too many
passes. -/
def WithinTwoPasses {α : Type} : EStateM.Result Error Compiler α → Prop
  | .ok _ c => c.passCount = 1 ∨ c.passCount = 2
  | .error error _ => ∀ limit, error ≠ .internal (.tooManyPasses limit)

theorem fault_not_passes (fault : Fault) (limit : Nat) :
    (fault : Error) ≠ .internal (.tooManyPasses limit) := by
  cases fault <;> simp [Error.ofFault]

theorem passes_within (left : Nat) {c : Compiler} (count : c.passCount = 0) :
    WithinTwoPasses (passes (left + 2) c) := by
  rw [passes_succ]
  cases done : pass (afresh c) with
  | error fault c' => exact fault_not_passes fault
  | ok u first =>
    have counted : first.passCount = 1 :=
      (Keeps.keeps done : Compiler.Advances ..).passCount.trans (by simp [afresh, count])
    dsimp only
    split
    · rw [passes_succ]
      cases again : pass (afresh first) with
      | error fault c' => exact fault_not_passes fault
      | ok u second =>
        have counted' : second.passCount = 2 :=
          (Keeps.keeps again : Compiler.Advances ..).passCount.trans (by simp [afresh, counted])
        simp only [pass_after_pass done again, Bool.false_eq_true, if_false]
        exact .inr counted'
    · exact .inl counted

def printed (c : Compiler) : EStateM.Result Error Compiler String :=
  match passes maxPasses { c with passCount := 0 } with
  | .ok _ c' => .ok c'.output c'
  | .error error c' => .error error c'

theorem printed_ok {text : String} : printed c = .ok text c' ↔
    passes maxPasses { c with passCount := 0 } = .ok () c' ∧ c'.output = text := by
  unfold printed
  cases passes maxPasses { c with passCount := 0 } with
  | ok u last => constructor <;> rintro ⟨⟩ <;> simp_all
  | error error failed => simp

theorem compile_of_prepared (prepared : c.prepared = true) : compile c = printed c := by
  unfold printed
  simp only [compile, bind, EStateM.bind, get, getThe, MonadStateOf.get, run_get, prepared,
    Bool.not_true, Bool.false_eq_true, if_false, modify, modifyGet, MonadStateOf.modifyGet,
    run_modifyGet]
  generalize passes maxPasses _ = result
  cases result <;> rfl

theorem compile_of_unprepared (unprepared : c.prepared = false) : compile c = match prepare c with
      | .ok _ ready => printed { ready with prepared := true }
      | .error fault failed => .error (Error.ofFault fault) failed := by
  simp only [compile, bind, EStateM.bind, get, getThe, MonadStateOf.get, run_get, unprepared,
    Bool.not_false, if_true, modify, modifyGet, MonadStateOf.modifyGet, run_modifyGet, liftM,
    monadLift, MonadLift.monadLift]
  cases prepare c with
  | error fault failed => rfl
  | ok u ready =>
    unfold printed
    dsimp only
    generalize passes maxPasses _ = result
    cases result <;> rfl

theorem compile_unprepared_ok {text : String} (unprepared : c.prepared = false) :
    compile c = .ok text c' ↔
      ∃ ready, prepare c = .ok () ready ∧ printed { ready with prepared := true } = .ok text c' := by
  rw [compile_of_unprepared unprepared]
  cases prepare c <;> simp

theorem compile_cases (c : Compiler) :
    (∃ fault c', compile c = .error (Error.ofFault fault) c') ∨
      ∃ ready, compile c = printed ready := by
  cases prepared : c.prepared with
  | true => exact .inr ⟨c, compile_of_prepared prepared⟩
  | false =>
    rw [compile_of_unprepared prepared]
    cases prepare c with
    | error fault failed => exact .inl ⟨fault, failed, rfl⟩
    | ok u ready => exact .inr ⟨_, rfl⟩

/-- A compilation takes one pass or two, whatever the program, the options and the session are: what
a pass discovers below its header was discovered by the pass before it. -/
theorem compile_within_two_passes (c : Compiler) : WithinTwoPasses (compile c) ∧
      ∀ first second, pass (afresh c) = .ok () first → pass (afresh first) = .ok () second →
        second.pass.stale = false := by
  refine ⟨?_, fun first second done again => pass_after_pass done again⟩
  rcases compile_cases c with ⟨fault, c', failed⟩ | ⟨ready, compiled⟩
  · rw [failed]
    exact fault_not_passes fault
  · have within : WithinTwoPasses (passes maxPasses { ready with passCount := 0 }) :=
      passes_within 1 rfl
    rw [compiled, printed]
    cases done : passes maxPasses { ready with passCount := 0 } <;>
      · rw [done] at within
        exact within

end Emit

end SpirvMetal
