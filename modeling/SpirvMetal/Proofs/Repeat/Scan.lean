import SpirvMetal.Proofs.Passes.Text

/-!
The scan of a later compilation. It discovers nothing, since everything that it would discover has
been discovered before, and it notes the same about the pass.
-/

set_option synthInstance.maxSize 2048

namespace SpirvMetal

namespace Compiler

/-- How a scan and a later one that starts from `again` go on side by side. Nothing but the pass
changes in the later one. -/
structure Rescan (again c d : Compiler) : Prop where
  later : d = { again with pass := c.pass }
  program : c.program.Alike d.program
  swizzleTextures : d.options.swizzleTextures = c.options.swizzleTextures
  order : d.plan.callGraph.order = c.plan.callGraph.order
  ordered : d.session.Ordered
  unwritten : c.pass.headerWritten = false

end Compiler

namespace Emit

open Compiler (Rescan Scans)

variable {α β : Type} {again : Compiler}

/-- A step that gives the same in the later scan, if all that it discovers is known there. -/
class Rescans (again : Compiler) (step : Emit α) : Prop where
  repeats {c d c' : Compiler} {a : α} : Rescan again c d → step c = .ok a c' →
    c'.session.Within again.session → ∃ d', step d = .ok a d' ∧ Rescan again c' d'

namespace Rescans

instance pure (a : α) : Rescans again (pure a : Emit α) where
  repeats {c d c' b} rescan done _ := by
    obtain ⟨rfl, rfl⟩ := pure_ok.mp done
    exact ⟨d, rfl, rescan⟩

instance lift (result : Except Fault α) : Rescans again (liftM result : Emit α) where
  repeats {c d c' b} rescan done _ := by
    obtain ⟨found, rfl⟩ := lift_ok.mp done
    exact ⟨d, lift_ok.mpr ⟨found, rfl⟩, rescan⟩

instance fail (fault : Fault) : Rescans again (fail fault : Emit α) where
  repeats _ done _ := (fail_ok done).elim

/-- What is known at the end was known in the middle, since scans only discover more. -/
instance bind (step : Emit α) (next : α → Emit β) [Rescans again step]
    [∀ a, Rescans again (next a)] [∀ a, Keeps Scans (next a)] :
    Rescans again (step >>= next) where
  repeats {c d c' b} rescan done known := by
    obtain ⟨a, middle, begun, done⟩ := bind_ok.mp done
    have grows : middle.session.Within c'.session := (Keeps.keeps done : Scans ..).session
    obtain ⟨middle', begun', rescan⟩ := repeats rescan begun (grows.trans known)
    obtain ⟨d', done', rescan⟩ := repeats rescan done known
    exact ⟨d', bind_ok.mpr ⟨a, middle', begun', done'⟩, rescan⟩

theorem andThen {step : Emit α} {next : α → Emit β} (first : Rescans again step)
    (rest : ∀ a, Rescans again (next a)) (scans : ∀ a, Keeps Scans (next a)) :
    Rescans again (step >>= next) := bind step next

instance ite (condition : Prop) [Decidable condition] (accepted rejected : Emit α)
    [Rescans again accepted] [Rescans again rejected] :
    Rescans again (if condition then accepted else rejected) := by
  split <;> assumption

theorem get {next : Compiler → Emit β}
    (same : ∀ c d, Rescan again c d → next d = next c)
    (rest : ∀ c, Rescans again (next c)) : Rescans again (get >>= next) where
  repeats {c d c' b} rescan done known := by
    replace done := get_bind.mp done
    obtain ⟨d', done', rescan'⟩ := (rest c).repeats rescan done known
    rw [← same c d rescan] at done'
    exact ⟨d', bind_ok.mpr ⟨d, d, get_ok.mpr ⟨rfl, rfl⟩, done'⟩, rescan'⟩

instance forIn (list : List α) (step : α → β → Emit (ForInStep β))
    [∀ a b, Rescans again (step a b)] [∀ a b, Keeps Scans (step a b)] (first : β) :
    Rescans again (forIn list first step) := by
  induction list generalizing first with
  | nil => exact pure first
  | cons a rest ih =>
    rw [List.forIn_cons]
    refine andThen inferInstance (fun next => ?_) fun next => ?_ <;> cases next <;> infer_instance

instance optionForM (found : Option α) (step : α → Emit Unit)
    [∀ a, Rescans again (step a)] : Rescans again (found.forM step) := by
  cases found with
  | none => exact pure ()
  | some a => exact inferInstanceAs (Rescans again (step a))

theorem modifyPass {change : Pass → Pass}
    (headerWritten : ∀ pass, (change pass).headerWritten = pass.headerWritten) :
    Rescans again (modifyPass change) where
  repeats {c d c' u} rescan done _ := by
    obtain rfl := modifyPass_ok.mp done
    refine ⟨_, modifyPass_ok.mpr rfl, ?_⟩
    have passes : d.pass = c.pass := by rw [rescan.later]
    refine ⟨?_, rescan.program, rescan.swizzleTextures, rescan.order, rescan.ordered, ?_⟩
    · rw [passes, rescan.later]
    · rw [headerWritten, rescan.unwritten]

instance noteAtomics : Rescans again (Emit.modifyPass ({ · with usesAtomics := true })) :=
  modifyPass fun _ => rfl

instance noteWrites : Rescans again (Emit.modifyPass ({ · with writesResources := true })) :=
  modifyPass fun _ => rfl

theorem discover_unwritten {add : Session → Bool × Session} {c : Compiler}
    (unwritten : c.pass.headerWritten = false) :
    Emit.discover add c = .ok () { c with session := (add c.session).2 } := by
  have fresh : (c.pass.stale || ((add c.session).1 && c.pass.headerWritten)) = c.pass.stale := by
    rw [unwritten, Bool.and_false, Bool.or_false]
  refine modify_ok.mpr ?_
  dsimp only
  rw [fresh]

theorem discover {add : Session → Bool × Session} {extra : Session}
    (adds : Session.Adds add extra) (keeps : Session.KeepsOrder add) :
    Rescans again (discover add) where
  repeats {c d c' u} rescan done known := by
    rw [discover_unwritten rescan.unwritten] at done
    cases done
    have session : d.session = again.session := by rw [rescan.later]
    have unwritten : d.pass.headerWritten = false := by rw [rescan.later, rescan.unwritten]
    have found : (add d.session).1 = false :=
      (adds.known d.session).mpr (session ▸ (adds.added c.session).trans known)
    refine ⟨d, ?_, rescan.later, rescan.program, rescan.swizzleTextures, rescan.order,
      rescan.ordered, rescan.unwritten⟩
    rw [discover_unwritten unwritten, keeps.known d.session rescan.ordered found]

instance requirePragma (line : String) : Rescans again (requirePragma line) :=
  discover (Session.adds_pragma line) (Session.keepsOrder_pragma line)

instance requireHeader (line : String) : Rescans again (requireHeader line) :=
  discover (Session.adds_header line) (Session.keepsOrder_header line)

instance requireHelper (helper : Helper) : Rescans again (requireHelper helper) := by
  have added : Rescans again (Emit.discover (·.addHelper helper)) :=
    discover (Session.adds_helper helper) (Session.keepsOrder_helper helper)
  simp only [Emit.requireHelper]
  infer_instance

instance requireArrayCopy (depth : Nat) : Rescans again (requireArrayCopy depth) := by
  simp only [Emit.requireArrayCopy]
  infer_instance

instance noteWriteThrough (pointer : Id) : Rescans again (noteWriteThrough pointer) :=
  get (fun c d rescan => by simp only [rescan.program.expressionType_eq]) inferInstance

instance resultType? (inst : Instruction) : Rescans again (resultType? inst) := by
  simp only [Emit.resultType?]
  split
  · exact get (fun c d rescan => by simp only [rescan.program.getType_eq]) inferInstance
  · infer_instance

instance scanExtended (inst : Instruction) : Rescans again (scanExtended inst) := by
  refine get (fun c d rescan => ?_) fun c => ?_
  · have types : d.program.getType = c.program.getType := funext rescan.program.getType_eq
    have sets : d.program.importedSetAt? = c.program.importedSetAt? := by
      funext id
      rw [Program.importedSetAt?, Program.importedSetAt?, rescan.program.record?_eq]
    dsimp only
    rw [types, sets]
  · split
    · refine @ite _ _ _ _ _ _ ?_ inferInstance
      split <;> infer_instance
    · infer_instance

instance scanInstruction (inst : Instruction) : Rescans again (scanInstruction inst) := by
  refine get (fun c d rescan => ?_) fun c => ?_
  · simp only [rescan.program.expressionType_eq, rescan.swizzleTextures]
  · split
    all_goals repeat' first
        | infer_instance
        | refine andThen inferInstance (fun _ => ?_) fun _ => ?_
        | refine Keeps.andThen inferInstance fun _ => ?_
        | split

end Rescans

def scanFunctions : Emit Unit := do
  let order := (← get).plan.callGraph.order
  if 1 < order.length then requirePragma prototypesPragma
  for function in order do
    for inst in (← (← get).program.getFunction function).instructions do
      scanInstruction inst

/-- The state behind the scan. A vertex function that writes to buffers is not rasterized. -/
def noted (c : Compiler) : Compiler :=
  if c.pass.writesResources && c.plan.model = .vertex then
    { c with plan := { c.plan with rasterizationDisabled := true } }
  else c

theorem scan_ok {c c' : Compiler} {u : Unit} :
    scan c = .ok u c' ↔ ∃ middle, scanFunctions c = .ok () middle ∧ noted middle = c' := by
  have split : scan = (do
      scanFunctions
      let c ← get
      if c.pass.writesResources && c.plan.model = .vertex then
        modifyPlan ({ · with rasterizationDisabled := true })) := by
    unfold scan scanFunctions
    simp only [bind_assoc]
    refine bind_congr fun c => ?_
    by_cases several : 1 < c.plan.callGraph.order.length <;> simp [several]
  rw [split]
  simp only [bind_ok, get_ok]
  constructor
  · rintro ⟨_, middle, scanning, _, _, ⟨rfl, rfl⟩, done⟩
    refine ⟨middle, scanning, ?_⟩
    unfold noted
    split at done
    · rename_i disables
      rw [if_pos disables, modify_ok.mp done]
    · rename_i leaves
      rw [if_neg leaves, (pure_ok.mp done).2]
  · rintro ⟨middle, scanning, rfl⟩
    refine ⟨(), middle, scanning, middle, middle, ⟨rfl, rfl⟩, ?_⟩
    unfold noted
    split <;> rfl

instance Rescans.scanFunctions : Rescans again scanFunctions := by
  have function (id : Id) (next : Unit → Emit (ForInStep Unit)) [∀ u, Rescans again (next u)]
      [∀ u, Keeps Scans (next u)] : Rescans again (do
        let found ← (← MonadState.get).program.getFunction id
        let u ← ForIn.forIn found.instructions PUnit.unit fun inst _ => do
          Emit.scanInstruction inst
          return ForInStep.yield PUnit.unit
        next u) :=
    get (fun c d rescan => by simp only [rescan.program.getFunction_eq]) inferInstance
  refine get (fun c d rescan => by simp only [rescan.order]) inferInstance

theorem scan_again {c c' d : Compiler} {u : Unit} (done : scan c = .ok u c')
    (unwritten : c.pass.headerWritten = false) (program : c.program.Alike d.program)
    (swizzleTextures : d.options.swizzleTextures = c.options.swizzleTextures)
    (plan : d.plan = c'.plan) (session : d.session = c'.session) (ordered : d.session.Ordered)
    (pass : d.pass = c.pass) : scan d = .ok u { d with pass := c'.pass } := by
  have order : d.plan.callGraph.order = c.plan.callGraph.order := by
    rw [plan, settled_callGraph (Keeps.keeps done : Scans ..).plan]
  have begun : Rescan d c d :=
    ⟨by rw [← pass], program, swizzleTextures, order, ordered, unwritten⟩
  obtain ⟨middle, scanning, rfl⟩ := scan_ok.mp done
  have found : middle.session = d.session := by
    rw [session]
    unfold noted
    split <;> rfl
  obtain ⟨d', scanning', rescan⟩ := Rescans.repeats begun scanning (found ▸ .refl _)
  obtain rfl := rescan.later
  have sameNotes : (noted middle).pass = middle.pass := by
    unfold noted
    split <;> rfl
  rw [sameNotes]
  refine scan_ok.mpr ⟨_, scanning', ?_⟩
  -- the plan says already what the scan has to say about it
  have model : d.plan.model = middle.plan.model := by
    rw [plan]
    unfold noted
    split <;> rfl
  unfold noted at plan ⊢
  rw [model]
  split
  · rename_i disables
    rw [if_pos disables] at plan
    rw [plan]
  · rfl

end Emit

end SpirvMetal
