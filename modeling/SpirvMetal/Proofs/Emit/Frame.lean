import Mathlib.Data.List.Forall2
import Mathlib.Order.Defs.Unbundled
import SpirvMetal.Metal.Compiler
import SpirvMetal.Proofs.Program.Decorations

/-!
What the steps of a pass leave alone. No step stores a record or decorates a member; own decorations
change only in names and in restrictions of access to images.
-/

namespace SpirvMetal

open Spirv (Decoration)

/-- Restrictions of access to an image, which are dropped where code accesses it. -/
def Spirv.Decoration.restrictsAccess (decoration : Decoration) : Bool :=
  decoration = .nonReadable || decoration = .nonWritable

theorem Except.bind_ok {ε α β : Type} {result : Except ε α} {next : α → Except ε β} {b : β} :
    (result >>= next) = .ok b ↔ ∃ a, result = .ok a ∧ next a = .ok b := by
  cases result <;> simp [bind, Except.bind]

/-- Whether a result is given that passes a check. -/
def Except.passes {ε α : Type} (result : Except ε α) (check : α → Bool) : Bool :=
  match result with
  | .ok a => check a
  | .error _ => false

theorem Except.of_passes {ε α : Type} {result : Except ε α} {check : α → Bool}
    (passes : Except.passes result check = true) : ∃ a, result = .ok a ∧ check a = true := by
  cases result with
  | ok a => exact ⟨a, rfl, passes⟩
  | error fault => cases passes

section

variable {ε σ α : Type} (s : σ)

theorem run_get : (EStateM.get : EStateM ε σ σ) s = .ok s s := rfl

theorem run_set (next : σ) : (EStateM.set next : EStateM ε σ PUnit) s = .ok ⟨⟩ next := rfl

theorem run_modifyGet (change : σ → α × σ) :
    (EStateM.modifyGet change : EStateM ε σ α) s = .ok (change s).1 (change s).2 := rfl

theorem run_throw (fault : ε) : (EStateM.throw fault : EStateM ε σ α) s = .error fault s := rfl

/-- Whether a run succeeds, or fails, and what it gives passes a check. -/
def runPasses (run : EStateM.Result ε σ α) (check : α → σ → Bool) : Bool :=
  match run with
  | .ok a next => check a next
  | .error .. => false

def runFails (run : EStateM.Result ε σ α) (check : ε → σ → Bool) : Bool :=
  match run with
  | .ok .. => false
  | .error fault next => check fault next

variable {run : EStateM.Result ε σ α}

theorem of_runPasses {check : α → σ → Bool} (passes : runPasses run check = true) :
    ∃ a next, run = .ok a next ∧ check a next = true := by
  cases run with
  | ok a next => exact ⟨a, next, rfl, passes⟩
  | error => cases passes

theorem of_runFails {check : ε → σ → Bool} (fails : runFails run check = true) :
    ∃ fault next, run = .error fault next ∧ check fault next = true := by
  cases run with
  | ok => cases fails
  | error fault next => exact ⟨fault, next, rfl, fails⟩

end

theorem Except.mapM_ok {ε α β : Type} {step : α → Except ε β} {items : List α} {results : List β} :
    items.mapM step = .ok results ↔
      List.Forall₂ (fun item result => step item = .ok result) items results := by
  induction items generalizing results with
  | nil => simp [pure, Except.pure, eq_comm]
  | cons first rest ih =>
    simp only [List.mapM_cons, Except.bind_ok, ih, pure, Except.pure, Except.ok.injEq,
      List.forall₂_cons_left_iff]
    grind

namespace Program

def memberNotes (program : Program) (id : Id) : List Decorations :=
  ((program.notes? id).getD {}).members

theorem memberDecorations_eq (program : Program) (id member : Nat) :
    program.memberDecorations id member = ((program.memberNotes id)[member]?).getD {} := by
  unfold memberDecorations memberDecorations? memberNotes Notes.member?
  cases program.notes? id <;> rfl

/-- Programs that differ at most in names and in restrictions of access. -/
structure Alike (before after : Program) : Prop where
  records : after.records = before.records
  resultTypes : after.resultTypes = before.resultTypes
  entryPoints : after.entryPoints = before.entryPoints
  defaultEntry : after.defaultEntry = before.defaultEntry
  arrayLengths : after.arrayLengths = before.arrayLengths
  decorated : ∀ id decoration, decoration.restrictsAccess = false →
    after.hasDecoration id decoration = before.hasDecoration id decoration
  valued : ∀ id decoration, decoration.restrictsAccess = false →
    after.getDecoration id decoration = before.getDecoration id decoration
  members : ∀ id, after.memberNotes id = before.memberNotes id

namespace Alike

variable {before middle after program : Program} {id other : Id} {decoration : Decoration}

theorem refl (program : Program) : program.Alike program :=
  ⟨rfl, rfl, rfl, rfl, rfl, fun _ _ _ => rfl, fun _ _ _ => rfl, fun _ => rfl⟩

theorem trans (first : before.Alike middle) (second : middle.Alike after) : before.Alike after where
  records := second.records.trans first.records
  resultTypes := second.resultTypes.trans first.resultTypes
  entryPoints := second.entryPoints.trans first.entryPoints
  defaultEntry := second.defaultEntry.trans first.defaultEntry
  arrayLengths := second.arrayLengths.trans first.arrayLengths
  decorated id decoration other :=
    (second.decorated id decoration other).trans (first.decorated id decoration other)
  valued id decoration other :=
    (second.valued id decoration other).trans (first.valued id decoration other)
  members id := (second.members id).trans (first.members id)

theorem symm (alike : before.Alike after) : after.Alike before where
  records := alike.records.symm
  resultTypes := alike.resultTypes.symm
  entryPoints := alike.entryPoints.symm
  defaultEntry := alike.defaultEntry.symm
  arrayLengths := alike.arrayLengths.symm
  decorated id decoration other := (alike.decorated id decoration other).symm
  valued id decoration other := (alike.valued id decoration other).symm
  members id := (alike.members id).symm

variable (alike : before.Alike after)

include alike

theorem record?_eq (id : Id) : after.record? id = before.record? id :=
  congrArg (·.get? id) alike.records

theorem variableAt?_eq (id : Id) : after.variableAt? id = before.variableAt? id := by
  rw [variableAt?, variableAt?, alike.record?_eq]

theorem constantAt?_eq (id : Id) : after.constantAt? id = before.constantAt? id := by
  rw [constantAt?, constantAt?, alike.record?_eq]

theorem typeAt?_eq (id : Id) : after.typeAt? id = before.typeAt? id := by
  rw [typeAt?, typeAt?, alike.record?_eq]

theorem expect_eq {α : Type} (lookup : Lookup)
    (select : Record → Option α) (id : Id) :
    after.expect lookup select id = before.expect lookup select id := by
  rw [expect, expect, alike.record?_eq]

theorem getType_eq (id : Id) : after.getType id = before.getType id :=
  alike.expect_eq ..

theorem getVariable_eq (id : Id) : after.getVariable id = before.getVariable id :=
  alike.expect_eq ..

theorem getFunction_eq (id : Id) : after.getFunction id = before.getFunction id :=
  alike.expect_eq ..

theorem constantWord_eq (id : Id) : after.constantWord id = before.constantWord id := by
  rw [constantWord, constantWord, getConstant, getConstant, alike.expect_eq]

theorem pointee_eq (id : Id) : after.pointee id = before.pointee id := by
  simp only [pointee, alike.getType_eq]

theorem dataType_eq (var : Id) : after.dataType var = before.dataType var := by
  simp only [dataType, alike.getVariable_eq, alike.pointee_eq]

theorem typeOf?_eq (id : Id) : after.typeOf? id = before.typeOf? id := by
  simp only [typeOf?, alike.record?_eq, alike.resultTypes]

theorem expressionType_eq (id : Id) : after.expressionType id = before.expressionType id := by
  simp only [expressionType, alike.typeOf?_eq, alike.getType_eq]

theorem memberDecorations_eq (id member : Nat) :
    after.memberDecorations id member = before.memberDecorations id member := by
  rw [Program.memberDecorations_eq, Program.memberDecorations_eq, alike.members]

theorem memberBuiltin?_eq (id member : Nat) :
    after.memberBuiltin? id member = before.memberBuiltin? id member := by
  rw [memberBuiltin?, memberBuiltin?, alike.memberDecorations_eq]

theorem isBuiltinBlock_eq (id : Id) : after.isBuiltinBlock id = before.isBuiltinBlock id := by
  have same := alike.members id
  simp only [memberNotes] at same
  rw [isBuiltinBlock, isBuiltinBlock, same]

end Alike

theorem notes?_modifyNotes (program : Program) (id other : Id) (change : Notes → Notes) :
    (program.modifyNotes id change).notes? other =
      if other = id then some (change ((program.notes? id).getD {})) else program.notes? other :=
  Assoc.find?_insert ..

theorem memberNotes_modifyOwn (program : Program) (id other : Id)
    (change : Decorations → Decorations) :
    (program.modifyOwn id change).memberNotes other = program.memberNotes other := by
  unfold memberNotes modifyOwn
  rw [notes?_modifyNotes]
  split
  · rename_i same
    rw [same]
    rfl
  · rfl

theorem decorations_modifyOwn (program : Program) (id other : Id)
    (change : Decorations → Decorations) :
    (program.modifyOwn id change).decorations other =
      if other = id then change (program.decorations id) else program.decorations other := by
  unfold decorations decorations? modifyOwn
  rw [notes?_modifyNotes]
  split
  · cases program.notes? id <;> rfl
  · rfl

theorem view_modifyOwn {β : Type} (view : Decorations → β) {change : Decorations → Decorations}
    (kept : ∀ d, view (change d) = view d) (program : Program) (id other : Id) :
    view ((program.modifyOwn id change).decorations other) = view (program.decorations other) := by
  rw [decorations_modifyOwn]
  split
  · rename_i same
    rw [same, kept]
  · rfl

section

variable (program : Program)

theorem hasDecoration_setName (id other : Id) (name : String) (decoration : Decoration) :
    (program.setName id name).hasDecoration other decoration =
      program.hasDecoration other decoration :=
  view_modifyOwn (·.has decoration) (fun _ => by rfl) program id other

theorem getDecoration_setName (id other : Id) (name : String) (decoration : Decoration) :
    (program.setName id name).getDecoration other decoration =
      program.getDecoration other decoration :=
  view_modifyOwn (·.get decoration) (fun _ => by rfl) program id other

theorem getDecoration_unsetDecoration (id other : Id)
    {decoration kept : Decoration} (differ : kept ≠ decoration) :
    (program.unsetDecoration id decoration).getDecoration other kept =
      program.getDecoration other kept := by
  refine view_modifyOwn (·.get kept) (fun d => ?_) program id other
  rw [Decorations.get_unset, if_neg differ]

theorem hasDecoration_unsetDecoration (id other : Id) (decoration kept : Decoration) :
    (program.unsetDecoration id decoration).hasDecoration other kept =
      (program.hasDecoration other kept && !(other = id && kept = decoration)) := by
  unfold hasDecoration unsetDecoration
  rw [decorations_modifyOwn]
  by_cases same : other = id
  · subst same
    by_cases dropped : kept = decoration <;>
      simp [Decorations.has_unset, dropped]
  · simp [same]

theorem alike_setName (id : Id) (name : String) : program.Alike (program.setName id name) where
  records := rfl
  resultTypes := rfl
  entryPoints := rfl
  defaultEntry := rfl
  arrayLengths := rfl
  decorated other decoration _ := program.hasDecoration_setName id other name decoration
  valued other decoration _ := program.getDecoration_setName id other name decoration
  members other := program.memberNotes_modifyOwn id other _

end

theorem ne_of_restrictsAccess {decoration kept : Decoration}
    (restricts : decoration.restrictsAccess = true)
    (free : kept.restrictsAccess = false) : kept ≠ decoration := by
  intro same
  rw [same, restricts] at free
  cases free

theorem alike_unsetDecoration (program : Program) (id : Id) {decoration : Decoration}
    (restricts : decoration.restrictsAccess = true) :
    program.Alike (program.unsetDecoration id decoration) where
  records := rfl
  resultTypes := rfl
  entryPoints := rfl
  defaultEntry := rfl
  arrayLengths := rfl
  decorated other kept free := by
    have differ : kept ≠ decoration := ne_of_restrictsAccess restricts free
    simp [hasDecoration_unsetDecoration, differ]
  valued other kept free :=
    program.getDecoration_unsetDecoration id other (ne_of_restrictsAccess restricts free)
  members other := program.memberNotes_modifyOwn id other _

end Program

structure Session.Within (part whole : Session) : Prop where
  pragmas : part.pragmas ⊆ whole.pragmas
  headers : part.headers ⊆ whole.headers
  typedefs : part.typedefs ⊆ whole.typedefs
  helpers : part.helpers ⊆ whole.helpers

namespace Session.Within

theorem refl (session : Session) : session.Within session :=
  ⟨List.Subset.refl _, List.Subset.refl _, List.Subset.refl _, List.Subset.refl _⟩

theorem trans {first second third : Session} (left : first.Within second)
    (right : second.Within third) : first.Within third :=
  ⟨List.Subset.trans left.pragmas right.pragmas, List.Subset.trans left.headers right.headers,
    List.Subset.trans left.typedefs right.typedefs, List.Subset.trans left.helpers right.helpers⟩

end Session.Within

namespace Session

/-- An addition registers everything in `extra` and tells whether any of it is new. -/
structure Adds (add : Session → Bool × Session) (extra : Session) : Prop where
  known : ∀ session : Session, (add session).1 = false ↔ extra.Within session
  grows : ∀ session : Session, session.Within (add session).2
  added : ∀ session : Session, extra.Within (add session).2

theorem addLine_known {line : String} {lines : List String} :
    (addLine line lines).1 = false ↔ [line] ⊆ lines := by
  simp [addLine]

section

variable (line : String)

theorem addLine_grows (lines : List String) : lines ⊆ (addLine line lines).2 :=
  fun _ member => mem_insertAscending.mpr (.inr member)

theorem addLine_added (lines : List String) : [line] ⊆ (addLine line lines).2 := by
  simp [addLine, mem_insertAscending]

theorem adds_pragma : Adds (·.addPragma line) { pragmas := [line] } where
  known _ := addLine_known.trans
    ⟨fun found => ⟨found, by simp, by simp, by simp⟩, fun within => within.pragmas⟩
  grows session := { Within.refl session with pragmas := addLine_grows .. }
  added _ := ⟨addLine_added .., by simp, by simp, by simp⟩

theorem adds_header : Adds (·.addHeader line) { headers := [line] } where
  known _ := addLine_known.trans
    ⟨fun found => ⟨by simp, found, by simp, by simp⟩, fun within => within.headers⟩
  grows session := { Within.refl session with headers := addLine_grows .. }
  added _ := ⟨by simp, addLine_added .., by simp, by simp⟩

theorem adds_typedef : Adds (·.addTypedef line) { typedefs := [line] } where
  known _ := addLine_known.trans
    ⟨fun found => ⟨by simp, by simp, found, by simp⟩, fun within => within.typedefs⟩
  grows session := { Within.refl session with typedefs := addLine_grows .. }
  added _ := ⟨by simp, by simp, addLine_added .., by simp⟩

end

theorem mem_foldl_insertAscending {α : Type} [DecidableEq α] {before : α → α → Bool} {x : α}
    {news list : List α} :
    x ∈ news.foldl (fun list y => insertAscending before y list) list ↔ x ∈ news ∨ x ∈ list := by
  induction news generalizing list with
  | nil => simp
  | cons y rest ih =>
    rw [List.foldl_cons, ih, mem_insertAscending, List.mem_cons]
    grind

theorem adds_helper (helper : Helper) : Adds (·.addHelper helper) { helpers := helper.closure } where
  known session := by
    have covered : (session.addHelper helper).1 = false ↔ helper.closure ⊆ session.helpers := by
      simp only [addHelper, List.any_eq_false, decide_eq_true_eq, Decidable.not_not]
      rfl
    rw [covered]
    exact ⟨fun within => ⟨by simp, by simp, by simp, within⟩, fun within => within.helpers⟩
  grows session :=
    { Within.refl session with
      helpers := fun _ member => mem_foldl_insertAscending.mpr (.inr member) }
  added session :=
    ⟨by simp, by simp, by simp, fun _ member => mem_foldl_insertAscending.mpr (.inl member)⟩

end Session

/-- The plan without the one entry that a pass may change. -/
def Plan.settled (plan : Plan) : Plan := { plan with rasterizationDisabled := false }

/-- What later instructions look up about the results of earlier ones, other than texts. -/
structure Origins where
  backing : IdMap Id
  sampledImages : IdMap (Id × Id)
  rowMajor : List Id
  packed : List Id

def Pass.origins (pass : Pass) : Origins :=
  ⟨pass.backing, pass.sampledImages, pass.rowMajor, pass.packed⟩

namespace Compiler

/-- What any part of a pass does: lines and discoveries are added, restrictions of access are
dropped. -/
structure Advances (before after : Compiler) : Prop where
  program : before.program.Alike after.program
  restricted : ∀ id decoration, after.program.hasDecoration id decoration = true →
    before.program.hasDecoration id decoration = true
  plan : after.plan.settled = before.plan.settled
  session : before.session.Within after.session
  passCount : after.passCount = before.passCount
  lines : before.pass.lines.toList <+: after.pass.lines.toList

/-- What a quiet step does: names and lines may be new, but nothing was discovered and nothing that
is looked up later has changed. -/
structure Writes (before after : Compiler) : Prop where
  program : before.program.Alike after.program
  restricted : ∀ id decoration,
    after.program.hasDecoration id decoration = before.program.hasDecoration id decoration
  plan : after.plan = before.plan
  session : after.session = before.session
  passCount : after.passCount = before.passCount
  origins : after.pass.origins = before.pass.origins
  stale : after.pass.stale = before.pass.stale
  headerWritten : after.pass.headerWritten = before.pass.headerWritten
  lines : before.pass.lines.toList <+: after.pass.lines.toList

variable {first second third before after : Compiler}

theorem Advances.refl (c : Compiler) : c.Advances c :=
  ⟨.refl _, fun _ _ has => has, rfl, .refl _, rfl, List.prefix_refl _⟩

theorem Advances.trans (left : first.Advances second) (right : second.Advances third) :
    first.Advances third where
  program := left.program.trans right.program
  restricted id decoration has := left.restricted id decoration (right.restricted id decoration has)
  plan := right.plan.trans left.plan
  session := left.session.trans right.session
  passCount := right.passCount.trans left.passCount
  lines := left.lines.trans right.lines

theorem Writes.refl (c : Compiler) : c.Writes c :=
  ⟨.refl _, fun _ _ => rfl, rfl, rfl, rfl, rfl, rfl, rfl, List.prefix_refl _⟩

theorem Writes.trans (left : first.Writes second) (right : second.Writes third) :
    first.Writes third where
  program := left.program.trans right.program
  restricted id decoration :=
    (right.restricted id decoration).trans (left.restricted id decoration)
  plan := right.plan.trans left.plan
  session := right.session.trans left.session
  passCount := right.passCount.trans left.passCount
  origins := right.origins.trans left.origins
  stale := right.stale.trans left.stale
  headerWritten := right.headerWritten.trans left.headerWritten
  lines := left.lines.trans right.lines

instance : Std.Refl Advances := ⟨.refl⟩

instance : IsTrans Compiler Advances := ⟨fun _ _ _ => .trans⟩

instance : Std.Refl Writes := ⟨.refl⟩

instance : IsTrans Compiler Writes := ⟨fun _ _ _ => .trans⟩

theorem Writes.advances (writes : before.Writes after) : before.Advances after :=
  { writes with
    restricted := fun id decoration has => (writes.restricted id decoration).symm.trans has
    plan := congrArg Plan.settled writes.plan
    session := writes.session ▸ .refl _ }

theorem writes_of_pass (c : Compiler) (pass : Pass) (origins : pass.origins = c.pass.origins)
    (stale : pass.stale = c.pass.stale) (headerWritten : pass.headerWritten = c.pass.headerWritten)
    (lines : c.pass.lines.toList <+: pass.lines.toList) : c.Writes { c with pass } :=
  ⟨.refl _, fun _ _ => rfl, rfl, rfl, rfl, origins, stale, headerWritten, lines⟩

end Compiler

end SpirvMetal
