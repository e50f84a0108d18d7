import SpirvMetal.Proofs.Emit.Keeps

/-!
Relations that hold between a state and the one that a step leaves behind, whether the step succeeds
or fails.
-/

namespace SpirvMetal

structure Slotting where
  slots : Assoc (Id × SlotKind) Nat
  nextBuffer : Nat
  nextTexture : Nat
  nextSampler : Nat

def Pass.slotting (pass : Pass) : Slotting :=
  ⟨pass.slots, pass.nextBuffer, pass.nextTexture, pass.nextSampler⟩

/-- New lines and texts of values; nothing else that is looked up later. -/
structure Pass.AddsText (before after : Pass) : Prop where
  lines : before.lines.toList <+: after.lines.toList
  origins : after.origins = before.origins
  stale : after.stale = before.stale
  headerWritten : after.headerWritten = before.headerWritten
  slotting : after.slotting = before.slotting
  previousOp : after.previousOp = before.previousOp

/-- The depth is the same afterwards, and no line in between is above it. -/
structure Pass.AddsScopes (before after : Pass) : Prop extends before.AddsText after where
  depth : after.depth = before.depth
  deeper : ∃ added, after.lines.toList = before.lines.toList ++ added ∧
    ∀ line ∈ added, before.depth ≤ line.depth

theorem Pass.AddsScopes.same {before after : Pass} (lines : after.lines = before.lines)
    (depth : after.depth = before.depth) (origins : after.origins = before.origins)
    (stale : after.stale = before.stale) (headerWritten : after.headerWritten = before.headerWritten)
    (slotting : after.slotting = before.slotting) (previousOp : after.previousOp = before.previousOp) :
    before.AddsScopes after :=
  ⟨⟨lines ▸ List.prefix_refl _, origins, stale, headerWritten, slotting, previousOp⟩, depth, [],
    by simp [lines], by simp⟩

class AllowsLines (relation : Compiler → Compiler → Prop) : Prop extends
    Std.Refl relation, IsTrans Compiler relation where
  lines {c : Compiler} {pass : Pass} : c.pass.AddsScopes pass → relation c { c with pass }

/-- A relation that allows all lines and texts, also those that open a scope or close one. -/
class AllowsText (relation : Compiler → Compiler → Prop) : Prop extends
    Std.Refl relation, IsTrans Compiler relation where
  text {c : Compiler} {pass : Pass} : c.pass.AddsText pass → relation c { c with pass }

instance AllowsText.allowsLines {relation : Compiler → Compiler → Prop} [AllowsText relation] :
    AllowsLines relation where
  lines adds := AllowsText.text adds.toAddsText

/-- New slots for resources; nothing else that is looked up later. -/
structure Pass.AddsSlots (before after : Pass) : Prop where
  lines : after.lines = before.lines
  depth : after.depth = before.depth
  origins : after.origins = before.origins
  stale : after.stale = before.stale
  headerWritten : after.headerWritten = before.headerWritten
  previousOp : after.previousOp = before.previousOp

/-- A relation that allows resources to get their slots. Where there is a table of bindings, entries
of it are marked as used. -/
class AllowsSlots (relation : Compiler → Compiler → Prop) : Prop extends
    AllowsLines relation where
  slots {c : Compiler} {pass : Pass} : c.pass.AddsSlots pass → relation c { c with pass }
  marks {c : Compiler} {entry : ResourceBinding} {resourceBindings : List ResourceBinding} :
    entry ∈ c.options.resourceBindings →
    relation c { c with options := { c.options with resourceBindings } }

/-- The helpers for row-major matrices; no others are discovered while code is written. -/
def Helper.Converts (helper : Helper) : Prop :=
  ∃ columns rows, Helper.rowMajor? columns rows = some helper

theorem Helper.closure_rowMajor {columns rows : Nat} {helper : Helper}
    (found : Helper.rowMajor? columns rows = some helper) : helper.closure = [helper] := by
  unfold Helper.rowMajor? at found
  split at found <;> cases found <;> rfl

/-- A relation that allows whatever instructions do: they note where results come from, discover what
belongs ahead of the code, and drop restrictions of access. -/
class AllowsInstructions (relation : Compiler → Compiler → Prop) : Prop extends
    AllowsLines relation where
  notes {c : Compiler} {pass : Pass} : pass.lines = c.pass.lines → pass.depth = c.pass.depth →
    pass.slotting = c.pass.slotting → relation c { c with pass }
  discovers {c : Compiler} {session : Session} {stale : Bool} : c.session.Within session →
    (∀ helper ∈ session.helpers, helper ∈ c.session.helpers ∨ helper.Converts) →
    relation c { c with session, pass := { c.pass with stale } }
  opens {c : Compiler} {id : Id} {restriction : Spirv.Decoration} :
    restriction.restrictsAccess = true →
    relation c { c with
      program := c.program.unsetDecoration id restriction
      pass := { c.pass with stale := true } }

namespace Compiler

instance : AllowsText Writes where
  text adds := writes_of_pass _ _ adds.origins adds.stale adds.headerWritten adds.lines

instance : AllowsSlots Writes where
  slots adds := writes_of_pass _ _ adds.origins adds.stale adds.headerWritten
    (adds.lines ▸ List.prefix_refl _)
  marks _ := ⟨.refl _, fun _ _ => rfl, rfl, rfl, rfl, rfl, rfl, rfl, List.prefix_refl _⟩

instance : AllowsText Advances where
  text adds :=
    (writes_of_pass _ _ adds.origins adds.stale adds.headerWritten adds.lines).advances

instance : AllowsInstructions Advances where
  notes lines _ _ := { Advances.refl _ with lines := lines ▸ List.prefix_refl _ }
  discovers within _ := { Advances.refl _ with session := within }
  opens {c _ _} restricts :=
    { Advances.refl c with
      program := Program.alike_unsetDecoration _ _ restricts
      restricted := fun _ _ has => by
        rw [Program.hasDecoration_unsetDecoration, Bool.and_eq_true] at has
        exact has.1 }

end Compiler

namespace Emit

variable {α β : Type} {relation : Compiler → Compiler → Prop}

def leaves (step : Emit α) (c : Compiler) : Compiler :=
  match step c with
  | .ok _ c' => c'
  | .error _ c' => c'

variable {step : Emit α} {next : α → Emit β} {c c' middle : Compiler} {a : α} {fault : Fault}

theorem leaves_ok (done : step c = .ok a c') : leaves step c = c' := by
  rw [leaves, done]

theorem leaves_error (failed : step c = .error fault c') : leaves step c = c' := by
  rw [leaves, failed]

theorem leaves_bind_ok (done : step c = .ok a middle) :
    leaves (step >>= next) c = leaves (next a) middle := by
  simp only [leaves, bind, EStateM.bind, done]

theorem leaves_bind_error (failed : step c = .error fault middle) :
    leaves (step >>= next) c = middle := by
  simp only [leaves, bind, EStateM.bind, failed]

theorem leaves_lift (result : Except Fault α) (next : α → Emit β) (c : Compiler) :
    leaves (liftM result >>= next) c = match result with
      | .ok a => leaves (next a) c
      | .error _ => c := by
  cases result <;> rfl

/-- Every run of the step relates the state before it and the one that it leaves behind. -/
class Always (relation : Compiler → Compiler → Prop) (step : Emit α) : Prop where
  always (c : Compiler) : relation c (leaves step c)

instance (priority := low) Keeps.of_always (step : Emit α) [Always relation step] :
    Keeps relation step where
  keeps {c _ _} done := leaves_ok done ▸ Always.always c

namespace Always

theorem keeps (always : Always relation step) (done : step c = .ok a c') : relation c c' :=
  Keeps.keeps done

section

variable [IsTrans Compiler relation]

theorem thenFrom (first : relation c (leaves step c))
    (rest : ∀ a c', step c = .ok a c' → relation c' (leaves (next a) c')) :
    relation c (leaves (step >>= next) c) := by
  cases run : step c with
  | error fault middle =>
    rw [leaves_bind_error run]
    rwa [leaves_error run] at first
  | ok a middle =>
    rw [leaves_bind_ok run]
    rw [leaves_ok run] at first
    exact IsTrans.trans _ _ _ first (rest a middle run)

instance bind (step : Emit α) (next : α → Emit β) [Always relation step]
    [∀ a, Always relation (next a)] : Always relation (step >>= next) where
  always c := thenFrom (always c) fun _ middle _ => always middle

theorem andThen (first : Always relation step)
    (rest : ∀ a, Always relation (next a)) : Always relation (step >>= next) := bind step next

theorem onward [Always relation step]
    (rest : ∀ a, Always relation (next a)) : Always relation (step >>= next) := bind step next

instance ite (condition : Prop) [Decidable condition] (accepted rejected : Emit α)
    [Always relation accepted] [Always relation rejected] :
    Always relation (if condition then accepted else rejected) := by
  split <;> assumption

variable [Std.Refl relation]

instance pure (a : α) : Always relation (pure a : Emit α) where
  always c := Std.Refl.refl c

instance get : Always relation (get : Emit Compiler) where
  always c := Std.Refl.refl c

instance lift (result : Except Fault α) : Always relation (liftM result : Emit α) where
  always c := by
    cases result <;> exact Std.Refl.refl c

instance fail (fault : Fault) : Always relation (fail fault : Emit α) where
  always c := Std.Refl.refl c

instance forM (list : List α) (step : α → Emit Unit) [∀ a, Always relation (step a)] :
    Always relation (list.forM step) := by
  induction list with
  | nil => exact pure ()
  | cons a rest ih => exact bind (step a) fun _ => rest.forM step

instance mapM (list : List α) (step : α → Emit β) [∀ a, Always relation (step a)] :
    Always relation (list.mapM step) := by
  induction list with
  | nil => exact pure []
  | cons a rest ih =>
    rw [List.mapM_cons]
    infer_instance

theorem filterAuxM (list : List α) (step : α → Emit Bool) [∀ a, Always relation (step a)]
    (kept : List α) : Always relation (list.filterAuxM step kept) := by
  induction list generalizing kept with
  | nil => exact pure kept
  | cons a rest ih =>
    exact bind (step a) fun accepted => rest.filterAuxM step (cond accepted (a :: kept) kept)

instance filterM (list : List α) (step : α → Emit Bool) [∀ a, Always relation (step a)] :
    Always relation (list.filterM step) := by
  have collected (kept : List α) : Always relation (list.filterAuxM step kept) :=
    filterAuxM list step kept
  simp only [List.filterM]
  infer_instance

instance foldlM (list : List α) (step : β → α → Emit β) [∀ b a, Always relation (step b a)]
    (start : β) : Always relation (list.foldlM step start) := by
  induction list generalizing start with
  | nil => exact pure start
  | cons a rest ih => exact bind (step start a) fun next => rest.foldlM step next

instance forIn (list : List α) (step : α → β → Emit (ForInStep β))
    [∀ a b, Always relation (step a b)] (start : β) :
    Always relation (forIn list start step) := by
  induction list generalizing start with
  | nil => exact pure start
  | cons a rest ih =>
    rw [List.forIn_cons]
    refine onward fun next => ?_
    split <;> infer_instance

instance optionForM (found : Option α) (step : α → Emit Unit) [∀ a, Always relation (step a)] :
    Always relation (found.forM step) := by
  cases found with
  | none => exact pure ()
  | some a => exact inferInstanceAs (Always relation (step a))

instance need (inst : Instruction) (count : Nat) : Always relation (need inst count) := by
  unfold Emit.need
  infer_instance

instance word (inst : Instruction) (index : Nat) : Always relation (word inst index) := by
  unfold Emit.word
  split <;> infer_instance

instance text (id : Id) : Always relation (text id) := by
  simp only [Emit.text]
  infer_instance

instance textAs (id : Id) (signed : Bool) : Always relation (textAs id signed) := by
  simp only [Emit.textAs]
  infer_instance

instance getType (id : Id) : Always relation (getType id) := by
  simp only [Emit.getType]
  infer_instance

instance typeName (id : Id) : Always relation (typeName id) := by
  simp only [Emit.typeName]
  infer_instance

end

theorem modify {change : Compiler → Compiler} (related : ∀ c, relation c (change c)) :
    Always relation (modify change : Emit Unit) := ⟨related⟩

theorem look {next : Compiler → Emit β} (related : ∀ c, relation c (leaves (next c) c)) :
    Always relation (MonadState.get >>= next) := ⟨related⟩

section

variable [AllowsLines relation]

theorem addText {change : Pass → Pass} (adds : ∀ pass, Pass.AddsScopes pass (change pass)) :
    Always relation (modifyPass change) := modify fun c => AllowsLines.lines (adds c.pass)

instance statement (text : String) : Always relation (statement text) :=
  addText fun pass =>
    ⟨⟨by simp, rfl, rfl, rfl, rfl, rfl⟩, rfl, [⟨pass.depth, text⟩], by simp, by simp⟩

instance statementInScope (text close : String) :
    Always relation (do
      beginScope
      Emit.statement text
      endScopeWith close) where
  always c := by
    let depth := c.pass.depth
    refine AllowsLines.lines (c := c) ⟨⟨?_, rfl, rfl, rfl, rfl, rfl⟩, rfl,
      [⟨depth, "\x7b"⟩, ⟨depth + 1, text⟩, ⟨depth, close⟩], ?_, ?_⟩ <;> simp [depth]

instance setText (result : Id) (text : String) : Always relation (setText result text) :=
  addText fun _ => .same rfl rfl rfl rfl rfl rfl rfl

instance define (type result : Id) (value : String) :
    Always relation (define type result value) := by
  simp only [Emit.define]
  infer_instance

instance declare (type result : Id) : Always relation (declare type result) := by
  simp only [Emit.declare]
  infer_instance

end

section

variable [AllowsText relation]

instance setDepth (depth : Nat → Nat) :
    Always relation (modifyPass fun pass => { pass with depth := depth pass.depth }) :=
  modify fun _ => AllowsText.text ⟨List.prefix_refl _, rfl, rfl, rfl, rfl, rfl⟩

instance beginScope : Always relation beginScope := by
  simp only [Emit.beginScope]
  infer_instance

instance endScopeWith (text : String) : Always relation (endScopeWith text) := by
  simp only [Emit.endScopeWith]
  infer_instance

instance endScope : Always relation endScope := endScopeWith _

instance endDeclaration : Always relation endDeclaration := endScopeWith _

end

end Always

end Emit

end SpirvMetal
