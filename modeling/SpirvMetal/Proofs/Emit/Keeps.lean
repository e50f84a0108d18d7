import SpirvMetal.Metal.Instruction.Value
import SpirvMetal.Proofs.Emit.Frame

/-!
Steps that keep a relation between the state before and after them.
-/

namespace SpirvMetal.Emit

variable {α β : Type}
variable {step : Emit α} {next : α → Emit β} {c c' : Compiler} {b : β} {a : α}
  {result : Except Fault α} {change : Compiler → Compiler} {u : Unit} {inst : Instruction}
  {count index : Nat} {id : Id}

theorem bind_ok :
    (step >>= next) c = .ok b c' ↔
      ∃ a middle, step c = .ok a middle ∧ next a middle = .ok b c' := by
  simp only [bind, EStateM.bind]
  cases step c with
  | ok a middle => simp [and_assoc]
  | error fault middle => simp

theorem pure_ok {b : α} : (pure a : Emit α) c = .ok b c' ↔ a = b ∧ c = c' := by
  simp [pure, EStateM.pure]

theorem get_ok {found : Compiler} :
    (get : Emit Compiler) c = .ok found c' ↔ c = found ∧ c = c' := by
  simp [get, getThe, MonadStateOf.get, run_get]

theorem lift_ok : (liftM result : Emit α) c = .ok a c' ↔ result = .ok a ∧ c = c' := by
  cases result <;> simp [liftM, monadLift, MonadLift.monadLift]

theorem fail_ok {fault : Fault} : ¬ (fail fault : Emit α) c = .ok a c' := by
  simp [fail, throw, throwThe, MonadExceptOf.throw, run_throw]

theorem modify_ok : (modify change : Emit Unit) c = .ok u c' ↔ change c = c' := by
  simp [modify, modifyGet, MonadStateOf.modifyGet, run_modifyGet]

theorem get_bind {next : Compiler → Emit α} :
    (get >>= next) c = .ok a c' ↔ next c c = .ok a c' := Iff.rfl

theorem modify_bind {next : Unit → Emit α} :
    (modify change >>= next) c = .ok a c' ↔ next () (change c) = .ok a c' := Iff.rfl

theorem lift_bind :
    (liftM result >>= next) c = .ok b c' ↔ ∃ a, result = .ok a ∧ next a c = .ok b c' := by
  simp only [bind_ok, lift_ok, exists_and_left, and_assoc, exists_eq_left']

theorem read_bind {view : Compiler → Except Fault α} {next : Compiler → α → Emit β} :
    (get >>= fun found => liftM (view found) >>= next found) c = .ok b c' ↔
      ∃ a, view c = .ok a ∧ next c a c = .ok b c' := lift_bind

theorem modifyPass_ok {change : Pass → Pass} :
    modifyPass change c = .ok u c' ↔ { c with pass := change c.pass } = c' := modify_ok

theorem modifyProgram_ok {change : Program → Program} :
    modifyProgram change c = .ok u c' ↔ { c with program := change c.program } = c' := modify_ok

theorem set_ok {next : Compiler} : (set next : Emit Unit) c = .ok u c' ↔ next = c' := by
  simp [set, MonadStateOf.set, run_set]

theorem updateProgram_ok {update : Program → Except Fault Program} :
    updateProgram update c = .ok u c' ↔
      ∃ program, update c.program = .ok program ∧ { c with program } = c' := by
  simp only [updateProgram, bind_ok, get_ok, lift_ok, modifyProgram_ok]
  constructor
  · rintro ⟨_, _, ⟨rfl, rfl⟩, program, _, ⟨updated, rfl⟩, same⟩
    exact ⟨program, updated, same⟩
  · rintro ⟨program, updated, same⟩
    exact ⟨c, c, ⟨rfl, rfl⟩, program, c, ⟨updated, rfl⟩, same⟩

theorem need_ok : need inst count c = .ok u c' ↔ count ≤ inst.words.length ∧ c = c' := by
  unfold need
  split
  · rename_i short
    simp [fail_ok, Nat.not_le_of_lt short]
  · rename_i long
    simp [pure_ok, Nat.le_of_not_lt long]

theorem word_ok {word : Nat} :
    Emit.word inst index c = .ok word c' ↔ inst.word? index = some word ∧ c = c' := by
  unfold Emit.word
  cases inst.word? index <;> simp [pure_ok, fail_ok]

theorem text_ok {found : String} : text id c = .ok found c' ↔ c.textOf id = .ok found ∧ c = c' := by
  simp [text, bind_ok, get_ok, lift_ok, and_assoc, and_comm]

theorem getType_ok {type : ValueType} :
    getType id c = .ok type c' ↔ c.program.getType id = .ok type ∧ c = c' := by
  simp [getType, bind_ok, get_ok, lift_ok, and_assoc, and_comm]

theorem reads_bind {found : α → Prop}
    (reads : ∀ a middle, step c = .ok a middle ↔ found a ∧ c = middle) :
    (step >>= next) c = .ok b c' ↔ ∃ a, found a ∧ next a c = .ok b c' := by
  simp only [bind_ok, reads, exists_and_left, and_assoc, exists_eq_left']

theorem need_bind {next : Unit → Emit β} : (need inst count >>= next) c = .ok b c' ↔
      ∃ u, count ≤ inst.words.length ∧ next u c = .ok b c' := reads_bind fun _ _ => need_ok

theorem word_bind {next : Nat → Emit β} : (word inst index >>= next) c = .ok b c' ↔
      ∃ word, inst.word? index = some word ∧ next word c = .ok b c' := reads_bind fun _ _ => word_ok

theorem word_known {next : Nat → Emit β} {word : Nat} (known : inst.word? index = some word) :
    (Emit.word inst index >>= next) c = .ok b c' ↔ next word c = .ok b c' := by
  simp [word_bind, known]

theorem lift_known (known : result = .ok a) :
    (liftM result >>= next) c = .ok b c' ↔ next a c = .ok b c' := by
  simp [lift_bind, known]

theorem fail_bind {fault : Fault} : ¬ (fail fault >>= next) c = .ok b c' := by
  simp [bind_ok, fail_ok]

theorem text_bind {next : String → Emit β} :
    (text id >>= next) c = .ok b c' ↔
      ∃ found, c.textOf id = .ok found ∧ next found c = .ok b c' := reads_bind fun _ _ => text_ok

theorem getType_bind {next : ValueType → Emit β} :
    (getType id >>= next) c = .ok b c' ↔
      ∃ type, c.program.getType id = .ok type ∧ next type c = .ok b c' :=
  reads_bind fun _ _ => getType_ok

theorem forIn_eq_forM (list : List α) (step : α → Emit Unit) :
    (forIn list PUnit.unit fun x _ => do
      step x
      pure (ForInStep.yield PUnit.unit)) = list.forM step := by
  induction list with
  | nil => rfl
  | cons first rest ih =>
    rw [List.forIn_cons, bind_assoc]
    refine bind_congr fun _ => ?_
    rw [pure_bind]
    exact ih

/-- Every successful run of the step relates the states before and after it. -/
class Keeps (relation : Compiler → Compiler → Prop) (step : Emit α) : Prop where
  keeps {c c' : Compiler} {a : α} : step c = .ok a c' → relation c c'

namespace Keeps

variable {relation : Compiler → Compiler → Prop} [Std.Refl relation] [IsTrans Compiler relation]

instance pure (a : α) : Keeps relation (pure a : Emit α) where
  keeps done := (pure_ok.mp done).2 ▸ Std.Refl.refl _

instance get : Keeps relation (get : Emit Compiler) where
  keeps done := (get_ok.mp done).2 ▸ Std.Refl.refl _

instance lift (result : Except Fault α) : Keeps relation (liftM result : Emit α) where
  keeps done := (lift_ok.mp done).2 ▸ Std.Refl.refl _

omit [Std.Refl relation] [IsTrans Compiler relation] in
instance fail (fault : Fault) : Keeps relation (fail fault : Emit α) where
  keeps done := (fail_ok done).elim

omit [Std.Refl relation] in
instance bind (step : Emit α) (next : α → Emit β) [Keeps relation step]
    [∀ a, Keeps relation (next a)] : Keeps relation (step >>= next) where
  keeps done := by
    obtain ⟨a, middle, first, second⟩ := bind_ok.mp done
    exact IsTrans.trans _ _ _ (keeps first) (keeps second)

omit [Std.Refl relation] in
theorem andThen (first : Keeps relation step)
    (rest : ∀ a, Keeps relation (next a)) : Keeps relation (step >>= next) := bind step next

omit [Std.Refl relation] in
theorem onward [Keeps relation step]
    (rest : ∀ a, Keeps relation (next a)) : Keeps relation (step >>= next) := bind step next

omit [Std.Refl relation] [IsTrans Compiler relation] in
instance ite (condition : Prop) [Decidable condition] (accepted rejected : Emit α)
    [Keeps relation accepted] [Keeps relation rejected] :
    Keeps relation (if condition then accepted else rejected) := by
  split <;> assumption

instance forM (list : List α) (step : α → Emit Unit) [∀ a, Keeps relation (step a)] :
    Keeps relation (list.forM step) := by
  induction list with
  | nil => exact pure ()
  | cons a rest ih => exact bind (step a) fun _ => rest.forM step

instance foldlM (list : List α) (step : β → α → Emit β) [∀ b a, Keeps relation (step b a)]
    (start : β) : Keeps relation (list.foldlM step start) := by
  induction list generalizing start with
  | nil => exact pure start
  | cons a rest ih => exact bind (step start a) fun next => rest.foldlM step next

instance forIn (list : List α) (step : α → β → Emit (ForInStep β))
    [∀ a b, Keeps relation (step a b)] (start : β) : Keeps relation (forIn list start step) := by
  induction list generalizing start with
  | nil => exact pure start
  | cons a rest ih =>
    rw [List.forIn_cons]
    refine onward fun next => ?_
    split <;> infer_instance

instance optionForM (found : Option α) (step : α → Emit Unit) [∀ a, Keeps relation (step a)] :
    Keeps relation (found.forM step) := by
  cases found with
  | none => exact pure ()
  | some a => exact inferInstanceAs (Keeps relation (step a))

end Keeps

/-- A step that writes text and nothing else that a later step depends on. -/
abbrev Quiet (step : Emit α) : Prop := Keeps Compiler.Writes step

/-- A step that may be part of a pass. -/
abbrev Advancing (step : Emit α) : Prop := Keeps Compiler.Advances step

instance Quiet.advancing (step : Emit α) [Quiet step] : Advancing step where
  keeps done := Compiler.Writes.advances (Keeps.keeps done)

namespace Quiet

theorem modifyPass {change : Pass → Pass}
    (lines : ∀ pass, pass.lines.toList <+: (change pass).lines.toList)
    (origins : ∀ pass, (change pass).origins = pass.origins)
    (stale : ∀ pass, (change pass).stale = pass.stale)
    (headerWritten : ∀ pass, (change pass).headerWritten = pass.headerWritten) :
    Quiet (modifyPass change) where
  keeps done := by
    obtain rfl := modifyPass_ok.mp done
    exact Compiler.writes_of_pass _ _ (origins _) (stale _) (headerWritten _) (lines _)

end Quiet

end SpirvMetal.Emit
