import SpirvMetal.Proofs.Repeat.Reading
import SpirvMetal.Proofs.Repeat.Session

/-!
Steps that write the same text in states that mirror each other.
-/

namespace SpirvMetal

open Spirv (Decoration)

namespace Program

variable {before after : Program}

theorem nameless_unset (d : Decorations) (decoration : Decoration) :
    (d.unset decoration).nameless = d.nameless.unset decoration := rfl

theorem name_unsetDecoration (program : Program) (id other : Id) (decoration : Decoration) :
    (program.unsetDecoration id decoration).name other = program.name other :=
  view_modifyOwn Decorations.name (fun _ => by rfl) program id other

theorem Renamed.unsetDecoration (renamed : before.Renamed after) (id : Id)
    (decoration : Decoration) :
    (before.unsetDecoration id decoration).Renamed (after.unsetDecoration id decoration) := by
  refine { renamed with own := fun other => ?_, members := fun other => ?_ }
  · unfold Program.unsetDecoration
    rw [decorations_modifyOwn, decorations_modifyOwn]
    split
    · rw [nameless_unset, nameless_unset, renamed.own]
    · exact renamed.own other
  · unfold Program.unsetDecoration
    rw [memberNotes_modifyOwn, memberNotes_modifyOwn, renamed.members]

end Program

namespace Compiler

variable {c : Compiler}

/-- A state of the same pass that a part of it has led to from `base`, below the header. Unless the
pass is stale, nothing was discovered on the way. -/
structure Reaches (base c : Compiler) : Prop where
  program : base.program.Alike c.program
  plan : c.plan = base.plan
  options : c.options.unmarked = base.options.unmarked
  prepared : c.prepared = base.prepared
  headerWritten : c.pass.headerWritten = true
  ordered : c.session.Ordered
  settled : c.pass.stale = false →
    base.pass.stale = false ∧ c.session = base.session ∧ base.program.Renamed c.program

theorem Reaches.refl (headerWritten : c.pass.headerWritten = true) (ordered : c.session.Ordered) :
    c.Reaches c :=
  ⟨.refl _, rfl, rfl, rfl, headerWritten, ordered, fun fresh => ⟨fresh, rfl, .refl _⟩⟩

theorem Reaches.trans {first second third : Compiler} (left : first.Reaches second)
    (right : second.Reaches third) : first.Reaches third where
  program := left.program.trans right.program
  plan := right.plan.trans left.plan
  options := right.options.trans left.options
  prepared := right.prepared.trans left.prepared
  headerWritten := right.headerWritten
  ordered := right.ordered
  settled fresh := by
    obtain ⟨fresh, session, renamed⟩ := right.settled fresh
    obtain ⟨fresh, session', renamed'⟩ := left.settled fresh
    exact ⟨fresh, session.trans session', renamed'.trans renamed⟩

structure Follows (base c : Compiler) : Prop extends base.Reaches c where
  names : ∀ id, c.program.name id = base.program.name id

theorem Follows.refl (headerWritten : c.pass.headerWritten = true) (ordered : c.session.Ordered) :
    c.Follows c :=
  ⟨.refl headerWritten ordered, fun _ => rfl⟩

end Compiler

namespace Emit

open Compiler (Mirrors Paired)

variable {α β : Type} {base : Compiler} {moved : Id → Prop}

/-- Wherever the first step succeeds, the second one gives the same in a state that mirrors the
first one's. -/
structure Lockstep (base : Compiler) (moved : Id → Prop) (first second : Emit α) : Prop where
  step {c d c' : Compiler} {a : α} : base.Follows c → Mirrors moved c d → first c = .ok a c' →
    ∃ d', second d = .ok a d' ∧ base.Follows c' ∧ Mirrors moved c' d'

/-- A step that gives the same in states that mirror each other. -/
class Steady (base : Compiler) (moved : Id → Prop) (step : Emit α) : Prop where
  steady : Lockstep base moved step step

theorem lift_bind_same {result : Except Fault α} {first second : α → Emit β}
    (same : ∀ a, result = .ok a → first a = second a) :
    (liftM result >>= first : Emit β) = liftM result >>= second := by
  cases result with
  | error fault => rfl
  | ok a => exact same a rfl

namespace Steady

variable {first second : Emit α} {next next' : α → Emit β} {change : Pass → Pass}
  {restriction : Decoration} {inst : Instruction} {index : Nat}

theorem andAlso (step : Lockstep base moved first second)
    (rest : ∀ a, Lockstep base moved (next a) (next' a)) :
    Lockstep base moved (first >>= next) (second >>= next') := by
  refine .mk fun {c d c' b} follows mirrors done => ?_
  obtain ⟨a, middle, begun, done⟩ := bind_ok.mp done
  obtain ⟨middle', begun', follows, mirrors⟩ := step.step follows mirrors begun
  obtain ⟨d', done', follows, mirrors⟩ := (rest a).step follows mirrors done
  exact ⟨d', bind_ok.mpr ⟨a, middle', begun', done'⟩, follows, mirrors⟩

instance pure (a : α) : Steady base moved (pure a : Emit α) where
  steady := .mk fun {c d c' b} follows mirrors done => by
    obtain ⟨rfl, rfl⟩ := pure_ok.mp done
    exact ⟨d, rfl, follows, mirrors⟩

instance lift (result : Except Fault α) : Steady base moved (liftM result : Emit α) where
  steady := .mk fun {c d c' b} follows mirrors done => by
    obtain ⟨found, rfl⟩ := lift_ok.mp done
    exact ⟨d, lift_ok.mpr ⟨found, rfl⟩, follows, mirrors⟩

instance fail (fault : Fault) : Steady base moved (fail fault : Emit α) where
  steady := .mk fun _ _ done => (fail_ok done).elim

instance failThen (fault : Fault) (next : α → Emit β) :
    Steady base moved (Emit.fail fault >>= next) where
  steady := .mk fun _ _ done => by
    exact (fail_bind done).elim

instance bind (step : Emit α) (next : α → Emit β) [Steady base moved step]
    [∀ a, Steady base moved (next a)] : Steady base moved (step >>= next) :=
  ⟨andAlso steady fun _ => steady⟩

theorem andThen {step : Emit α} (first : Steady base moved step)
    (rest : ∀ a, Steady base moved (next a)) : Steady base moved (step >>= next) := bind step next

theorem onward {step : Emit α} [Steady base moved step]
    (rest : ∀ a, Steady base moved (next a)) : Steady base moved (step >>= next) := bind step next

instance ite (condition : Prop) [Decidable condition] (accepted rejected : Emit α)
    [Steady base moved accepted] [Steady base moved rejected] :
    Steady base moved (if condition then accepted else rejected) := by
  split <;> assumption

theorem otherwise {condition : Prop} [Decidable condition] {accepted rejected : Emit α}
    [Steady base moved accepted] (rest : Steady base moved rejected) :
    Steady base moved (if condition then accepted else rejected) := ite ..

theorem get {next : Compiler → Emit β} (same : ∀ c d, [Mirrors moved c d] → next d = next c)
    (rest : ∀ c, Steady base moved (next c)) : Steady base moved (get >>= next) where
  steady := .mk fun {c d c' b} follows mirrors done => by
    replace done := get_bind.mp done
    obtain ⟨d', done', follows, mirrors'⟩ := (rest c).steady.step follows mirrors done
    refine ⟨d', ?_, follows, mirrors'⟩
    rw [← same c d] at done'
    exact bind_ok.mpr ⟨d, d, get_ok.mpr ⟨rfl, rfl⟩, done'⟩

theorem read {next : Compiler → Emit β} (rest : ∀ c, Steady base moved (next c))
    (same : ∀ c d, [Mirrors moved c d] → next d = next c := by intros; simp) :
    Steady base moved (MonadState.get >>= next) := get same rest

theorem look {next : Compiler → Emit β}
    (rest : ∀ c d, base.Follows c → [Mirrors moved c d] → Lockstep base moved (next c) (next d)) :
    Steady base moved (MonadState.get >>= next) where
  steady := .mk fun {c d c' b} follows mirrors done => by
    replace done := get_bind.mp done
    obtain ⟨d', done', follows, mirrors'⟩ := (rest c d follows).step follows mirrors done
    exact ⟨d', bind_ok.mpr ⟨d, d, get_ok.mpr ⟨rfl, rfl⟩, done'⟩, follows, mirrors'⟩

theorem lifted {result result' : Except Fault α} (same : result' = result)
    (rest : ∀ a, result = .ok a → Lockstep base moved (next a) (next' a)) :
    Lockstep base moved (liftM result >>= next) (liftM result' >>= next') := by
  refine .mk fun {c d c' b} follows mirrors done => ?_
  obtain ⟨a, found, done⟩ := lift_bind.mp done
  obtain ⟨d', done', follows, mirrors⟩ := (rest a found).step follows mirrors done
  exact ⟨d', bind_ok.mpr ⟨a, d, lift_ok.mpr ⟨same.trans found, rfl⟩, done'⟩, follows, mirrors⟩

theorem lifts {result : Except Fault α} (rest : ∀ a, result = .ok a → Steady base moved (next a)) :
    Steady base moved (liftM result >>= next) :=
  ⟨lifted rfl fun a found => (rest a found).steady⟩

theorem same (same : second = first) [Steady base moved first] :
    Lockstep base moved first second := by
  subst same
  exact steady

theorem forM_of_mem (list : List α) {step : α → Emit Unit}
    (each : ∀ a ∈ list, Steady base moved (step a)) : Steady base moved (list.forM step) := by
  induction list with
  | nil => exact pure ()
  | cons a rest ih =>
    exact andThen (each a (by simp)) fun _ => ih fun b member => each b (by simp [member])

instance forM (list : List α) (step : α → Emit Unit) [∀ a, Steady base moved (step a)] :
    Steady base moved (list.forM step) := forM_of_mem list fun _ _ => inferInstance

theorem mapM_of_mem (list : List α) {step : α → Emit β}
    (each : ∀ a ∈ list, Steady base moved (step a)) : Steady base moved (list.mapM step) := by
  induction list with
  | nil => exact pure []
  | cons a rest ih =>
    rw [List.mapM_cons]
    refine andThen (each a (by simp)) fun _ => ?_
    exact andThen (ih fun b member => each b (by simp [member])) inferInstance

instance mapM (list : List α) (step : α → Emit β) [∀ a, Steady base moved (step a)] :
    Steady base moved (list.mapM step) := mapM_of_mem list fun _ _ => inferInstance

theorem filterM_of_mem (list : List α) {step : α → Emit Bool}
    (each : ∀ a ∈ list, Steady base moved (step a)) : Steady base moved (list.filterM step) := by
  have collected (kept : List α) : Steady base moved (list.filterAuxM step kept) := by
    induction list generalizing kept with
    | nil => exact pure kept
    | cons a rest ih =>
      refine andThen (each a (by simp)) fun accepted => ?_
      exact ih (fun b member => each b (by simp [member])) _
  simp only [List.filterM]
  infer_instance

instance foldlM (list : List α) (step : β → α → Emit β) [∀ b a, Steady base moved (step b a)]
    (start : β) : Steady base moved (list.foldlM step start) := by
  induction list generalizing start with
  | nil => exact pure start
  | cons a rest ih => exact bind (step start a) fun next => rest.foldlM step next

theorem forIn_of_mem (list : List α) {step step' : α → β → Emit (ForInStep β)}
    (each : ∀ a ∈ list, ∀ b, Lockstep base moved (step a b) (step' a b)) (start : β) :
    Lockstep base moved (forIn list start step) (forIn list start step') := by
  induction list generalizing start with
  | nil => exact (pure start).steady
  | cons a rest ih =>
    rw [List.forIn_cons, List.forIn_cons]
    refine andAlso (each a (by simp) start) fun next => ?_
    cases next with
    | done => exact steady
    | yield next => exact ih (fun b member => each b (by simp [member])) next

instance forIn (list : List α) (step : α → β → Emit (ForInStep β))
    [∀ a b, Steady base moved (step a b)] (start : β) :
    Steady base moved (forIn list start step) :=
  ⟨forIn_of_mem list (fun _ _ _ => steady) start⟩

instance optionForM (found : Option α) (step : α → Emit Unit) [∀ a, Steady base moved (step a)] :
    Steady base moved (found.forM step) := by
  cases found with
  | none => exact pure ()
  | some a => exact inferInstanceAs (Steady base moved (step a))

theorem modifyPaired (stale : ∀ pass, (change pass).stale = pass.stale)
    (headerWritten : ∀ pass, (change pass).headerWritten = pass.headerWritten)
    (current : ∀ pass, (change pass).currentFunction = pass.currentFunction)
    (paired : ∀ pass, Paired moved pass → Paired moved (change pass)) :
    Steady base moved (modifyPass change) where
  steady := .mk fun {c d c' u} follows mirrors done => by
    obtain rfl := modifyPass_ok.mp done
    refine ⟨{ d with pass := change d.pass }, modifyPass_ok.mpr rfl, ?_, ?_⟩
    · exact
        { follows with
          headerWritten := (headerWritten _).trans follows.headerWritten
          settled := fun fresh => follows.settled ((stale _).symm.trans fresh) }
    · exact mirrors.next mirrors.program mirrors.options mirrors.session
        (congrArg change mirrors.pass) mirrors.prepared rfl (fun _ => rfl) (fun _ => rfl) rfl rfl
          (paired _)
        (current _)

theorem modifyPass (stale : ∀ pass, (change pass).stale = pass.stale := by intro; rfl)
    (headerWritten : ∀ pass, (change pass).headerWritten = pass.headerWritten := by intro; rfl)
    (current : ∀ pass, (change pass).currentFunction = pass.currentFunction := by intro; rfl)
    (pairs : ∀ pass, (change pass).sampledImages = pass.sampledImages := by intro; rfl) :
    Steady base moved (Emit.modifyPass change) :=
  modifyPaired stale headerWritten current fun pass paired => by
    unfold Paired at paired ⊢
    rwa [pairs]

instance statement (text : String) : Steady base moved (statement text) := modifyPass

instance setDepth (depth : Nat → Nat) :
    Steady base moved (Emit.modifyPass fun pass => { pass with depth := depth pass.depth }) :=
  modifyPass

instance beginScope : Steady base moved beginScope := by
  simp only [Emit.beginScope]
  infer_instance

instance endScopeWith (text : String) : Steady base moved (endScopeWith text) := by
  simp only [Emit.endScopeWith]
  infer_instance

instance endScope : Steady base moved endScope := endScopeWith _

instance endDeclaration : Steady base moved endDeclaration := endScopeWith _

instance setText (result : Id) (text : String) : Steady base moved (setText result text) :=
  modifyPass

instance notePrevious (op : Option Spirv.Op) :
    Steady base moved (Emit.modifyPass ({ · with previousOp := op })) := modifyPass

instance setHoisted (hoisted : List Id) :
    Steady base moved (Emit.modifyPass ({ · with hoisted })) := modifyPass

instance forgetTransposed : Steady base moved (Emit.modifyPass ({ · with transposed := ∅ })) :=
  modifyPass

theorem discover {add : Session → Bool × Session} (keeps : Session.KeepsOrder add) :
    Steady base moved (discover add) where
  steady := .mk fun {c d c' u} follows mirrors done => by
    obtain rfl := modify_ok.mp done
    refine ⟨_, modify_ok.mpr rfl, ?_, ?_⟩
    · refine
        { follows with
          headerWritten := follows.headerWritten
          ordered := keeps.ordered _ follows.ordered
          settled := fun fresh => ?_ }
      simp only [follows.headerWritten, Bool.and_true, Bool.or_eq_false_iff] at fresh
      obtain ⟨stale, session, renamed⟩ := follows.settled fresh.1
      exact ⟨stale, (keeps.known _ follows.ordered fresh.2).trans session, renamed⟩
    · refine mirrors.next mirrors.program mirrors.options ?_ ?_ mirrors.prepared rfl (fun _ => rfl)
        (fun _ => rfl) rfl rfl id rfl
      · simp only [mirrors.session]
      · simp only [mirrors.session, mirrors.pass]

instance requirePragma (line : String) : Steady base moved (requirePragma line) :=
  discover (Session.keepsOrder_pragma line)

instance requireTypedef (line : String) : Steady base moved (requireTypedef line) :=
  discover (Session.keepsOrder_typedef line)

instance requireHelper (helper : Helper) : Steady base moved (requireHelper helper) :=
  andThen (discover (Session.keepsOrder_helper helper)) inferInstance

theorem openAccess (var : Id) (restricts : restriction.restrictsAccess = true) :
    Steady base moved (do
      modifyProgram (·.unsetDecoration var restriction)
      Emit.modifyPass ({ · with stale := true })) where
  steady := .mk fun {c d c' u} follows mirrors done => by
    obtain ⟨_, middle, opened, marked⟩ := bind_ok.mp done
    obtain rfl := modifyProgram_ok.mp opened
    obtain rfl := modifyPass_ok.mp marked
    refine ⟨_, bind_ok.mpr ⟨(), _, modifyProgram_ok.mpr rfl, modifyPass_ok.mpr rfl⟩, ?_, ?_⟩
    · exact
        { follows with
          program := follows.program.trans (Program.alike_unsetDecoration _ _ restricts)
          names := fun id => (Program.name_unsetDecoration ..).trans (follows.names id)
          settled := fun fresh => nomatch fresh }
    · exact mirrors.next (mirrors.program.unsetDecoration var restriction) mirrors.options
        mirrors.session (congrArg ({ · with stale := true }) mirrors.pass) mirrors.prepared rfl
        (fun id => Program.name_unsetDecoration ..) (fun id => Program.name_unsetDecoration ..)
        rfl rfl id rfl

theorem noteImageAccess (image : Id) (restricts : restriction.restrictsAccess = true) :
    Steady base moved (noteImageAccess image restriction) := by
  refine read fun c => ?_
  split
  · dsimp only
    split
    · exact openAccess _ restricts
    · infer_instance
  · infer_instance

instance need (inst : Instruction) (count : Nat) : Steady base moved (need inst count) := by
  simp only [Emit.need]
  infer_instance

instance operand (inst : Instruction) (index : Nat) : Steady base moved (word inst index) := by
  simp only [Emit.word]
  split <;> infer_instance

theorem words {next next' : Nat → Emit β} [StayAll moved inst.words]
    (rest : ∀ word, [Stays moved word] → Lockstep base moved (next word) (next' word)) :
    Lockstep base moved (word inst index >>= next) (word inst index >>= next') := by
  refine .mk fun {c d c' b} follows mirrors done => ?_
  obtain ⟨found, listed, more⟩ := word_bind.mp done
  have stays : Stays moved found := ⟨StayAll.stay found (List.mem_of_getElem? listed)⟩
  obtain ⟨d', more', follows, mirrors⟩ := (rest found).step follows mirrors more
  exact ⟨d', bind_ok.mpr ⟨found, d, word_ok.mpr ⟨listed, rfl⟩, more'⟩, follows, mirrors⟩

theorem word {next : Nat → Emit β} [StayAll moved inst.words]
    (rest : ∀ word, [Stays moved word] → Steady base moved (next word)) :
    Steady base moved (word inst index >>= next) :=
  ⟨words fun word => (rest word).steady⟩

instance text (id : Id) [Stays moved id] : Steady base moved (text id) :=
  read inferInstance

instance textAs (id : Id) (signed : Bool) [Stays moved id] : Steady base moved (textAs id signed) :=
  read inferInstance

instance getType (id : Id) : Steady base moved (getType id) :=
  read inferInstance

instance typeName (id : Id) : Steady base moved (typeName id) :=
  read inferInstance

instance define (type result : Id) (value : String) :
    Steady base moved (define type result value) :=
  read inferInstance

instance declare (type result : Id) : Steady base moved (declare type result) :=
  read inferInstance

instance setBacking (result source : Id) : Steady base moved (setBacking result source) := by
  refine read fun _ => ?_
  split
  · exact modifyPass
  · infer_instance

theorem paired_insert {pass : Pass} (paired : Paired moved pass) {result image sampler : Id}
    (first : ¬ moved image) (second : ¬ moved sampler) :
    Paired moved
      { pass with sampledImages := pass.sampledImages.insert result (image, sampler) } := by
  intro id image' sampler' found
  rw [Assoc.find?_insert] at found
  split at found
  · cases found
    exact ⟨first, second⟩
  · exact paired id image' sampler' found

instance inherit (result source : Id) :
    Steady base moved (Emit.modifyPass (inherit result source)) := by
  refine modifyPaired (fun _ => rfl) (fun _ => rfl) (fun _ => rfl) fun pass paired => ?_
  cases found : pass.sampledImages.find? source with
  | none => simpa [Paired, Emit.inherit, found] using paired
  | some pair =>
    obtain ⟨image, sampler⟩ := pair
    obtain ⟨first, second⟩ := paired source image sampler found
    simpa [Paired, Emit.inherit, found] using paired_insert paired first second

instance forward (result source : Id) (text : String) :
    Steady base moved (forward result source text) := by
  simp only [Emit.forward]
  infer_instance

end Steady

end Emit

end SpirvMetal
