import SpirvMetal.Proofs.Emit.Instruction

/-!
Two passes side by side: a pass, and one that starts from what an earlier pass has left.
-/

namespace SpirvMetal

open Spirv (Decoration)

namespace Compiler

/-- The same decisions are made in both states. -/
structure Agrees (c d : Compiler) : Prop where
  program : c.program.Alike d.program
  plan : d.plan.settled = c.plan.settled
  origins : d.pass.origins = c.pass.origins

/-- A pass has found something that was not known at the start of another. -/
def Discovers (start c : Compiler) : Prop :=
  ¬ c.session.Within start.session ∨
    ∃ id decoration, start.program.hasDecoration id decoration = true ∧
      c.program.hasDecoration id decoration = false

/-- Two passes have come equally far. The second one began at `start`; it is stale only if the first
one has discovered what was not known there. -/
structure Parallel (start c d : Compiler) : Prop where
  agrees : c.Agrees d
  session : start.session.Within d.session
  restricted : ∀ id decoration, d.program.hasDecoration id decoration = true →
    start.program.hasDecoration id decoration = true
  stale : d.pass.stale = true → Discovers start c

variable {start c c' d d' : Compiler}

theorem Discovers.advance (discovers : Discovers start c) (advances : c.Advances c') :
    Discovers start c' := by
  rcases discovers with new | ⟨id, decoration, closed, opened⟩
  · exact .inl fun within => new (advances.session.trans within)
  · refine .inr ⟨id, decoration, closed, ?_⟩
    rw [← Bool.not_eq_true] at opened ⊢
    exact fun has => opened (advances.restricted id decoration has)

theorem Parallel.advance (parallel : Parallel start c d) (first : c.Advances c')
    (second : d.Advances d') (origins : d'.pass.origins = c'.pass.origins)
    (stale : d'.pass.stale = true → d.pass.stale = true ∨ Discovers start c') :
    Parallel start c' d' where
  agrees :=
    { program := first.program.symm.trans (parallel.agrees.program.trans second.program)
      plan := second.plan.trans (parallel.agrees.plan.trans first.plan.symm)
      origins }
  session := parallel.session.trans second.session
  restricted id decoration has :=
    parallel.restricted id decoration (second.restricted id decoration has)
  stale marked := by
    rcases stale marked with before | found
    · exact (parallel.stale before).advance first
    · exact found

theorem Agrees.backingVariable?_eq (agrees : c.Agrees d) (id : Id) :
    d.backingVariable? id = c.backingVariable? id := by
  simp only [backingVariable?, agrees.program.variableAt?_eq]
  rw [show d.pass.backing = c.pass.backing from congrArg Origins.backing agrees.origins]

theorem Agrees.baseVariable_eq (agrees : c.Agrees d) (id : Id) :
    d.baseVariable id = c.baseVariable id := by
  rw [baseVariable, baseVariable, agrees.program.variableAt?_eq]

end Compiler

namespace Emit

open Compiler (Parallel)

variable {α β : Type}

def Matched (first second : Emit α) : Prop :=
  ∀ ⦃start c c' d d' : Compiler⦄ ⦃a b : α⦄, Parallel start c d →
    first c = .ok a c' → second d = .ok b d' → Parallel start c' d'

namespace Matched

variable {start c c' d d' : Compiler}
variable {first second : Emit α} {next next' : α → Emit β} {step : α → Emit Unit}
  {result result' : Except Fault α}

theorem quiet [Quiet first] [Quiet second] : Matched first second := by
  intro start c c' d d' a b parallel done done'
  have writes : c.Writes c' := Keeps.keeps done
  have writes' : d.Writes d' := Keeps.keeps done'
  refine parallel.advance writes.advances writes'.advances ?_ fun stale => .inl ?_
  · rw [writes.origins, writes'.origins, parallel.agrees.origins]
  · rw [← writes'.stale, stale]

theorem bind (step : Matched first second) (rest : ∀ a b, Matched (next a) (next' b)) :
    Matched (first >>= next) (second >>= next') := by
  intro start c c' d d' a b parallel done done'
  obtain ⟨_, _, done, more⟩ := bind_ok.mp done
  obtain ⟨_, _, done', more'⟩ := bind_ok.mp done'
  exact rest _ _ (step parallel done done') more more'

theorem quietly [Quiet first] [Quiet second] (rest : ∀ a b, Matched (next a) (next' b)) :
    Matched (first >>= next) (second >>= next') :=
  bind quiet rest

theorem quietlyFirst [Quiet first] {second : Emit β} (rest : ∀ a, Matched (next a) second) :
    Matched (first >>= next) second := by
  intro start c c' d d' a b parallel done done'
  obtain ⟨_, _, done, more⟩ := bind_ok.mp done
  have writes := (Keeps.keeps done : Compiler.Writes ..)
  refine rest _ (parallel.advance writes.advances (.refl _) ?_ .inl) more done'
  rw [writes.origins, parallel.agrees.origins]

theorem quietlySecond [Quiet second] {first : Emit β} (rest : ∀ a, Matched first (next a)) :
    Matched first (second >>= next) := by
  intro start c c' d d' a b parallel done done'
  obtain ⟨_, _, done', more⟩ := bind_ok.mp done'
  have writes := (Keeps.keeps done' : Compiler.Writes ..)
  refine rest _ (parallel.advance (.refl _) writes.advances ?_ fun stale => .inl ?_) done more
  · rw [writes.origins, parallel.agrees.origins]
  · rw [← writes.stale, stale]

theorem ite {p q : Prop} [Decidable p] [Decidable q] {yes yes' no no' : Emit α} (same : p ↔ q)
    (accepted : Matched yes yes') (rejected : Matched no no') :
    Matched (if p then yes else no) (if q then yes' else no') := by
  by_cases holds : p
  · rw [if_pos holds, if_pos (same.mp holds)]
    exact accepted
  · rw [if_neg holds, if_neg (mt same.mpr holds)]
    exact rejected

theorem forM (list : List α) (each : ∀ a, Matched (step a) (step a)) :
    Matched (list.forM step) (list.forM step) := by
  induction list with
  | nil => exact (quiet : Matched (Pure.pure ()) (Pure.pure ()))
  | cons a rest ih => exact bind (each a) fun _ _ => ih

theorem foldlM (list : List α) {step : β → α → Emit β}
    (each : ∀ b b' a, Matched (step b a) (step b' a)) (start start' : β) :
    Matched (list.foldlM step start) (list.foldlM step start') := by
  induction list generalizing start start' with
  | nil => exact (quiet : Matched (Pure.pure start) (Pure.pure start'))
  | cons a rest ih => exact bind (each start start' a) fun b b' => ih b b'

theorem optionForM (found : Option α) (each : ∀ a, Matched (step a) (step a)) :
    Matched (found.forM step) (found.forM step) := by
  cases found with
  | none => exact (quiet : Matched (Pure.pure ()) (Pure.pure ()))
  | some a => exact each a

theorem get {next next' : Compiler → Emit β}
    (rest : ∀ c d : Compiler, c.Agrees d → Matched (next c) (next' d)) :
    Matched (get >>= next) (get >>= next') := by
  intro start c c' d d' a b parallel done done'
  have more := get_bind.mp done
  obtain ⟨_, _, read, more'⟩ := bind_ok.mp done'
  obtain ⟨rfl, rfl⟩ := get_ok.mp read
  exact rest c d parallel.agrees parallel more more'

theorem lift (rest : ∀ a b, result = .ok a → result' = .ok b → Matched (next a) (next' b)) :
    Matched (liftM result >>= next) (liftM result' >>= next') := by
  intro start c c' d d' a b parallel done done'
  obtain ⟨_, found, more⟩ := lift_bind.mp done
  obtain ⟨_, _, read, more'⟩ := bind_ok.mp done'
  obtain ⟨found', rfl⟩ := lift_ok.mp read
  exact rest _ _ found found' parallel more more'

theorem liftSame (same : result' = result) (rest : ∀ a, Matched (next a) (next' a)) :
    Matched (liftM result >>= next) (liftM result' >>= next') := by
  refine lift fun a b found found' => ?_
  obtain rfl : a = b := Except.ok.inj (found.symm.trans (same.symm.trans found'))
  exact rest a

theorem word {inst : Instruction} {index : Nat} {next next' : Nat → Emit β}
    (rest : ∀ word, Matched (next word) (next' word)) :
    Matched (word inst index >>= next) (word inst index >>= next') := by
  intro start c c' d d' a b parallel done done'
  obtain ⟨w, found, more⟩ := word_bind.mp done
  obtain ⟨w', _, read, more'⟩ := bind_ok.mp done'
  obtain ⟨found', rfl⟩ := word_ok.mp read
  obtain rfl : w = w' := Option.some.inj (found.symm.trans found')
  exact rest w parallel more more'

theorem getType {id : Id} {next next' : ValueType → Emit β}
    (rest : ∀ type, Matched (next type) (next' type)) :
    Matched (getType id >>= next) (getType id >>= next') := by
  intro start c c' d d' a b parallel done done'
  obtain ⟨type, found, more⟩ := getType_bind.mp done
  obtain ⟨type', _, read, more'⟩ := bind_ok.mp done'
  obtain ⟨found', rfl⟩ := getType_ok.mp read
  rw [parallel.agrees.program.getType_eq, found] at found'
  obtain rfl : type = type' := Except.ok.inj found'
  exact rest type parallel more more'

theorem discover {add : Session → Bool × Session} {extra : Session}
    (adds : Session.Adds add extra) : Matched (discover add) (discover add) := by
  intro start c c' d d' a b parallel done done'
  refine parallel.advance ((Advancing.discover adds).keeps done)
    ((Advancing.discover adds).keeps done') ?_ ?_
  · obtain rfl := modify_ok.mp done
    obtain rfl := modify_ok.mp done'
    exact parallel.agrees.origins
  · obtain rfl := modify_ok.mp done
    obtain rfl := modify_ok.mp done'
    simp only [Bool.or_eq_true, Bool.and_eq_true]
    rintro (stale | ⟨new, -⟩)
    · exact .inl stale
    · -- what is new to the second pass was not known at its start
      refine .inr (.inl fun within => ?_)
      have known : extra.Within d.session :=
        (adds.added c.session).trans (within.trans parallel.session)
      rw [(adds.known d.session).mpr known] at new
      cases new

theorem requireHelper (helper : Helper) : Matched (requireHelper helper) (requireHelper helper) :=
  bind (discover (Session.adds_helper helper)) fun _ _ => discover (Session.adds_pragma _)

theorem noteImageAccess (image : Id) {restriction : Decoration}
    (restricts : restriction.restrictsAccess = true) :
    Matched (noteImageAccess image restriction) (noteImageAccess image restriction) := by
  intro start c c' d d' a b parallel done done'
  have advances := (Advancing.noteImageAccess image restricts).keeps done
  have advances' := (Advancing.noteImageAccess image restricts).keeps done'
  have same (id : Id) := parallel.agrees.backingVariable?_eq id
  have base (id : Id) := parallel.agrees.baseVariable_eq id
  obtain ⟨rfl, opened⟩ | ⟨var, backing, closed, rfl⟩ := Advancing.noteImageAccess_cases done <;>
    obtain ⟨rfl, opened'⟩ | ⟨var', backing', closed', rfl⟩ := Advancing.noteImageAccess_cases done'
  · exact parallel
  · -- the first pass has found the image open, so it was opened before
    rw [same] at backing'
    rw [base] at closed'
    exact parallel.advance advances advances' parallel.agrees.origins fun _ =>
      .inr (.inr ⟨_, _, parallel.restricted _ _ closed', opened var' backing'⟩)
  · exact parallel.advance advances advances' parallel.agrees.origins .inl
  · -- both passes open the image
    rw [same, backing] at backing'
    obtain rfl := Option.some.inj backing'
    rw [base] at closed'
    refine parallel.advance advances advances' parallel.agrees.origins fun _ =>
      .inr (.inr ⟨_, _, parallel.restricted _ _ closed', ?_⟩)
    simp [Program.hasDecoration_unsetDecoration]

end Matched

end Emit

end SpirvMetal
