import SpirvMetal.Proofs.Repeat.Function
import SpirvMetal.Proofs.Repeat.Names
import SpirvMetal.Proofs.Repeat.Scan

/-!
A pass that is made again, with the names that the pass before it has left.
-/

namespace SpirvMetal

def Program.localIdsOf (program : Program) (id : Id) : List Id :=
  match program.getFunction id with
  | .ok function => function.localIds
  | .error _ => []

def Program.mentionedBy (program : Program) (id : Id) : List Id :=
  match program.getFunction id with
  | .ok function => program.mentioned function
  | .error _ => []

namespace Program

variable {before after : Program}

theorem Alike.localIdsOf_eq (alike : before.Alike after) (id : Id) :
    after.localIdsOf id = before.localIdsOf id := by
  rw [localIdsOf, localIdsOf, alike.getFunction_eq]

theorem Alike.mentioned_eq (alike : before.Alike after) (function : Function) :
    after.mentioned function = before.mentioned function := by
  simp only [mentioned, alike.variableAt?_eq]

theorem Alike.mentionedBy_eq (alike : before.Alike after) (id : Id) :
    after.mentionedBy id = before.mentionedBy id := by
  simp only [mentionedBy, alike.getFunction_eq, alike.mentioned_eq]

theorem localNames_congr (renamed : before.Renamed after)
    (names : ∀ id, after.name id = before.name id) (ids : List Id) :
    after.localNames ids = before.localNames ids := by
  have standIns (id : Id) : after.standIn? id = before.standIn? id :=
    congrArg (·.standIn) (renamed.own id)
  have uses : after.usesName = before.usesName := by
    funext id
    rw [usesName, usesName, names, standIns]
  rw [localNames, localNames, uses, funext names]

theorem Lengthens.settled {final : Program} {ids ids' : Id → Prop} (first : Lengthens ids before
    after)
    (second : Lengthens ids' after final) {id : Id} (same : before.name id = final.name id) :
    after.name id = final.name id := by
  rcases first id with kept | ⟨_, longer⟩
  · exact kept.trans same
  · rcases second id with kept | ⟨_, longer'⟩
    · exact kept.symm
    · rw [same] at longer
      omega

end Program

namespace Compiler

/-- The same point of two passes. The first one has yet to give the ids their `final` names, which
the second one knows from the start. -/
structure Trails (final : Program) (c d : Compiler) : Prop where
  program : c.program.Renamed d.program
  names : ∀ id, d.program.name id = final.name id
  options : d.options.unmarked = c.options.unmarked
  session : d.session = c.session
  plan : d.plan = c.plan
  pass : d.pass = c.pass
  prepared : d.prepared = c.prepared
  pairs : Paired (fun id => c.program.name id ≠ final.name id) c.pass

/-- Names that a pass can be made again with: they were those of `start`, and the pass, which has
ended in `c`, has written the functions `order`. No function has two of the same, and no text shows
a name ahead of the function that has changed it. -/
structure Settles (order : List Id) (start : Program) (c : Compiler) : Prop where
  distinct : ∀ id ∈ order, (c.program.localNames (c.program.localIdsOf id)).Nodup
  unshared : ∀ id ∈ order, ∀ value ∈ c.program.localIdsOf id,
    start.name value ≠ c.program.name value → ¬ c.Shared value
  unmentioned : order.Pairwise fun id later => ∀ value ∈ c.program.mentionedBy id,
    start.name value ≠ c.program.name value → value ∉ c.program.localIdsOf later

theorem Settles.congr {order : List Id} {start begun : Program} {c : Compiler}
    (settles : Settles order start c) (names : ∀ id, begun.name id = start.name id) :
    Settles order begun c where
  distinct := settles.distinct
  unshared := by simpa only [names] using settles.unshared
  unmentioned := by simpa only [names] using settles.unmentioned

theorem Mirrors.refl (c : Compiler) : Mirrors (fun _ => False) c c :=
  ⟨.refl _, rfl, rfl, rfl, rfl, rfl, fun _ _ => rfl, fun _ _ => not_false,
    fun _ _ _ _ => ⟨not_false, not_false⟩, fun _ _ => not_false⟩

end Compiler

namespace Emit

open Compiler (Mirrors Settles Trails)

variable {α : Type} {c c' d : Compiler} {u : Unit}

theorem Steady.follows {step : Emit α} {a : α} (steady : Steady c (fun _ => False) step)
    (done : step c = .ok a c') (headerWritten : c.pass.headerWritten = true)
    (ordered : c.session.Ordered) : c.Follows c' := by
  obtain ⟨_, _, follows, _⟩ :=
    steady.steady.step (.refl headerWritten ordered) (Mirrors.refl c) done
  exact follows

theorem function_steps {id : Id} (done : function id c = .ok u c') :
    ∃ found program last, c.program.getFunction id = .ok found ∧ c.program.Renamed program ∧
      Program.Lengthens (· ∈ found.localIds) c.program program ∧
      written id { c with program, pass := { c.pass with currentFunction := some id } } =
        .ok () last ∧
      c' = { last with pass := { last.pass with currentFunction := none } } := by
  rw [function_eq] at done
  replace done := modify_bind.mp done
  obtain ⟨_, _, telling, done⟩ := bind_ok.mp done
  obtain ⟨_, last, writing, done⟩ := bind_ok.mp done
  obtain rfl := modifyPass_ok.mp done
  obtain ⟨found, program, stored, rfl, renamed, longer⟩ := distinguish_lengthens telling
  exact ⟨found, program, last, stored, renamed, longer, writing, rfl⟩

theorem written_follows {id : Id} {found : Function}
    (stored : c.program.getFunction id = .ok found) (done : written id c = .ok u c')
    (headerWritten : c.pass.headerWritten = true) (ordered : c.session.Ordered) : c.Follows c' :=
  (Steady.written stored ⟨fun _ _ => not_false⟩ fun _ _ => not_false).follows done headerWritten
    ordered

theorem function_reaches {id : Id} (done : function id c = .ok u c')
    (headerWritten : c.pass.headerWritten = true) (ordered : c.session.Ordered) :
    c.Reaches c' ∧ Program.Lengthens (· ∈ c.program.localIdsOf id) c.program c'.program := by
  obtain ⟨found, program, last, stored, renamed, longer, writing, rfl⟩ := function_steps done
  have follows := written_follows ((renamed.alike.getFunction_eq id).trans stored) writing
    headerWritten ordered
  refine ⟨?_, fun value => ?_⟩
  · exact
      { follows with
        program := renamed.alike.trans follows.program
        settled := fun fresh => by
          obtain ⟨fresh, session, renamed'⟩ := follows.settled fresh
          exact ⟨fresh, session, renamed.trans renamed'⟩ }
  · rw [Program.localIdsOf, stored, follows.names]
    exact longer value

theorem functions_reach {later : List Id} (done : later.forM function c = .ok u c')
    (headerWritten : c.pass.headerWritten = true) (ordered : c.session.Ordered) :
    c.Reaches c' ∧ Program.Lengthens (fun value => ∃ id ∈ later, value ∈ c.program.localIdsOf id)
      c.program c'.program := by
  induction later generalizing c with
  | nil =>
    obtain ⟨-, rfl⟩ := pure_ok.mp done
    exact ⟨.refl headerWritten ordered, .refl _ _⟩
  | cons id rest ih =>
    obtain ⟨_, middle, first, done⟩ := bind_ok.mp done
    obtain ⟨reaches, longer⟩ := function_reaches first headerWritten ordered
    obtain ⟨reaches', longer'⟩ := ih done reaches.headerWritten reaches.ordered
    refine ⟨reaches.trans reaches', (longer.trans longer').mono fun value known => ?_⟩
    simp only [reaches.program.localIdsOf_eq] at known
    rcases known with known | ⟨other, member, known⟩
    · exact ⟨id, by simp, known⟩
    · exact ⟨other, by simp [member], known⟩

theorem function_again {id : Id} {final : Program} {later : Id → Prop}
    (done : function id c = .ok u c') (headerWritten : c.pass.headerWritten = true)
    (ordered : c.session.Ordered) (trails : Trails final c d)
    (onward : Program.Lengthens later c'.program final)
    (distinct : (d.program.localNames (c.program.localIdsOf id)).Nodup)
    (unshared : ∀ value, c.program.name value ≠ final.name value → ¬ c.Shared value)
    (settled : ∀ value ∈ c.program.mentionedBy id, c'.program.name value = final.name value)
    (entry : id = c.plan.entry → ∀ value, c'.program.name value = final.name value) :
    ∃ d', function id d = .ok u d' ∧ Trails final c' d' := by
  obtain ⟨_, longer⟩ := function_reaches done headerWritten ordered
  obtain ⟨found, program, last, stored, renamed, _, writing, rfl⟩ := function_steps done
  have stored' : d.program.getFunction id = .ok found :=
    (trails.program.alike.getFunction_eq id).trans stored
  have storedNow : program.getFunction id = .ok found :=
    (renamed.alike.getFunction_eq id).trans stored
  have follows := written_follows storedNow writing headerWritten ordered
  rw [Program.localIdsOf, stored] at distinct
  simp only [Program.mentionedBy, stored] at settled
  let moved (value : Id) : Prop := last.program.name value ≠ final.name value
  let begun : Compiler := { c with program, pass := { c.pass with currentFunction := some id } }
  let entered : Compiler := { d with pass := { d.pass with currentFunction := some id } }
  have before (value : Id) (later : moved value) : c.program.name value ≠ final.name value :=
    fun same => later (longer.settled onward same)
  have mirrors : Mirrors moved begun entered :=
    { trails with
      program := renamed.symm.trans trails.program
      pass := congrArg ({ · with currentFunction := some id }) trails.pass
      names := fun value stays => by
        rw [← follows.names, not_not.mp stays]
        exact trails.names value
      shared := fun value shared later => by
        have same : begun.plan = c.plan := rfl
        exact unshared value (before value later) (shared.congr renamed.records same)
      pairs := fun value image sampler stands => by
        obtain ⟨first, second⟩ := trails.pairs value image sampler stands
        exact ⟨fun later => first (before image later), fun later => second (before sampler later)⟩
      entry := fun inside value later => by
        simp only [begun, Compiler.inEntry, Option.some.injEq, decide_eq_true_eq] at inside
        exact later (entry inside value) }
  have stay : StayAll moved (program.mentioned found) := by
    rw [renamed.alike.mentioned_eq]
    exact ⟨fun value member later => later (settled value member)⟩
  have steady : Steady begun moved (written id) :=
    .written storedNow stay fun isEntry value later => later (entry isEntry value)
  obtain ⟨last', writing', _, mirrors'⟩ :=
    steady.steady.step (.refl headerWritten ordered) mirrors writing
  have telling : distinguish id entered = .ok () entered := distinguish_distinct stored' distinct
  have titled : d.pass.headerWritten = true := by rw [trails.pass, headerWritten]
  have follows' : entered.Follows last' :=
    written_follows stored' writing' titled (trails.session ▸ ordered)
  refine ⟨{ last' with pass := { last'.pass with currentFunction := none } }, ?_, ?_⟩
  · rw [function_eq]
    exact bind_ok.mpr ⟨(), entered, modifyPass_ok.mpr rfl, bind_ok.mpr ⟨(), entered, telling,
      bind_ok.mpr ⟨(), last', writing', modifyPass_ok.mpr rfl⟩⟩⟩
  · exact
      { mirrors' with
        names := fun value => (follows'.names value).trans (trails.names value)
        pass := congrArg ({ · with currentFunction := none }) mirrors'.pass }

/-- The functions of a call graph that are written again. Nothing is behind the entry point, which
so has all names as they stay. -/
theorem functions_again {order : List Id} (done : order.forM function c = .ok u c')
    (headerWritten : c.pass.headerWritten = true) (ordered : c.session.Ordered)
    (fresh : c'.pass.stale = false) (trails : Trails c'.program c d)
    (settles : Settles order c.program c')
    (entryLast : order.Pairwise fun id _ => id ≠ c.plan.entry) :
    ∃ d', order.forM function d = .ok u d' ∧ Trails c'.program c' d' := by
  induction order generalizing c d with
  | nil =>
    obtain ⟨rfl, rfl⟩ := pure_ok.mp done
    exact ⟨d, rfl, trails⟩
  | cons id rest ih =>
    obtain ⟨onward, changes⟩ := functions_reach done headerWritten ordered
    obtain ⟨_, middle, first, done⟩ := bind_ok.mp done
    obtain ⟨reaches, longer⟩ := function_reaches first headerWritten ordered
    obtain ⟨_, longer'⟩ := functions_reach done reaches.headerWritten reaches.ordered
    obtain ⟨-, -, renamed⟩ := onward.settled fresh
    obtain ⟨unmentioned, unmentioned'⟩ := List.pairwise_cons.mp settles.unmentioned
    obtain ⟨entryLast, entryLast'⟩ := List.pairwise_cons.mp entryLast
    have kept (value : Id) : c.program.name value = c'.program.name value →
        middle.program.name value = c'.program.name value := longer.settled longer'
    have distinct : (d.program.localNames (c.program.localIdsOf id)).Nodup := by
      rw [Program.localNames_congr (renamed.symm.trans trails.program) trails.names,
        ← onward.program.localIdsOf_eq]
      exact settles.distinct id (by simp)
    have unshared (value : Id) (changed : c.program.name value ≠ c'.program.name value) :
        ¬ c.Shared value := by
      rcases changes value with same | ⟨⟨other, member, known⟩, _⟩
      · exact absurd same.symm changed
      · rw [← onward.program.localIdsOf_eq] at known
        intro shared
        exact settles.unshared other member value known changed
          (shared.congr renamed.records.symm onward.plan.symm)
    have settled (value : Id) (mentioned : value ∈ c.program.mentionedBy id) :
        middle.program.name value = c'.program.name value := by
      rcases longer' value with same | ⟨⟨other, member, known⟩, _⟩
      · exact same.symm
      · refine kept value (by_contra fun changed => ?_)
        rw [reaches.program.localIdsOf_eq, ← onward.program.localIdsOf_eq] at known
        rw [← onward.program.mentionedBy_eq] at mentioned
        exact unmentioned other member value mentioned changed known
    have entry (isEntry : id = c.plan.entry) (value : Id) :
        middle.program.name value = c'.program.name value := by
      cases rest with
      | nil =>
        obtain ⟨-, rfl⟩ := pure_ok.mp done
        rfl
      | cons other _ => exact absurd isEntry (entryLast other (by simp))
    obtain ⟨middle', first', trails'⟩ :=
      function_again first headerWritten ordered trails longer' distinct unshared settled entry
    obtain ⟨d', done', trails'⟩ := ih done reaches.headerWritten reaches.ordered trails'
      { distinct := fun other member => settles.distinct other (by simp [member])
        unshared := fun other member value known changed =>
          settles.unshared other (by simp [member]) value known (changed ∘ kept value)
        unmentioned := unmentioned'.imp fun unmentioned value mentioned changed =>
          unmentioned value mentioned (changed ∘ kept value) }
      (reaches.plan ▸ entryLast')
    exact ⟨d', bind_ok.mpr ⟨(), middle', first', done'⟩, trails'⟩

end Emit

end SpirvMetal
