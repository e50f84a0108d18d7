import SpirvMetal.Proofs.Repeat.Steady

/-!
Names of parameters and locals. A function gives its own different names before it is written, which
makes some of them longer.
-/

namespace SpirvMetal

/-- The parameters and locals that get different names: all but those that stand for globals. -/
def Function.localIds (function : Function) : List Id :=
  (function.parameters.filter (!·.threaded)).map (·.id) ++ function.locals

namespace Program

def usesName (program : Program) (id : Id) : Bool :=
  !((program.name id).isEmpty || (program.standIn? id).isSome)

def localNames (program : Program) (ids : List Id) : List String :=
  (ids.filter program.usesName).map program.name

theorem localNames_cons (program : Program) (id : Id) (rest : List Id) :
    program.localNames (id :: rest) = program.localNames [id] ++ program.localNames rest := by
  rw [localNames, localNames, localNames, ← List.map_append, ← List.filter_append]
  rfl

/-- Some of the ids have got longer names; the names of all others are as they were. -/
def Lengthens (ids : Id → Prop) (before after : Program) : Prop :=
  ∀ id, after.name id = before.name id ∨ ids id ∧ (before.name id).length < (after.name id).length

variable {before middle after : Program} {ids ids' : Id → Prop}

theorem Lengthens.refl (ids : Id → Prop) (program : Program) : Lengthens ids program program :=
  fun _ => .inl rfl

theorem Lengthens.trans (first : Lengthens ids before middle)
    (second : Lengthens ids' middle after) :
    Lengthens (fun id => ids id ∨ ids' id) before after := by
  intro id
  rcases first id with same | ⟨listed, longer⟩ <;> rcases second id with same' | ⟨listed', longer'⟩
  · exact .inl (same'.trans same)
  · exact .inr ⟨.inr listed', same ▸ longer'⟩
  · exact .inr ⟨.inl listed, same' ▸ longer⟩
  · exact .inr ⟨.inl listed, longer.trans longer'⟩

theorem Lengthens.mono (lengthens : Lengthens ids before after) (more : ∀ id, ids id → ids' id) :
    Lengthens ids' before after :=
  fun id => (lengthens id).imp_right (And.imp_left (more id))

theorem name_setName (program : Program) (id other : Id) (name : String) :
    (program.setName id name).name other = if other = id then name else program.name other := by
  unfold Program.name setName
  rw [decorations_modifyOwn]
  split <;> rfl

theorem Renamed.setName (program : Program) (id : Id) (name : String) :
    program.Renamed (program.setName id name) where
  records := rfl
  resultTypes := rfl
  entryPoints := rfl
  defaultEntry := rfl
  arrayLengths := rfl
  own other := view_modifyOwn Decorations.nameless (fun _ => by rfl) program id other
  members other := program.memberNotes_modifyOwn id other _

theorem Lengthens.setName {program : Program} {id : Id} {name : String} (listed : ids id)
    (longer : (program.name id).length < name.length) :
    Lengthens ids program (program.setName id name) := by
  intro other
  rw [name_setName]
  split
  · rename_i same
    subst same
    exact .inr ⟨listed, longer⟩
  · exact .inl rfl

end Program

namespace Emit

variable {c c' : Compiler} {u : Unit}
variable {seen seen' : List String} {id : Id} {ids : List Id}

def tellApart (seen : List String) (id : Id) : Emit (List String) := do
  let program := (← get).program
  let name := program.name id
  if name.isEmpty || (program.standIn? id).isSome then return seen
  else if name ∈ seen then
    let renamed := s!"{name}_{id}"
    modifyProgram (·.setName id renamed)
    return renamed :: seen
  else return name :: seen

theorem distinguish_eq (function : Id) : distinguish function = (do
    let found ← (← get).program.getFunction function
    let _ ← found.localIds.foldlM tellApart []) := rfl

theorem tellApart_lengthens {ids : Id → Prop} (done : tellApart seen id c = .ok seen' c')
    (listed : ids id) :
    ∃ program, c' = { c with program } ∧ c.program.Renamed program ∧
      Program.Lengthens ids c.program program := by
  replace done := get_bind.mp done
  dsimp only at done
  split at done
  · obtain ⟨-, rfl⟩ := pure_ok.mp done
    exact ⟨_, rfl, .refl _, .refl _ _⟩
  · split at done
    · replace done := modify_bind.mp done
      obtain ⟨-, rfl⟩ := pure_ok.mp done
      refine ⟨_, rfl, .setName .., .setName listed ?_⟩
      rw [String.length_append, String.length_append]
      exact Nat.lt_add_right _ (Nat.lt_succ_self _)
    · obtain ⟨-, rfl⟩ := pure_ok.mp done
      exact ⟨_, rfl, .refl _, .refl _ _⟩

theorem tellApart_all {within : Id → Prop} (done : ids.foldlM tellApart seen c = .ok seen' c')
    (listed : ∀ id ∈ ids, within id) :
    ∃ program, c' = { c with program } ∧ c.program.Renamed program ∧
      Program.Lengthens within c.program program := by
  induction ids generalizing c seen with
  | nil =>
    obtain ⟨-, rfl⟩ := pure_ok.mp done
    exact ⟨_, rfl, .refl _, .refl _ _⟩
  | cons id rest ih =>
    rw [List.foldlM_cons] at done
    obtain ⟨_, _, first, done⟩ := bind_ok.mp done
    obtain ⟨program, rfl, renamed, longer⟩ := tellApart_lengthens first (listed id (by simp))
    obtain ⟨program', rfl, renamed', longer'⟩ :=
      ih done fun other member => listed other (by simp [member])
    exact ⟨program', rfl, renamed.trans renamed', (longer.trans longer').mono (by simp)⟩

/-- A function makes the names of its parameters and locals longer, and does nothing else. -/
theorem distinguish_lengthens (done : distinguish id c = .ok u c') :
    ∃ function program, c.program.getFunction id = .ok function ∧ c' = { c with program } ∧
      c.program.Renamed program ∧
      Program.Lengthens (· ∈ function.localIds) c.program program := by
  rw [distinguish_eq] at done
  obtain ⟨function, stored, done⟩ := read_bind.mp done
  obtain ⟨_, _, told, done⟩ := bind_ok.mp done
  obtain ⟨-, rfl⟩ := pure_ok.mp done
  obtain ⟨program, same, renamed, longer⟩ := tellApart_all told fun _ member => member
  exact ⟨function, program, stored, same, renamed, longer⟩

theorem tellApart_new (new : ∀ name ∈ c.program.localNames [id], name ∉ seen) :
    tellApart seen id c = .ok (c.program.localNames [id] ++ seen) c := by
  refine bind_ok.mpr ⟨c, c, get_ok.mpr ⟨rfl, rfl⟩, ?_⟩
  dsimp only
  cases unused : ((c.program.name id).isEmpty || (c.program.standIn? id).isSome) with
  | true =>
    have used : c.program.usesName id = false := by rw [Program.usesName, unused, Bool.not_true]
    simp [Program.localNames, used, pure, EStateM.pure]
  | false =>
    have used : c.program.usesName id = true := by rw [Program.usesName, unused, Bool.not_false]
    have own : c.program.name id ∉ seen := new _ (by simp [Program.localNames, used])
    simp [Program.localNames, used, own, pure, EStateM.pure]

theorem tellApart_distinct (distinct : (c.program.localNames ids).Nodup)
    (new : ∀ name ∈ c.program.localNames ids, name ∉ seen) :
    ∃ seen', ids.foldlM tellApart seen c = .ok seen' c := by
  induction ids generalizing seen with
  | nil => exact ⟨seen, rfl⟩
  | cons id rest ih =>
    rw [Program.localNames_cons] at distinct new
    obtain ⟨_, later, apart⟩ := List.nodup_append.mp distinct
    have first := tellApart_new fun name member => new name (List.mem_append_left _ member)
    have later' : ∀ name ∈ c.program.localNames rest, name ∉ c.program.localNames [id] ++ seen := by
      intro name member known
      rcases List.mem_append.mp known with known | known
      · exact apart name known name member rfl
      · exact new name (List.mem_append_right _ member) known
    obtain ⟨seen', done⟩ := ih later later'
    exact ⟨seen', bind_ok.mpr ⟨_, c, first, done⟩⟩

theorem distinguish_distinct {function : Function} (found : c.program.getFunction id = .ok function)
    (distinct : (c.program.localNames function.localIds).Nodup) : distinguish id c = .ok () c := by
  have unseen : ∀ name ∈ c.program.localNames function.localIds, name ∉ [] := by simp
  obtain ⟨seen, done⟩ := tellApart_distinct distinct unseen
  rw [distinguish_eq]
  exact bind_ok.mpr ⟨c, c, get_ok.mpr ⟨rfl, rfl⟩, bind_ok.mpr ⟨function, c,
    lift_ok.mpr ⟨found, rfl⟩, bind_ok.mpr ⟨seen, c, done, rfl⟩⟩⟩

end Emit

end SpirvMetal
