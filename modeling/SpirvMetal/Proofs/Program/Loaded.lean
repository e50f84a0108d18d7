import SpirvMetal.Proofs.Program.Stored

/-!
Programs that were loaded. The lists of records of one kind list what is stored, and no id twice;
every variable that is listed has a type.
-/

namespace SpirvMetal

theorem foldlM_keeps {α β : Type} {holds : β → Prop} {step : β → α → Except Fault β}
    (kept : ∀ before item after, holds before → step before item = .ok after → holds after)
    {items : List α} {before after : β} (start : holds before)
    (done : items.foldlM step before = .ok after) : holds after := by
  induction items generalizing before with
  | nil =>
    cases done
    exact start
  | cons item rest ih =>
    obtain ⟨next, stepped, done⟩ := Except.bind_ok.mp done
    exact ih (kept before item next start stepped) done

theorem Assoc.mem_entries {κ α : Type} [DecidableEq κ] {map : Assoc κ α} (distinct : map.keys.Nodup)
    {key : κ} {value : α} : (key, value) ∈ map.entries ↔ map.find? key = some value := by
  obtain ⟨entries⟩ := map
  simp only [keys, find?] at distinct ⊢
  induction entries with
  | nil => simp [read]
  | cons entry rest ih =>
    obtain ⟨first, kept⟩ := entry
    obtain ⟨new, others⟩ := List.nodup_cons.mp distinct
    rw [List.mem_cons, ih others, read]
    by_cases same : key = first
    · subst same
      have absent : read key rest ≠ some value := by
        intro found
        exact new (List.mem_map.mpr ⟨_, (ih others).mpr found, rfl⟩)
      simp [absent, eq_comm]
    · simp [same]

namespace Program

variable {program after : Program} {inst : Spirv.Instruction} {m : Spirv.Module}
variable {id : Id} {type : ValueType} {declarations : List Spirv.Instruction} {ids : List Id}
  {var : Variable} {α : Type} {select : Record → Option α}

theorem Bounded.sameRecords (bounded : program.Bounded) (same : after.records = program.records) :
    after.Bounded := (Extends.of_records_eq same : Extends id program after).bounded bounded

theorem definedType_below {id : Nat} (bounded : program.Bounded)
    (defined : program.definedType id = .ok type) : type.baseId < program.bound := by
  unfold definedType at defined
  split at defined
  · rename_i found
    cases defined
    exact (bounded.type_below found).2
  · cases defined

theorem declaredType_base {id : Nat} (bounded : program.Bounded)
    (declared : program.declaredType inst id = .ok type) :
    type.baseId = id ∨ type.baseId < program.bound := by
  simp only [declaredType] at declared
  split at declared
  case h_1 | h_12 | h_14 =>
    cases declared
    exact .inl rfl
  case h_8 | h_10 | h_13 =>
    obtain ⟨_, _, declared⟩ := Except.bind_ok.mp declared
    cases declared
    exact .inl rfl
  case h_2 =>
    simp only [Except.bind_ok] at declared
    obtain ⟨width, _, signed, _, declared⟩ := declared
    split at declared <;> cases declared
    exact .inl rfl
  case h_3 =>
    obtain ⟨width, _, declared⟩ := Except.bind_ok.mp declared
    split at declared <;> cases declared
    exact .inl rfl
  case h_4 | h_5 =>
    simp only [Except.bind_ok] at declared
    obtain ⟨part, _, found, _, count, _, declared⟩ := declared
    cases declared
    exact .inl rfl
  case h_11 =>
    simp only [Except.bind_ok] at declared
    obtain ⟨image, _, found, _, declared⟩ := declared
    cases declared
    exact .inl rfl
  case h_6 =>
    simp only [Except.bind_ok] at declared
    obtain ⟨element, _, length, _, dimension, _, found, defined, declared⟩ := declared
    have below := definedType_below bounded defined
    cases declared
    exact .inr below
  case h_7 =>
    simp only [Except.bind_ok] at declared
    obtain ⟨element, _, found, defined, declared⟩ := declared
    have below := definedType_below bounded defined
    cases declared
    exact .inr below
  case h_9 =>
    split at declared
    · simp only [Except.bind_ok] at declared
      obtain ⟨target, _, found, defined, declared⟩ := declared
      have below := definedType_below bounded defined
      cases declared
      exact .inr below
    · cases declared

theorem Stores.based {record : Record} (stores : Stores declarations program id record)
    (bounded : program.Bounded) : record.BasedBelow (program.set id record).bound := by
  cases record with
  | type type =>
    obtain ⟨inst, _, declared⟩ := stores type rfl
    rcases declaredType_base bounded declared with same | below
    · exact same ▸ program.lt_bound_set id (.type type)
    · exact Nat.lt_of_lt_of_le below (program.le_bound_set id (.type type))
  | _ => trivial

theorem Loads.bounded (loads : Loads declarations program ids after) (bounded : program.Bounded) :
    after.Bounded := by
  induction loads with
  | refl program => exact bounded
  | note records _ rest ih => exact ih (bounded.sameRecords records)
  | store stores records _ rest ih =>
    exact ih ((bounded.set (stores.based bounded)).sameRecords records)

theorem Loads.le_bound (loads : Loads declarations program ids after) :
    program.bound ≤ after.bound := by
  induction loads with
  | refl program => exact Nat.le_refl _
  | note records _ rest ih => rwa [bound, ← records]
  | @store before middle after id record _ stores records _ rest ih =>
    have same : middle.bound = (before.set id record).bound := congrArg Arena.bound records
    exact Nat.le_trans (same ▸ before.le_bound_set id record) ih

theorem markBuiltin_bounded (bounded : program.Bounded)
    (marked : program.markBuiltin id = .ok after) : after.Bounded := by
  obtain ⟨⟨_, type⟩, _, marked⟩ := Except.bind_ok.mp marked
  obtain ⟨found, stored, rfl⟩ := modify_ok.mp marked
  have kept (var : Variable) : (program.set id (.variable var)).Bounded := bounded.set trivial
  exact (kept _).sameRecords rfl

theorem markBuiltin_le_bound (marked : program.markBuiltin id = .ok after) :
    program.bound ≤ after.bound := by
  obtain ⟨⟨_, type⟩, _, marked⟩ := Except.bind_ok.mp marked
  obtain ⟨found, stored, rfl⟩ := modify_ok.mp marked
  exact program.le_bound_set id (.variable _)

theorem ofModule_marks (loaded : ofModule m = .ok program) : ∃ defined : Program, defined.Bounded ∧
      (defined.vars.map (·.1)).foldlM markBuiltin defined = .ok program := by
  obtain ⟨defined, ⟨ids, _, loads⟩, marking⟩ := ofModule_loads loaded
  have start : (empty (max (m.bound.getD 0) m.leastBound)).Bounded := by
    refine ⟨fun id record found => ?_, .nil⟩
    cases found
  exact ⟨defined, loads.bounded start, marking⟩

theorem ofModule_bounded (loaded : ofModule m = .ok program) : program.Bounded := by
  obtain ⟨defined, bounded, marking⟩ := ofModule_marks loaded
  exact foldlM_keeps (fun _ _ _ => markBuiltin_bounded) bounded marking

theorem ofModule_results_below (loaded : ofModule m = .ok program) (result : id ∈ m.results) :
    id < program.bound := by
  obtain ⟨defined, ⟨ids, _, loads⟩, marking⟩ := ofModule_loads loaded
  have least : id < m.leastBound := m.lt_leastBound result
  have grown : defined.bound ≤ program.bound :=
    foldlM_keeps (fun _ _ _ below marked => Nat.le_trans below (markBuiltin_le_bound marked))
      (Nat.le_refl _) marking
  have start : max (m.bound.getD 0) m.leastBound ≤ defined.bound := loads.le_bound
  have counted : m.leastBound ≤ program.bound := by omega
  exact Nat.lt_of_lt_of_le least counted

theorem Bounded.mem_collect (bounded : program.Bounded) {found : α} :
    (id, found) ∈ program.collect select ↔ (program.record? id).bind select = some found := by
  have entries (record : Record) :
      (id, record) ∈ program.records.toList ↔ program.record? id = some record :=
    Assoc.mem_entries bounded.distinct
  simp only [collect, List.mem_filterMap, Prod.exists, Option.map_eq_some_iff, Prod.mk.injEq,
    Option.bind_eq_some_iff]
  constructor
  · rintro ⟨_, record, listed, _, selected, rfl, rfl⟩
    exact ⟨record, (entries record).mp listed, selected⟩
  · rintro ⟨record, stored, selected⟩
    exact ⟨id, record, (entries record).mpr stored, found, selected, rfl, rfl⟩

theorem Bounded.nodup_collect (bounded : program.Bounded) :
    ((program.collect select).map (·.1)).Nodup := by
  refine List.Nodup.sublist ?_ bounded.distinct
  unfold collect Assoc.keys Arena.toList
  induction program.records.items.entries with
  | nil => exact .slnil
  | cons entry rest ih =>
    cases selected : select entry.2 with
    | none => simpa [selected] using ih.cons entry.1
    | some found => simpa [selected] using ih.cons_cons entry.1

theorem Bounded.mem_vars (bounded : program.Bounded) :
    (id, var) ∈ program.vars ↔ program.variableAt? id = some var := bounded.mem_collect

/-- Programs that differ in which variables are builtins only. -/
structure SameData (before after : Program) : Prop where
  types : ∀ id, after.typeAt? id = before.typeAt? id
  vars : ∀ id, (after.variableAt? id).map (·.type) = (before.variableAt? id).map (·.type)

theorem SameData.trans {first second third : Program} (left : SameData first second)
    (right : SameData second third) : SameData first third :=
  ⟨fun id => (right.types id).trans (left.types id), fun id => (right.vars id).trans (left.vars id)⟩

theorem SameData.dataType_ok {data : Id × ValueType} (same : SameData program after)
    (typed : program.dataType id = .ok data) : after.dataType id = .ok data := by
  have getType {id : Id} {type : ValueType} (found : program.getType id = .ok type) :
      after.getType id = .ok type := getType_ok.mpr ((same.types id).trans (getType_ok.mp found))
  obtain ⟨var, found, pointed⟩ := Except.bind_ok.mp typed
  have kept := same.vars id
  rw [getVariable_ok.mp found, Option.map_some] at kept
  obtain ⟨var', stored, here⟩ := Option.map_eq_some_iff.mp kept
  refine Except.bind_ok.mpr ⟨var', getVariable_ok.mpr stored, ?_⟩
  rw [here]
  exact pointee_mono getType pointed

theorem markBuiltin_sameData (marked : program.markBuiltin id = .ok after) :
    SameData program after ∧ ∃ data, program.dataType id = .ok data := by
  obtain ⟨⟨data, type⟩, typed, marked⟩ := Except.bind_ok.mp marked
  obtain ⟨found, stored, rfl⟩ := modify_ok.mp marked
  have stored : program.variableAt? id = some found := stored
  rw [variableAt?_some] at stored
  have written (var : Variable) (other : Id) :
      Program.record? { program with records := program.records.set id (.variable var) } other =
        if other = id then some (.variable var) else program.record? other := Assoc.find?_insert ..
  refine ⟨⟨fun other => ?_, fun other => ?_⟩, _, typed⟩
  · unfold typeAt?
    rw [written]
    split
    · rename_i same
      rw [same, stored]
      rfl
    · rfl
  · unfold variableAt?
    rw [written]
    split
    · rename_i same
      rw [same, stored]
      rfl
    · rfl

theorem markBuiltins_typed (marked : ids.foldlM markBuiltin program = .ok after) :
    SameData program after ∧ ∀ id ∈ ids, ∃ data, after.dataType id = .ok data := by
  induction ids generalizing program with
  | nil =>
    cases marked
    exact ⟨⟨fun _ => rfl, fun _ => rfl⟩, by simp⟩
  | cons id rest ih =>
    rw [List.foldlM_cons] at marked
    obtain ⟨middle, first, marked⟩ := Except.bind_ok.mp marked
    obtain ⟨same, data, typed⟩ := markBuiltin_sameData first
    obtain ⟨same', others⟩ := ih marked
    refine ⟨same.trans same', fun other listed => ?_⟩
    rcases List.mem_cons.mp listed with rfl | listed
    · exact ⟨data, (same.trans same').dataType_ok typed⟩
    · exact others other listed

theorem ofModule_typed (loaded : ofModule m = .ok program)
    (stored : program.variableAt? id = some var) :
    ∃ data, program.dataType id = .ok data := by
  obtain ⟨defined, bounded, marking⟩ := ofModule_marks loaded
  obtain ⟨same, typed⟩ := markBuiltins_typed marking
  have known := same.vars id
  rw [stored, Option.map_some] at known
  obtain ⟨var', stored', _⟩ := Option.map_eq_some_iff.mp known.symm
  exact typed id (List.mem_map.mpr ⟨_, bounded.mem_vars.mpr stored', rfl⟩)

end Program

end SpirvMetal
