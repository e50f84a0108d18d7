import SpirvMetal.Proofs.Emit.Frame
import SpirvMetal.Proofs.Store.Fresh

/-!
How a program grows.
-/

namespace SpirvMetal

variable {κ α : Type}

theorem Assoc.mem_keys [DecidableEq κ] {map : Assoc κ α} {key : κ} {value : α}
    (found : map.find? key = some value) : key ∈ map.keys := by
  obtain ⟨entries⟩ := map
  simp only [find?, keys] at found ⊢
  induction entries with
  | nil => cases found
  | cons entry rest ih =>
    rw [read] at found
    split at found
    · rename_i same
      simp [same]
    · exact List.mem_cons_of_mem _ (ih found)

theorem Assoc.nodup_keys_insert [DecidableEq κ] {map : Assoc κ α} (distinct : map.keys.Nodup)
    (key : κ) (value : α) : (map.insert key value).keys.Nodup := by
  rw [keys_insert]
  split
  · exact distinct
  · rename_i fresh
    exact List.nodup_append.mpr ⟨distinct, by simp, by grind⟩

/-- The identity of a type lies below a bound. -/
def Record.BasedBelow (bound : Nat) : Record → Prop
  | .type found => found.baseId < bound
  | _ => True

theorem Record.BasedBelow.mono {record : Record} {low high : Nat} (based : record.BasedBelow low)
    (le : low ≤ high) : record.BasedBelow high := by
  cases record with
  | type found => exact Nat.lt_of_lt_of_le based le
  | _ => trivial

def Record.mapFunction (view : Function → Function) : Record → Record
  | .function found => .function (view found)
  | record => record

namespace Program

variable {program before middle after : Program} {id other : Nat} {record : Record}
variable {α : Type} {select : Record → Option α} {data : Id × ValueType} {lookup : Lookup}
  {type : ValueType} {var : Variable} {function : Function}
  {change : Function → Function}

theorem expect_ok {found : α} :
    program.expect lookup select id = .ok found ↔
      (program.record? id).bind select = some found := by
  unfold expect
  cases program.record? id with
  | none => simp
  | some record => cases selected : select record <;> simp [selected]

theorem getType_ok : program.getType id = .ok type ↔ program.typeAt? id = some type := expect_ok

theorem getVariable_ok :
    program.getVariable id = .ok var ↔ program.variableAt? id = some var := expect_ok

theorem getFunction_ok :
    program.getFunction id = .ok function ↔ program.functionAt? id = some function := expect_ok

theorem typeAt?_some : program.typeAt? id = some type ↔ program.record? id = some (.type type) := by
  unfold typeAt?
  cases program.record? id with
  | none => simp
  | some record => cases record <;> simp [Record.asType?]

theorem variableAt?_some :
    program.variableAt? id = some var ↔ program.record? id = some (.variable var) := by
  unfold variableAt?
  cases program.record? id with
  | none => simp
  | some record => cases record <;> simp [Record.asVariable?]

theorem functionAt?_some :
    program.functionAt? id = some function ↔ program.record? id = some (.function function) := by
  unfold functionAt?
  cases program.record? id with
  | none => simp
  | some record => cases record <;> simp [Record.asFunction?]

theorem record?_set (program : Program) (id other : Nat) (record : Record) :
    (program.set id record).record? other =
      if other = id then some record else program.record? other :=
  Assoc.find?_insert ..

theorem le_bound_set (program : Program) (id : Nat) (record : Record) :
    program.bound ≤ (program.set id record).bound :=
  (program.records.bound_le_set id record).1

theorem lt_bound_set (program : Program) (id : Nat) (record : Record) :
    id < (program.set id record).bound :=
  (program.records.bound_le_set id record).2

theorem modify_ok {kind : RecordKind} {wrap : α → Record} {change : α → α} :
    program.modify kind select wrap id change = .ok after ↔
      ∃ found, (program.record? id).bind select = some found ∧
        { program with records := program.records.set id (wrap (change found)) } = after := by
  simp [modify, Except.bind_ok, expect_ok, pure, Except.pure]

theorem modifyFunction_ok (changed : program.modifyFunction id change = .ok after) :
    ∃ found, program.functionAt? id = some found ∧ after.notes = program.notes ∧
      program.bound ≤ after.bound ∧ id < after.bound ∧
      ∀ other, after.record? other =
        if other = id then some (.function (change found)) else program.record? other := by
  obtain ⟨found, stored, rfl⟩ := modify_ok.mp changed
  exact ⟨found, stored, rfl, program.le_bound_set id (.function (change found)),
    program.lt_bound_set id (.function (change found)), fun other => Assoc.find?_insert ..⟩

theorem find_modifyFunction (changed : program.modifyFunction id change = .ok after)
    (blind : ∀ function, select (.function function) = none) (other : Nat) :
    (after.record? other).bind select = (program.record? other).bind select := by
  obtain ⟨found, stored, _, _, _, records⟩ := modifyFunction_ok changed
  rw [records]
  split
  · rename_i same
    rw [same, functionAt?_some.mp stored]
    simp [blind]
  · rfl

theorem expect_modifyFunction (changed : program.modifyFunction id change = .ok after)
    (blind : ∀ function, select (.function function) = none) (other : Nat) :
    after.expect lookup select other = program.expect lookup select other := by
  obtain ⟨found, stored, _, _, _, records⟩ := modifyFunction_ok changed
  unfold expect
  rw [records]
  by_cases same : other = id
  · rw [if_pos same, same, functionAt?_some.mp stored]
    simp only [blind]
    rfl
  · rw [if_neg same]

theorem getType_of_pointee {id data : Id} (pointed : program.pointee id = .ok (data, type)) :
    program.getType data = .ok type := by
  obtain ⟨_, pointing, pointed⟩ := Except.bind_ok.mp pointed
  split at pointed
  · obtain ⟨_, reading, pointed⟩ := Except.bind_ok.mp pointed
    cases pointed
    exact reading
  · cases pointed
    exact pointing

theorem pointee_mono {id : Id}
    (types : ∀ {id type}, before.getType id = .ok type → after.getType id = .ok type)
    (pointed : before.pointee id = .ok data) : after.pointee id = .ok data := by
  obtain ⟨type, pointing, pointed⟩ := Except.bind_ok.mp pointed
  refine Except.bind_ok.mpr ⟨type, types pointing, ?_⟩
  split at pointed
  · obtain ⟨pointee, reading, pointed⟩ := Except.bind_ok.mp pointed
    exact Except.bind_ok.mpr ⟨pointee, types reading, pointed⟩
  · exact pointed

theorem getType_of_dataType {var data : Id} (typed : program.dataType var = .ok (data, type)) :
    program.getType data = .ok type := by
  obtain ⟨_, _, pointed⟩ := Except.bind_ok.mp typed
  exact getType_of_pointee pointed

def setAll (program : Program) (id : Nat) : List Record → Program
  | [] => program
  | record :: rest => (program.set id record).setAll (id + 1) rest

theorem constantWord?_eq (program : Program) (id : Id) :
    program.constantWord? id = (program.constantAt? id).bind (·.word?) := by
  unfold constantWord? constantWord getConstant expect constantAt?
  cases program.record? id with
  | none => rfl
  | some record =>
    cases record with
    | constant found =>
      simp only [Record.asConstant?, Option.bind_some, bind, Except.bind]
      cases found.word? <;> rfl
    | _ => rfl

theorem dimensionLength_congr (same : ∀ id, after.constantAt? id = before.constantAt? id) :
    after.dimensionLength = before.dimensionLength := by
  funext dimension
  cases dimension with
  | literal count => rfl
  | spec constant =>
    rw [dimensionLength, dimensionLength, constantWord?_eq, constantWord?_eq, same]

theorem elementCount_pos (program : Program) (dimensions : List Dimension) :
    0 < program.elementCount dimensions := by
  have grows (count : Nat) (some : 0 < count) : 0 < dimensions.foldl
      (fun count dimension => count * max (program.dimensionLength dimension) 1) count := by
    induction dimensions generalizing count with
    | nil => exact some
    | cons first rest ih => exact ih _ (Nat.mul_pos some (by omega))
  exact grows 1 (by omega)

/-- All records, and the identities of types, lie below the bound; no id is listed twice. -/
structure Bounded (program : Program) : Prop where
  below : ∀ (id : Nat) (record : Record), program.record? id = some record →
    id < program.bound ∧ record.BasedBelow program.bound
  distinct : program.records.items.keys.Nodup

theorem Bounded.of_records (bounded : before.Bounded) (bound : before.bound ≤ after.bound)
    (stored : ∀ (id : Nat) record, after.record? id = some record →
      before.record? id = some record ∨ id < after.bound ∧ record.BasedBelow after.bound)
    (distinct : after.records.items.keys.Nodup) : after.Bounded := by
  refine ⟨fun id record found => ?_, distinct⟩
  rcases stored id record found with old | new
  · have ⟨below, based⟩ := bounded.below id record old
    exact ⟨Nat.lt_of_lt_of_le below bound, based.mono bound⟩
  · exact new

section

variable (bounded : program.Bounded)

include bounded

theorem Bounded.set (based : record.BasedBelow (program.set id record).bound) :
    (program.set id record).Bounded := by
  refine bounded.of_records (program.le_bound_set id record) (fun other stored found => ?_)
    (Assoc.nodup_keys_insert bounded.distinct id record)
  rw [record?_set] at found
  split at found
  · rename_i same
    subst same
    cases found
    exact .inr ⟨program.lt_bound_set other record, based⟩
  · exact .inl found

theorem Bounded.type_below (found : program.typeAt? id = some type) :
    id < program.bound ∧ type.baseId < program.bound :=
  bounded.below id _ (typeAt?_some.mp found)

theorem Bounded.variable_below (found : program.variableAt? id = some var) : id < program.bound :=
  (bounded.below id _ (variableAt?_some.mp found)).1

theorem Bounded.function_below
    (found : program.functionAt? id = some function) : id < program.bound :=
  (bounded.below id _ (functionAt?_some.mp found)).1

theorem Bounded.modifyFunction
    (changed : program.modifyFunction id change = .ok after) : after.Bounded := by
  obtain ⟨found, _, rfl⟩ := modify_ok.mp changed
  have stored : (program.set id (.function (change found))).Bounded := bounded.set trivial
  exact ⟨stored.below, stored.distinct⟩

end

/-- What is stored in a program is stored in another as well. Of functions only a view is kept. -/
structure Extends (view : Function → Function) (before after : Program) : Prop where
  bound : before.bound ≤ after.bound
  records : ∀ id < before.bound, (after.record? id).map (·.mapFunction view) =
    (before.record? id).map (·.mapFunction view)
  bounded : before.Bounded → after.Bounded

namespace Extends

variable {view : Function → Function}

theorem of_records_eq (same : after.records = before.records) : Extends view before after where
  bound := Nat.le_of_eq (by rw [Program.bound, Program.bound, same])
  records id _ := by rw [record?, record?, same]
  bounded bounded := by
    refine ⟨fun id record found => ?_, by rw [same]; exact bounded.distinct⟩
    rw [record?, same] at found
    rw [Program.bound, same]
    exact bounded.below id record found

theorem refl (program : Program) : Extends view program program := of_records_eq rfl

theorem trans (first : Extends view before middle) (second : Extends view middle after) :
    Extends view before after where
  bound := Nat.le_trans first.bound second.bound
  records id below :=
    (second.records id (Nat.lt_of_lt_of_le below first.bound)).trans (first.records id below)
  bounded bounded := second.bounded (first.bounded bounded)

theorem record?_eq (growth : Extends (fun function => function) before after)
    (below : id < before.bound) : after.record? id = before.record? id := by
  have whole : (·.mapFunction fun function => function) = fun record : Record => record := by
    funext record
    cases record <;> rfl
  have same := growth.records id below
  simpa only [whole, Option.map_id_fun', id_eq] using same

theorem blur (growth : Extends (fun function => function) before after) :
    Extends view before after :=
  ⟨growth.bound, fun _ below => by rw [growth.record?_eq below], growth.bounded⟩

theorem reserve (program : Program) (count : Nat) :
    Extends view program (program.reserve count).2 where
  bound := Nat.le_add_right ..
  records _ _ := rfl
  bounded bounded :=
    bounded.of_records (Nat.le_add_right ..) (fun _ _ found => .inl found) bounded.distinct

theorem thenSet (growth : Extends view before after) (fresh : before.bound ≤ id)
    (based : record.BasedBelow (after.set id record).bound) :
    Extends view before (after.set id record) where
  bound := Nat.le_trans growth.bound (after.le_bound_set id record)
  records other below := by
    have differ : other ≠ id := by omega
    rw [record?_set, if_neg differ]
    exact growth.records other below
  bounded bounded := (growth.bounded bounded).set based

theorem thenSetAll (growth : Extends view before after) (fresh : before.bound ≤ id)
    {records : List Record} (based : ∀ record ∈ records, record.BasedBelow after.bound) :
    Extends view before (after.setAll id records) := by
  induction records generalizing after id with
  | nil => exact growth
  | cons record rest ih =>
    have grown := after.le_bound_set id record
    have stored : Extends view before (after.set id record) :=
      growth.thenSet fresh ((based record (by simp)).mono grown)
    exact ih stored (by omega) fun other member => (based other (by simp [member])).mono grown

theorem thenNotes {next : Program} (growth : Extends view before after)
    (same : next.records = after.records) : Extends view before next :=
  growth.trans (of_records_eq same)

theorem modifyFunction {change : Function → Function}
    (kept : ∀ function, view (change function) = view function)
    (changed : program.modifyFunction id change = .ok after) : Extends view program after where
  bound := by
    obtain ⟨_, _, _, grown, _⟩ := modifyFunction_ok changed
    exact grown
  records other _ := by
    obtain ⟨found, stored, _, _, _, records⟩ := modifyFunction_ok changed
    rw [records]
    split
    · rename_i same
      rw [same, functionAt?_some.mp stored]
      simp [Record.mapFunction, kept]
    · rfl
  bounded bounded := bounded.modifyFunction changed

theorem find_eq (growth : Extends view before after) (below : id < before.bound)
    (blind : ∀ record, select (record.mapFunction view) = select record) :
    (after.record? id).bind select = (before.record? id).bind select := by
  have seen (found : Option Record) :
      found.bind select = (found.map (·.mapFunction view)).bind select := by
    cases found <;> simp [blind]
  rw [seen (after.record? id), growth.records id below, ← seen]

section

variable (growth : Extends view before after)

include growth

theorem typeAt?_eq (below : id < before.bound) : after.typeAt? id = before.typeAt? id :=
  growth.find_eq below fun record => by cases record <;> rfl

theorem variableAt?_eq (below : id < before.bound) : after.variableAt? id = before.variableAt? id :=
  growth.find_eq below fun record => by cases record <;> rfl

theorem functionAt?_eq (below : id < before.bound) :
    (after.functionAt? id).map view = (before.functionAt? id).map view := by
  have seen (program : Program) : (program.functionAt? id).map view =
      ((program.record? id).map (·.mapFunction view)).bind Record.asFunction? := by
    unfold functionAt?
    cases program.record? id with
    | none => rfl
    | some record => cases record <;> rfl
  rw [seen, growth.records id below, ← seen]

theorem dataType_ok (bounded : before.Bounded) (typed : before.dataType id = .ok data) :
    after.dataType id = .ok data := by
  have getType {id : Id} {type : ValueType} (found : before.getType id = .ok type) :
      after.getType id = .ok type := by
    have stored := getType_ok.mp found
    exact getType_ok.mpr ((growth.typeAt?_eq (bounded.type_below stored).1).trans stored)
  obtain ⟨var, found, pointed⟩ := Except.bind_ok.mp typed
  have stored := getVariable_ok.mp found
  have found : after.getVariable id = .ok var :=
    getVariable_ok.mpr ((growth.variableAt?_eq (bounded.variable_below stored)).trans stored)
  exact Except.bind_ok.mpr ⟨var, found, pointee_mono getType pointed⟩

end

end Extends

end Program

end SpirvMetal
