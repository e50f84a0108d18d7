import SpirvMetal.Proofs.Threading.Survey

/-!
The parameters that functions get. A global becomes one parameter that stands for it; a block of
builtins becomes one for each of its active members.
-/

namespace SpirvMetal

open Program Compiler Option
open Spirv (BuiltIn StorageClass)

/-- A function without what may still change once the entry point has been surveyed. -/
def Function.code (function : Function) : Function :=
  { function with parameters := [], fixupsIn := [] }

namespace Program

variable {program before after : Program} {id other : Id}
variable {pointer : ValueType} {decorations : Decorations} {global : Id} {var : Variable}

def parameters? (program : Program) (function : Id) : Option (List Parameter) :=
  (program.functionAt? function).map (·.parameters)

theorem builtin?_eq (same : after.notes? id = before.notes? id) :
    after.builtin? id = before.builtin? id := by
  simp only [builtin?, decorations, decorations?, same]

theorem memberBuiltin?_eq (same : after.notes? id = before.notes? id) (member : Nat) :
    after.memberBuiltin? id member = before.memberBuiltin? id member := by
  simp only [memberBuiltin?, memberDecorations_eq_member?, same]

theorem builtin?_setName (program : Program) (id other : Id) (name : String) :
    (program.setName id name).builtin? other = program.builtin? other :=
  view_modifyOwn Decorations.builtin? (fun _ => by rfl) program id other

theorem memberBuiltin?_setName (program : Program) (id other : Id) (name : String) (member : Nat) :
    (program.setName id name).memberBuiltin? other member = program.memberBuiltin? other member :=
  (program.alike_setName id name).memberBuiltin?_eq other member

/-- A new variable that refers to something of a type, which is new as well. -/
def withReference (program : Program) (pointer : ValueType) (decorations : Decorations) : Program :=
  let typed := (program.reserve 2).2.set program.bound (.type pointer)
  (typed.set (program.bound + 1)
    (.variable { type := program.bound, storage := .function, builtin := true })).modifyOwn
      (program.bound + 1) fun _ => decorations

def withStandIn (program : Program) (global : Id) (var : Variable) : Program :=
  let named := program.setName global (Name.avoidTemporary (program.plainName global) "v")
  let notes := (named.notes? global).getD {}
  ((named.reserve 1).2.set program.bound
    (.variable
      { type := var.type, storage := .function, builtin := var.builtin,
        base := some global })).modifyNotes program.bound fun _ =>
      { notes with own := { notes.own with standIn := none } }

variable {view : Function → Function}

theorem withReference_extends (based : pointer.baseId < program.bound) :
    program.Extends view (program.withReference pointer decorations) := by
  have grown := (program.reserve 2).2.le_bound_set program.bound (.type pointer)
  have typed : program.Extends view ((program.reserve 2).2.set program.bound (.type pointer)) :=
    (Extends.reserve program 2).thenSet (Nat.le_refl _)
      (Nat.lt_of_lt_of_le (Nat.lt_of_lt_of_le based (Nat.le_add_right ..)) grown)
  have stored (var : Variable) : program.Extends view
      (((program.reserve 2).2.set program.bound (.type pointer)).set (program.bound + 1)
        (.variable var)) := typed.thenSet (Nat.le_succ _) trivial
  exact (stored _).thenNotes rfl

theorem withReference_notes {id : Nat} (below : id < program.bound) :
    (program.withReference pointer decorations).notes? id = program.notes? id := by
  have differ : id ≠ program.bound + 1 := by omega
  unfold withReference modifyOwn
  rw [notes?_modifyNotes, if_neg differ]
  rfl

theorem withStandIn_extends : program.Extends view (program.withStandIn global var) := by
  have named : program.Extends view
      (program.setName global (Name.avoidTemporary (program.plainName global) "v")) :=
    .of_records_eq rfl
  have stored (var : Variable) := (named.trans (.reserve _ 1)).thenSet (Nat.le_refl program.bound)
    (show (Record.variable var).BasedBelow _ from trivial)
  exact (stored _).thenNotes rfl

theorem withStandIn_notes {id : Nat} (below : id < program.bound) :
    (program.withStandIn global var).notes? id =
      (program.setName global (Name.avoidTemporary (program.plainName global) "v")).notes? id := by
  have differ : id ≠ program.bound := by omega
  unfold withStandIn
  rw [notes?_modifyNotes, if_neg differ]
  rfl

theorem variableAt?_withStandIn (program : Program) (global : Id) (var : Variable) :
    (program.withStandIn global var).variableAt? program.bound = some
      { type := var.type, storage := .function, builtin := var.builtin, base := some global } := by
  rw [variableAt?_some]
  exact (record?_set ..).trans (if_pos rfl)

end Program

namespace Compiler

variable {first second third c c' : Compiler} {function : Id} {added : Id → List Parameter}
variable {storage : StorageClass}

/-- Functions have got new parameters, behind those that they had; the rest is found as it was. -/
structure Threads (added : Id → List Parameter) (before after : Compiler) : Prop where
  program : before.program.Extends Function.code after.program
  parameters : ∀ id < before.program.bound,
    after.program.parameters? id = (before.program.parameters? id).map (· ++ added id)
  builtins : ∀ id < before.program.bound, after.program.builtin? id = before.program.builtin? id
  memberBuiltins : ∀ id < before.program.bound, ∀ member,
    after.program.memberBuiltin? id member = before.program.memberBuiltin? id member
  activeBuiltins : after.plan.activeBuiltins = before.plan.activeBuiltins
  callGraph : after.plan.callGraph = before.plan.callGraph
  entry : after.plan.entry = before.plan.entry
  session : after.session = before.session

def only (function : Id) (parameters : List Parameter) (other : Id) : List Parameter :=
  if other = function then parameters else []

theorem only_nil (function : Id) : only function [] = fun _ => [] := by
  funext other
  simp [only]

theorem only_append (function : Id) (front back : List Parameter) : only function (front ++ back) =
      fun other => only function front other ++ only function back other := by
  funext other
  unfold only
  split <;> simp

namespace Threads

variable {program : Program}

theorem refl (c : Compiler) : Threads (fun _ => []) c c :=
  ⟨.refl _, by simp, fun _ _ => rfl, fun _ _ _ => rfl, rfl, rfl, rfl, rfl⟩

theorem append {more : Id → List Parameter} (left : Threads added first second)
    (right : Threads more second third) : Threads (fun id => added id ++ more id) first third where
  program := left.program.trans right.program
  parameters id below := by
    rw [right.parameters id (Nat.lt_of_lt_of_le below left.program.bound),
      left.parameters id below, map_map]
    exact congrArg (Option.map · _) (funext fun _ => List.append_assoc ..)
  builtins id below :=
    (right.builtins id (Nat.lt_of_lt_of_le below left.program.bound)).trans (left.builtins id below)
  memberBuiltins id below member :=
    (right.memberBuiltins id (Nat.lt_of_lt_of_le below left.program.bound) member).trans
      (left.memberBuiltins id below member)
  activeBuiltins := right.activeBuiltins.trans left.activeBuiltins
  callGraph := right.callGraph.trans left.callGraph
  entry := right.entry.trans left.entry
  session := right.session.trans left.session

theorem declare (growth : c.program.Extends id program)
    (builtins : ∀ id < c.program.bound, program.builtin? id = c.program.builtin? id)
    (memberBuiltins : ∀ id < c.program.bound, ∀ member,
      program.memberBuiltin? id member = c.program.memberBuiltin? id member) :
    Threads (fun _ => []) c { c with program } where
  program := by
    refine ⟨growth.bound, fun other below => ?_, growth.bounded⟩
    have same := growth.records other below
    have whole (record : Record) : record.mapFunction id = record := by cases record <;> rfl
    simp only [whole, map_id'] at same
    rw [same]
  parameters other below := by
    have same := growth.functionAt?_eq below
    rw [map_id, id, id] at same
    simp only [Program.parameters?, same, List.append_nil, map_id']
  builtins := builtins
  memberBuiltins := memberBuiltins
  activeBuiltins := rfl
  callGraph := rfl
  entry := rfl
  session := rfl

theorem reference {pointer : ValueType} {d : Decorations}
    (based : pointer.baseId < c.program.bound) :
    Threads (fun _ => []) c { c with program := c.program.withReference pointer d } :=
  declare (withReference_extends based)
    (fun _ below => Program.builtin?_eq (withReference_notes below))
    fun _ below => Program.memberBuiltin?_eq (withReference_notes below)

theorem standIn {global : Id} {var : Variable} :
    Threads (fun _ => []) c { c with program := c.program.withStandIn global var } :=
  declare withStandIn_extends
    (fun _ below =>
      (Program.builtin?_eq (withStandIn_notes below)).trans (Program.builtin?_setName ..))
    fun _ below member =>
      (Program.memberBuiltin?_eq (withStandIn_notes below) member).trans
        (Program.memberBuiltin?_setName ..)

theorem modifyFunction {change : Function → Function} {parameters : List Parameter}
    (kept : ∀ found, (change found).code = found.code)
    (grown : ∀ found, (change found).parameters = found.parameters ++ parameters)
    (changed : c.program.modifyFunction function change = .ok program) :
    Threads (only function parameters) c { c with program } := by
  obtain ⟨found, stored, notes, _, _, records⟩ := modifyFunction_ok changed
  have same (id : Id) : program.notes? id = c.program.notes? id := by
    rw [Program.notes?, notes, Program.notes?]
  refine ⟨Program.Extends.modifyFunction kept changed, fun other below => ?_,
    fun id _ => Program.builtin?_eq (same id), fun id _ => Program.memberBuiltin?_eq (same id), rfl,
    rfl, rfl, rfl⟩
  rw [Program.functionAt?_some] at stored
  simp only [Program.parameters?, Program.functionAt?, records]
  by_cases target : other = function
  · subst target
    simp [stored, Record.asFunction?, only, grown]
  · simp [target, only]

theorem addParameter {parameter : Parameter}
    (changed : c.program.modifyFunction function (·.addParameter parameter) = .ok program) :
    Threads (only function [parameter]) c { c with program } :=
  modifyFunction (fun _ => by rfl) (fun _ => by rfl) changed

end Threads

instance : Std.Refl (Threads fun _ => []) := ⟨.refl⟩

instance : IsTrans Compiler (Threads fun _ => []) :=
  ⟨fun _ _ _ left right => left.append right⟩

/-- The member of a block of builtins that functions receive, if the entry point uses it: its type
and the builtin. -/
def activeMember (c : Compiler) (storage : StorageClass) (block : Id) (member : Id × Nat) :
    Option (Id × BuiltIn) :=
  ((c.program.memberBuiltin? block member.2).filter
    (c.plan.activeBuiltins.isActive · storage)).map (member.1, ·)

/-- A parameter for a member of a block: a reference to a builtin that has no base. -/
structure StandsForMember (c : Compiler) (storage : StorageClass) (member : Id × BuiltIn)
    (parameter : Parameter) : Prop where
  threaded : parameter.threaded = true
  carries : c.program.variableAt? parameter.id =
    some { type := parameter.type, storage := .function, builtin := true }
  builtin : c.program.builtin? parameter.id = some member.2
  type : ∃ pointee, c.program.typeAt? member.1 = some pointee ∧
    c.program.typeAt? parameter.type = some (pointee.pointerTo member.1 storage)

/-- The parameters that bring a global into a function. -/
inductive Stands (c : Compiler) (global : Id) : List Parameter → Prop
  | single {var : Variable} {target : Id} {data : ValueType} {parameter : Parameter}
      (stored : c.program.variableAt? global = some var)
      (typed : c.program.dataType global = .ok (target, data))
      (plain : (var.builtin && data.isStruct) = false)
      (threaded : parameter.threaded = true) (type : parameter.type = var.type)
      (carries : c.program.variableAt? parameter.id = some
        { type := var.type, storage := .function, builtin := var.builtin, base := some global }) :
      Stands c global [parameter]
  | block {var : Variable} {target : Id} {data : ValueType} {parameters : List Parameter}
      (stored : c.program.variableAt? global = some var)
      (typed : c.program.dataType global = .ok (target, data))
      (block : (var.builtin && data.isStruct) = true)
      (members : List.Forall₂ (c.StandsForMember var.storage)
        (data.members.zipIdx.filterMap (c.activeMember var.storage data.baseId)) parameters) :
      Stands c global parameters

theorem Threads.activeMember_eq (threads : Threads added c c') {block : Nat}
    (below : block < c.program.bound) (storage : StorageClass) :
    c'.activeMember storage block = c.activeMember storage block := by
  funext member
  rw [activeMember, activeMember, threads.memberBuiltins block below, threads.activeBuiltins]

theorem StandsForMember.mono {member : Id × BuiltIn} {parameter : Parameter}
    (stands : c.StandsForMember storage member parameter) (bounded : c.program.Bounded)
    (threads : Threads added c c') : c'.StandsForMember storage member parameter := by
  have below := bounded.variable_below stands.carries
  obtain ⟨pointee, stored, pointing⟩ := stands.type
  exact {
    threaded := stands.threaded
    carries := (threads.program.variableAt?_eq below).trans stands.carries
    builtin := (threads.builtins _ below).trans stands.builtin
    type := ⟨pointee, (threads.program.typeAt?_eq (bounded.type_below stored).1).trans stored,
      (threads.program.typeAt?_eq (bounded.type_below pointing).1).trans pointing⟩ }

theorem standsForMember_reference {type : Id} {builtin : BuiltIn} {pointee : ValueType}
    {decorations : Decorations} (bounded : c.program.Bounded)
    (typed : c.program.typeAt? type = some pointee)
    (declared : decorations.builtin? = some builtin) :
    StandsForMember
      { c with program := c.program.withReference (pointee.pointerTo type storage) decorations }
      storage (type, builtin)
      { id := c.program.bound + 1, type := c.program.bound, threaded := true } where
  threaded := rfl
  carries := by
    rw [Program.variableAt?_some]
    exact (Program.record?_set ..).trans (if_pos rfl)
  builtin := by
    unfold Program.builtin? Program.withReference
    rw [decorations_modifyOwn, if_pos rfl]
    exact declared
  type := by
    have based : (pointee.pointerTo type storage).baseId < c.program.bound :=
      (bounded.type_below typed).2
    have growth : c.program.Extends id
        (c.program.withReference (pointee.pointerTo type storage) decorations) :=
      withReference_extends based
    refine ⟨pointee, (growth.typeAt?_eq (bounded.type_below typed).1).trans typed, ?_⟩
    rw [Program.typeAt?_some]
    refine (Program.record?_set ..).trans ((if_neg (Nat.succ_ne_self _).symm).trans ?_)
    exact (Program.record?_set ..).trans (if_pos rfl)

theorem baseId_below {global target : Id} {data : ValueType} (bounded : c.program.Bounded)
    (typed : c.program.dataType global = .ok (target, data)) : data.baseId < c.program.bound :=
  (bounded.type_below (getType_ok.mp (getType_of_dataType typed))).2

theorem Stands.mono {global : Id} {parameters : List Parameter}
    (stands : c.Stands global parameters) (bounded : c.program.Bounded)
    (threads : Threads added c c') : c'.Stands global parameters := by
  cases stands with
  | @single var target data parameter stored typed plain threaded type carries =>
    exact .single
      ((threads.program.variableAt?_eq (bounded.variable_below stored)).trans stored)
      (threads.program.dataType_ok bounded typed) plain threaded type
      ((threads.program.variableAt?_eq (bounded.variable_below carries)).trans carries)
  | @block var target data _ stored typed block members =>
    refine .block
      ((threads.program.variableAt?_eq (bounded.variable_below stored)).trans stored)
      (threads.program.dataType_ok bounded typed) block ?_
    rw [threads.activeMember_eq (baseId_below bounded typed)]
    exact List.Forall₂.imp (fun _ _ stands => stands.mono bounded threads) members

end Compiler

namespace Emit

open Compiler (Threads only)

variable {c c' : Compiler} {function global : Id} {u : Unit}
variable {block : Nat} {var : Variable} {member : Id × Nat}

theorem reserve_ok {count : Nat} {first : Id} : reserve count c = .ok first c' ↔
      first = c.program.bound ∧ { c with program := (c.program.reserve count).2 } = c' := by
  unfold reserve
  constructor
  · intro done
    replace done := get_bind.mp done
    obtain ⟨_, _, stored, done⟩ := bind_ok.mp done
    obtain rfl := set_ok.mp stored
    obtain ⟨rfl, rfl⟩ := pure_ok.mp done
    exact ⟨rfl, rfl⟩
  · rintro ⟨rfl, rfl⟩
    rfl

/-- A member that functions do not receive changes nothing; for others there is a new parameter. -/
theorem threadBuiltin_cases
    (run : threadBuiltin function var block member.2 member.1 c = .ok u c') :
    c.activeMember var.storage block member = none ∧ c' = c ∨
    ∃ builtin pointee decorations program,
      c.activeMember var.storage block member = some (member.1, builtin) ∧
      c.program.typeAt? member.1 = some pointee ∧ decorations.builtin? = some builtin ∧
      (c.program.withReference (pointee.pointerTo member.1 var.storage)
        decorations).modifyFunction function (·.addParameter
          { id := c.program.bound + 1, type := c.program.bound, threaded := true }) = .ok program ∧
      c' = { c with program } := by
  replace run := get_bind.mp run
  unfold Compiler.activeMember
  cases declared : c.program.memberBuiltin? block member.2 with
  | none =>
    simp only [declared] at run
    obtain ⟨-, rfl⟩ := pure_ok.mp run
    exact .inl ⟨rfl, rfl⟩
  | some builtin =>
    simp only [declared] at run
    split at run
    · rename_i active
      obtain ⟨pointer, _, reserved, run⟩ := bind_ok.mp run
      obtain ⟨rfl, rfl⟩ := reserve_ok.mp reserved
      obtain ⟨pointee, typed, run⟩ := read_bind.mp run
      replace run := modify_bind.mp run
      replace run := modify_bind.mp run
      replace run := modify_bind.mp run
      obtain ⟨program, added, rfl⟩ := updateProgram_ok.mp run
      exact .inr ⟨builtin, pointee,
        { c.program.memberDecorations block member.2 with
          name := Builtin.name builtin, standIn := none },
        program, by simp [Option.filter, active], Program.getType_ok.mp typed, declared, added,
        rfl⟩
    · rename_i idle
      obtain ⟨-, rfl⟩ := pure_ok.mp run
      exact .inl ⟨by simp [Option.filter, idle], rfl⟩

theorem threadBuiltin_ok (bounded : c.program.Bounded)
    (run : threadBuiltin function var block member.2 member.1 c = .ok u c') :
    ∃ parameters, Threads (only function parameters) c c' ∧
      List.Forall₂ (c'.StandsForMember var.storage)
        (c.activeMember var.storage block member).toList parameters := by
  rcases threadBuiltin_cases run with
    ⟨idle, rfl⟩ | ⟨builtin, pointee, decorations, program, active, typed, declared, added, rfl⟩
  · exact ⟨[], only_nil function ▸ .refl c', by simp [idle]⟩
  · have based : (pointee.pointerTo member.1 var.storage).baseId < c.program.bound :=
      (bounded.type_below typed).2
    have declares := Threads.reference (d := decorations) based
    have adds := Threads.addParameter (c := { c with program := _ }) added
    have stands := (standsForMember_reference bounded typed declared).mono
      (declares.program.bounded bounded) adds
    refine ⟨_, declares.append adds, ?_⟩
    rw [active]
    exact .cons stands .nil

theorem threadBuiltins_ok {members : List (Id × Nat)} (bounded : c.program.Bounded)
    (below : block < c.program.bound)
    (run : members.forM (fun member => threadBuiltin function var block member.2 member.1) c =
      .ok u c') :
    ∃ parameters, Threads (only function parameters) c c' ∧
      List.Forall₂ (c'.StandsForMember var.storage)
        (members.filterMap (c.activeMember var.storage block)) parameters := by
  induction members generalizing c with
  | nil =>
    obtain ⟨-, rfl⟩ := pure_ok.mp run
    exact ⟨[], only_nil function ▸ .refl c, .nil⟩
  | cons member rest ih =>
    obtain ⟨_, middle, first, run⟩ := bind_ok.mp run
    obtain ⟨front, threads, stands⟩ := threadBuiltin_ok bounded first
    have bounded' := threads.program.bounded bounded
    obtain ⟨back, later, others⟩ :=
      ih bounded' (Nat.lt_of_lt_of_le below threads.program.bound) run
    rw [threads.activeMember_eq below] at others
    refine ⟨front ++ back, only_append function front back ▸ threads.append later, ?_⟩
    have stands : List.Forall₂ (c'.StandsForMember var.storage) _ front :=
      stands.imp fun _ _ stands => stands.mono bounded' later
    cases active : c.activeMember var.storage block member with
    | none =>
      rw [active] at stands
      cases stands
      rwa [List.filterMap_cons_none active]
    | some found =>
      rw [active] at stands
      rw [List.filterMap_cons_some active]
      exact List.rel_append stands others

theorem threadGlobal_ok (bounded : c.program.Bounded)
    (run : threadGlobal function global c = .ok u c') :
    ∃ parameters, Threads (only function parameters) c c' ∧ c'.Stands global parameters := by
  obtain ⟨var, found, run⟩ := read_bind.mp run
  obtain ⟨⟨target, data⟩, typed, run⟩ := lift_bind.mp run
  have stored := getVariable_ok.mp found
  dsimp only at run
  split at run
  · rename_i block
    simp only [forIn_eq_forM, bind_pure_unit] at run
    obtain ⟨parameters, threads, stands⟩ :=
      threadBuiltins_ok bounded (baseId_below bounded typed) run
    refine ⟨parameters, threads, .block
      ((threads.program.variableAt?_eq (bounded.variable_below stored)).trans stored)
      (threads.program.dataType_ok bounded typed) block ?_⟩
    rwa [threads.activeMember_eq (baseId_below bounded typed)]
  · rename_i plain
    replace run := modify_bind.mp run
    obtain ⟨parameter, _, reserved, run⟩ := bind_ok.mp run
    obtain ⟨rfl, rfl⟩ := reserve_ok.mp reserved
    replace run := modify_bind.mp run
    replace run := get_bind.mp run
    replace run := modify_bind.mp run
    obtain ⟨program, added, rfl⟩ := updateProgram_ok.mp run
    have declares : Threads (fun _ => []) c
        { c with program := c.program.withStandIn global var } := .standIn
    have adds :=
      Threads.addParameter (c := { c with program := c.program.withStandIn global var }) added
    have threads := declares.append adds
    have carries := Program.variableAt?_withStandIn c.program global var
    have below := (declares.program.bounded bounded).variable_below carries
    exact ⟨_, threads, .single
      ((threads.program.variableAt?_eq (bounded.variable_below stored)).trans stored)
      (threads.program.dataType_ok bounded typed) (by simpa using plain) rfl rfl
      ((adds.program.variableAt?_eq below).trans carries)⟩

theorem threadGlobals_function {globals : List Id} (bounded : c.program.Bounded)
    (run : globals.forM (threadGlobal function) c = .ok u c') :
    ∃ parts, Threads (only function parts.flatten) c c' ∧ List.Forall₂ c'.Stands globals parts := by
  induction globals generalizing c with
  | nil =>
    obtain ⟨-, rfl⟩ := pure_ok.mp run
    exact ⟨[], only_nil function ▸ .refl c, .nil⟩
  | cons global rest ih =>
    obtain ⟨_, middle, first, run⟩ := bind_ok.mp run
    obtain ⟨part, threads, stands⟩ := threadGlobal_ok bounded first
    have bounded' := threads.program.bounded bounded
    obtain ⟨parts, later, others⟩ := ih bounded' run
    exact ⟨part :: parts, only_append function part parts.flatten ▸ threads.append later,
      .cons (stands.mono bounded' later) others⟩

theorem threadGlobals_functions {order : List Id} {entry : Id} {globals : Id → List Id}
    (bounded : c.program.Bounded) (nodup : order.Nodup)
    (run : order.forM (fun function =>
      if function ≠ entry then (globals function).forM (threadGlobal function) else pure ()) c =
        .ok u c') :
    ∃ added, Threads added c c' ∧
      (∀ function ∈ order, function ≠ entry → ∃ parts, added function = parts.flatten ∧
          List.Forall₂ c'.Stands (globals function) parts) ∧
      ∀ function, function ∉ order ∨ function = entry → added function = [] := by
  induction order generalizing c with
  | nil =>
    obtain ⟨-, rfl⟩ := pure_ok.mp run
    exact ⟨_, .refl c, by simp, by simp⟩
  | cons function rest ih =>
    obtain ⟨new, nodup⟩ := List.nodup_cons.mp nodup
    obtain ⟨_, middle, first, run⟩ := bind_ok.mp run
    dsimp only at first
    split at first
    · rename_i other
      obtain ⟨parts, threads, stands⟩ := threadGlobals_function bounded first
      have bounded' := threads.program.bounded bounded
      obtain ⟨added, later, others, none⟩ := ih bounded' nodup run
      refine ⟨_, threads.append later, fun candidate member differ => ?_,
        fun candidate outside => ?_⟩
      · rcases List.mem_cons.mp member with rfl | member
        · refine ⟨parts, ?_, stands.imp fun _ _ stands => stands.mono bounded' later⟩
          simp [only, none candidate (.inl new)]
        · have differ' : candidate ≠ function := fun same => new (same ▸ member)
          simpa [only, differ'] using others candidate member differ
      · have differ' : candidate ≠ function := by
          rintro rfl
          simp [other] at outside
        have outside : candidate ∉ rest ∨ candidate = entry := by
          simpa [differ'] using outside
        simp [only, differ', none candidate outside]
    · rename_i same
      obtain ⟨-, rfl⟩ := pure_ok.mp first
      obtain ⟨added, threads, others, none⟩ := ih bounded nodup run
      refine ⟨added, threads, fun candidate member differ => ?_, fun candidate outside => ?_⟩
      · rcases List.mem_cons.mp member with rfl | member
        · exact absurd differ same
        · exact others candidate member differ
      · refine none candidate ?_
        simp only [List.mem_cons, not_or] at outside
        exact outside.imp_left And.right

theorem threadGlobals_ok (bounded : c.program.Bounded) (nodup : c.plan.callGraph.order.Nodup)
    (run : threadGlobals c = .ok u c') :
    ∃ threaded uses added, c.threadedVariables = .ok threaded ∧
      c.uses threaded c.plan.callGraph.order ∅ = .ok uses ∧ Threads added c c' ∧
      (∀ function ∈ c.plan.callGraph.order, function ≠ c.plan.entry →
        ∃ parts, added function = parts.flatten ∧
          List.Forall₂ c'.Stands ((uses.find? function).getD []) parts) ∧
      ∀ function, function ∉ c.plan.callGraph.order ∨ function = c.plan.entry →
        added function = [] := by
  obtain ⟨threaded, collected, run⟩ := read_bind.mp run
  obtain ⟨uses, swept, run⟩ := lift_bind.mp run
  have skip (function : Id) :
      (if function ≠ c.plan.entry then do
        ((uses.find? function).getD []).forM (threadGlobal function)
        pure (ForInStep.yield PUnit.unit)
      else pure (ForInStep.yield PUnit.unit)) =
      (if function ≠ c.plan.entry then ((uses.find? function).getD []).forM (threadGlobal function)
        else pure ()) >>= fun _ => pure (ForInStep.yield PUnit.unit) := by
    split <;> rfl
  simp only [forIn_eq_forM, skip, bind_pure_unit] at run
  obtain ⟨added, threads⟩ := threadGlobals_functions bounded nodup run
  exact ⟨threaded, uses, added, collected, swept, threads⟩

end Emit

end SpirvMetal
