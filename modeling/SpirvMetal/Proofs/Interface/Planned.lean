import SpirvMetal.Metal.Interface.Attribute
import SpirvMetal.Metal.Interface.Plan
import SpirvMetal.Proofs.Emit.Always
import SpirvMetal.Proofs.Layout.Placement
import SpirvMetal.Proofs.Program.Growth

/-!
What is planned for the variables of a stage. Every planned member is tied to its variable, or to a
builtin of a block; planning itself only declares types.
-/

set_option synthInstance.maxSize 2048

namespace SpirvMetal

open List
open Spirv (BuiltIn Decoration StorageClass)

theorem exists_of_forall₂ {α β : Type} {relation : α → β → Prop} {left : List α} {right : List β}
    (related : List.Forall₂ relation left right) {b : β} (listed : b ∈ right) :
    ∃ a ∈ left, relation a b := by
  induction related with
  | nil => cases listed
  | cons here _ ih =>
    rcases mem_cons.mp listed with rfl | listed
    · exact ⟨_, mem_cons_self, here⟩
    · obtain ⟨a, found, known⟩ := ih listed
      exact ⟨a, mem_cons_of_mem _ found, known⟩

theorem Program.Extends.addType {view : Function → Function} (program : Program)
    (type : ValueType) : Extends view program (program.addType type).2 :=
  (Extends.reserve program 1).thenSet (Nat.le_refl _) (lt_bound_set ..)

def Program.AddsTypes (before after : Program) : Prop :=
  ∀ id, after.record? id = before.record? id ∨
    before.record? id = none ∧ ∃ type, after.record? id = some (.type type)

namespace Program.AddsTypes

variable {before middle after program : Program}

theorem addType (bounded : program.Bounded) (type : ValueType) :
    program.AddsTypes (program.addType type).2 := by
  intro id
  have stored : (program.addType type).2.record? id = if id = program.bound then
      some (.type { type with baseId := program.bound }) else program.record? id :=
    record?_set ..
  rw [stored]
  by_cases fresh : id = program.bound
  · rw [if_pos fresh]
    refine .inr ⟨?_, _, rfl⟩
    cases found : program.record? id with
    | none => rfl
    | some record => exact (Nat.ne_of_lt (bounded.below id record found).1 fresh).elim
  · rw [if_neg fresh]
    exact .inl rfl

theorem trans (left : before.AddsTypes middle) (right : middle.AddsTypes after) :
    before.AddsTypes after := by
  intro id
  rcases right id with same | ⟨absent, added⟩
  · rw [same]
    exact left id
  · rcases left id with same | ⟨_, type, stored⟩
    · exact .inr ⟨same.symm.trans absent, added⟩
    · rw [stored] at absent
      cases absent

theorem find_eq {α : Type} (adds : before.AddsTypes after) {select : Record → Option α}
    (blind : ∀ type, select (.type type) = none) (id : Id) :
    (after.record? id).bind select = (before.record? id).bind select := by
  rcases adds id with same | ⟨absent, type, stored⟩
  · rw [same]
  · rw [absent, stored]
    exact blind type

theorem functionAt?_eq (adds : before.AddsTypes after) (id : Id) :
    after.functionAt? id = before.functionAt? id := adds.find_eq (fun _ => rfl) id

theorem dimensionLength_eq (adds : before.AddsTypes after) (dimension : Dimension) :
    after.dimensionLength dimension = before.dimensionLength dimension :=
  congrFun (dimensionLength_congr (adds.find_eq fun _ => rfl)) dimension

end Program.AddsTypes

structure Compiler.Plans (before after : Compiler) : Prop where
  program : before.program.Extends (fun function => function) after.program
  notes : after.program.notes = before.program.notes
  entryPoints : after.program.entryPoint = before.program.entryPoint
  callGraph : after.plan.callGraph = before.plan.callGraph
  entry : after.plan.entry = before.plan.entry
  packableStructs : after.plan.packableStructs = before.plan.packableStructs
  session : after.session = before.session
  addsTypes : before.program.Bounded → before.program.AddsTypes after.program

namespace Compiler

theorem Plans.refl (c : Compiler) : c.Plans c :=
  ⟨.refl _, rfl, rfl, rfl, rfl, rfl, rfl, fun _ _ => .inl rfl⟩

theorem Plans.trans {first second third : Compiler} (left : first.Plans second)
    (right : second.Plans third) : first.Plans third where
  program := left.program.trans right.program
  notes := right.notes.trans left.notes
  entryPoints := right.entryPoints.trans left.entryPoints
  callGraph := right.callGraph.trans left.callGraph
  entry := right.entry.trans left.entry
  packableStructs := right.packableStructs.trans left.packableStructs
  session := right.session.trans left.session
  addsTypes bounded :=
    (left.addsTypes bounded).trans (right.addsTypes (left.program.bounded bounded))

instance : Std.Refl Plans := ⟨.refl⟩

instance : IsTrans Compiler Plans := ⟨fun _ _ _ => .trans⟩

end Compiler

/-- A relation that allows what planning does: it makes up types, marks vertex attributes as used,
and notes inputs that are converted and where the position is written. -/
class AllowsPlanning (relation : Compiler → Compiler → Prop) : Prop extends
    Std.Refl relation, IsTrans Compiler relation where
  addsType {c : Compiler} {type : ValueType} :
    relation c { c with program := (c.program.addType type).2 }
  attributes {c : Compiler} {vertexAttributes : List VertexAttribute} :
    relation c { c with options := { c.options with vertexAttributes } }
  converts {c : Compiler} {convertedInputs : List Id} :
    relation c { c with plan := { c.plan with convertedInputs } }
  positions {c : Compiler} {position : String} :
    relation c { c with plan := { c.plan with position } }

instance : AllowsPlanning Compiler.Plans where
  addsType := ⟨.addType .., rfl, rfl, rfl, rfl, rfl, rfl, fun bounded => .addType bounded _⟩
  attributes := ⟨.refl _, rfl, rfl, rfl, rfl, rfl, rfl, fun _ _ => .inl rfl⟩
  converts := ⟨.refl _, rfl, rfl, rfl, rfl, rfl, rfl, fun _ _ => .inl rfl⟩
  positions := ⟨.refl _, rfl, rfl, rfl, rfl, rfl, rfl, fun _ _ => .inl rfl⟩

namespace Emit

namespace Planning

open Always (andThen)

variable {relation : Compiler → Compiler → Prop} [AllowsPlanning relation]

instance addType (type : ValueType) : Always relation (addType type) :=
  .look fun _ => AllowsPlanning.addsType

instance widenedType (type : Id) (components : Nat) :
    Always relation (widenedType type components) := by
  simp only [Emit.widenedType]
  infer_instance

instance builtinMemberType (type : Id) (builtin : Option BuiltIn) :
    Always relation (builtinMemberType type builtin) := by
  simp only [Emit.builtinMemberType]
  split <;> infer_instance

instance attributeType (type location : Nat) : Always relation (attributeType type location) := by
  simp only [Emit.attributeType]
  repeat' first | infer_instance | refine andThen ?_ fun _ => ?_ | split

instance partCount (type : ValueType) : Always relation (partCount type) := by
  simp only [Emit.partCount]
  repeat' first | infer_instance | refine andThen ?_ fun _ => ?_ | split

instance useLocation (storage : StorageClass) (location : Nat) :
    Always relation (useLocation storage location) := by
  refine .modify fun c => ?_
  split
  · exact AllowsPlanning.attributes
  · exact Std.Refl.refl c

instance locate (storage : StorageClass) (converts : Bool) (type : Id) (decorations : Decorations)
    (location : Option Nat) :
    Always relation (locate storage converts type decorations location) := by
  simp only [Emit.locate]
  split <;> infer_instance

instance planPart (storage : StorageClass) (split : Split) (index : Nat) :
    Always relation (planPart storage split index) := by
  simp only [Emit.planPart]
  infer_instance

instance planComposite (storage : StorageClass) (var data : Id) :
    Always relation (planComposite storage var data) := by
  simp only [Emit.planComposite]
  infer_instance

instance planPlain (storage : StorageClass) (var data : Id) :
    Always relation (planPlain storage var data) := by
  have converted : Always relation (modifyPlan fun plan =>
      { plan with convertedInputs := addNew plan.convertedInputs var }) :=
    .modify fun _ => AllowsPlanning.converts
  have positioned (position : String) : Always relation (modifyPlan ({ · with position })) :=
    .modify fun _ => AllowsPlanning.positions
  simp only [Emit.planPlain]
  infer_instance

instance planStructMember (storage : StorageClass) (var struct index type : Nat) :
    Always relation (planStructMember storage var struct index type) := by
  simp only [Emit.planStructMember]
  repeat' first | infer_instance | refine andThen ?_ fun _ => ?_ | split

instance planVariable (storage : StorageClass) (var : Id) :
    Always relation (planVariable storage var) := by
  simp only [Emit.planVariable]
  infer_instance

end Planning

/-- Every successful run of the step gives a value with the property. -/
structure Yields (post : α → Prop) (step : Emit α) : Prop where
  of_run : ∀ {c a c'}, step c = .ok a c' → post a

namespace Yields

variable {post : β → Prop}
variable {step : Emit α} {next : α → Emit β} {list : List α}

theorem pure {post : α → Prop} {a : α} (holds : post a) : Yields post (pure a) where
  of_run done := by
    obtain ⟨rfl, _⟩ := pure_ok.mp done
    exact holds

theorem fail {fault : Fault} {post : α → Prop} : Yields post (fail fault) where
  of_run done := (fail_ok done).elim

theorem bind {between : α → Prop} (first : Yields between step)
    (rest : ∀ a, between a → Yields post (next a)) : Yields post (step >>= next) where
  of_run done := by
    obtain ⟨a, middle, stepped, done⟩ := bind_ok.mp done
    exact (rest a (first.of_run stepped)).of_run done

theorem andThen (rest : ∀ a, Yields post (next a)) : Yields post (step >>= next) where
  of_run done := by
    obtain ⟨a, middle, _, done⟩ := bind_ok.mp done
    exact (rest a).of_run done

theorem mapM {step : α → Emit β} {each : α → β → Prop} (steps : ∀ a, Yields (each a) (step a)) :
    Yields (List.Forall₂ each list) (list.mapM step) := by
  induction list with
  | nil => exact pure .nil
  | cons a rest ih =>
    rw [mapM_cons]
    refine bind (steps a) fun b here => bind ih fun others later => pure ?_
    exact .cons here later

theorem mapM_all {step : α → Emit β} (steps : ∀ a, Yields post (step a)) :
    Yields (∀ b ∈ ·, post b) (list.mapM step) := by
  induction list with
  | nil => exact pure (by simp)
  | cons a rest ih =>
    rw [mapM_cons]
    refine bind (steps a) fun b here => bind ih fun others later => pure ?_
    simpa using ⟨here, later⟩

end Yields

end Emit

def Decorations.located (d : Decorations) : (location : Option Nat) → Decorations
  | none => d
  | some location => d.set .location location

structure Decorations.Bare (name : String) (d : Decorations) : Prop where
  name : d.name = name
  packed : d.packed = false
  standIn : d.standIn = none

namespace Decorations.Bare

variable {d : Decorations} {name : String}

theorem named (name : String) : Bare name { name } := ⟨rfl, rfl, rfl⟩

section

variable (bare : d.Bare name)

include bare

theorem set (decoration : Decoration) (value : Nat) :
    (d.set decoration value).Bare name := ⟨bare.name, bare.packed, bare.standIn⟩

theorem located (location : Option Nat) : (d.located location).Bare name := by
  cases location with
  | none => exact bare
  | some location => exact bare.set ..

theorem foldl {step : Decorations → Decoration → Decorations}
    (kept : ∀ d decoration, d.Bare name → (step d decoration).Bare name)
    (list : List Decoration) : (list.foldl step d).Bare name := by
  induction list generalizing d with
  | nil => exact bare
  | cons first rest ih => exact ih (kept d first bare)

theorem setIf (condition : Bool) (decoration : Decoration) (value : Nat) :
    (if condition then d.set decoration value else d).Bare name := by
  split
  · exact bare.set ..
  · exact bare

theorem inheritInterpolation (other : Decorations) : (d.inheritInterpolation other).Bare name :=
  bare.foldl (fun _ decoration bare => bare.setIf (other.has decoration) decoration 0) _

end

end Decorations.Bare

namespace Decorations

theorem location?_setIf (d : Decorations) (condition : Bool) {decoration : Decoration}
    (differ : decoration ≠ .location) (value : Nat) :
    (if condition then d.set decoration value else d).location? = d.location? := by
  split
  · simp [location?, has_set, get_set, differ.symm]
  · rfl

theorem location?_inheritInterpolation (d other : Decorations) :
    (d.inheritInterpolation other).location? = d.location? := by
  simp only [inheritInterpolation, foldl_cons, foldl_nil]
  rw [location?_setIf _ _ (by decide), location?_setIf _ _ (by decide),
    location?_setIf _ _ (by decide), location?_setIf _ _ (by decide)]

theorem location?_located (name : String) (location : Option Nat) :
    (({ name } : Decorations).located location).location? = location := by
  cases location with
  | none => rfl
  | some location => simp [location?, located, has_set, get_set, Decoration.shows]

theorem get_location {d : Decorations} {location : Nat} (found : d.location? = some location) :
    d.get .location = location := by
  unfold location? at found
  split at found <;> cases found
  rfl

end Decorations

namespace MemberBinding

def var? : MemberBinding → Option Id
  | .alias var | .padded var _ | .copy var _ _ _ => some var
  | .blockBuiltin _ _ => none

/-- The variable and the index, where a member is a column or an element of a variable. -/
def part? : MemberBinding → Option (Id × Nat)
  | .copy var none (some index) _ => some (var, index)
  | _ => none

end MemberBinding

namespace Program

def wholeName (program : Program) (var : Id) : String :=
  match program.builtin? var with
  | some builtin => Builtin.name builtin
  | none => Name.avoidTemporary (program.plainName var) "m"

def inBlockName (program : Program) (block index : Nat) : String :=
  Name.avoidTemporary (program.qualifiedMemberName block index) "m"

def partCount (program : Program) (type : ValueType) : Nat :=
  match type.dimensions with
  | [] => type.columns
  | dimension :: _ => program.dimensionLength dimension

/-- Whether each column or element of a variable becomes a member. -/
def splits (program : Program) (var : Id) (type : ValueType) : Bool :=
  (program.builtin? var).isNone && type.base.isNumeric && (type.isMatrix || type.isArray)

end Program

/-- A member that is planned for a variable, or for a builtin of the block that it holds. -/
structure PlannedMember.IsFor (program : Program) (var : Id) (member : PlannedMember) : Prop where
  own : ∀ other ∈ member.binding.var?, other = var
  whole : ∀ other, member.binding = .alias other → member.decorations.name = program.wholeName other
  block : ∀ block index, member.binding = .blockBuiltin block index →
    member.decorations.name = Name.avoidTemporary (program.qualifiedMemberName block index) "m" ∧
      ∃ data type, program.dataType var = .ok (data, type) ∧ type.baseId = block
  bare : ∃ name, member.decorations.Bare name

namespace Emit

variable {type : ValueType} {index element : Nat} {storage : StorageClass} {var data : Id}

structure IsPart (split : Split) (index : Nat) (member : PlannedMember) : Prop where
  binding : ∃ components, member.binding = .copy split.var split.member (some index) components
  decorations : member.decorations =
    split.decorate (({ name := Name.avoidTemporary s!"{split.name}_{index}" "m" } :
      Decorations).located (split.location.map (· + index)))

theorem locate_yields (storage : StorageClass) (converts : Bool) (type : Id) (d : Decorations)
    (location : Option Nat) :
    Yields (fun located => located.2 = d.located location)
      (locate storage converts type d location) := by
  unfold locate
  split
  · exact .pure rfl
  · refine .andThen fun c => ?_
    dsimp only
    split <;> exact .andThen fun type => .andThen fun _ => .pure rfl

theorem planPart_yields (storage : StorageClass) (split : Split) (index : Nat) :
    Yields (IsPart split index) (planPart storage split index) := by
  unfold planPart
  refine .bind (locate_yields ..) fun (type, decorations) located => ?_
  refine .andThen fun c => .andThen fun components => ?_
  dsimp only at located ⊢
  subst located
  split <;> exact .andThen fun _ => .pure ⟨⟨components, rfl⟩, rfl⟩

def variableSplit (program : Program) (var element : Id) : Split where
  var
  member := none
  name := program.plainName var
  element
  location :=
    if (program.decorations var).has .location then some ((program.decorations var).get .location)
    else none
  decorate := fun d =>
    let own := program.decorations var
    let d := if own.has .index then d.set .index (own.get .index) else d
    d.inheritInterpolation own

variable {c c' : Compiler}

theorem partCount_ok {count : Nat} (done : partCount type c = .ok count c') :
    c' = c ∧ (type.dimensions = [] ∧ count = type.columns ∨ ∃ dimension,
      type.dimensions = [dimension] ∧ count = c.program.dimensionLength dimension) := by
  unfold partCount at done
  cases dimensions : type.dimensions with
  | nil =>
    simp only [dimensions] at done
    split at done
    · cases done
    · obtain ⟨rfl, rfl⟩ := pure_ok.mp done
      exact ⟨rfl, .inl ⟨rfl, rfl⟩⟩
  | cons dimension rest =>
    cases rest with
    | nil =>
      simp only [dimensions] at done
      split at done
      · cases done
      · replace done := get_bind.mp done
        obtain ⟨rfl, rfl⟩ := pure_ok.mp done
        exact ⟨rfl, .inr ⟨dimension, rfl, rfl⟩⟩
    | cons next others =>
      simp only [dimensions] at done
      split at done <;> cases done

variable {planned : List PlannedMember}

theorem planComposite_ok (done : planComposite storage var data c = .ok planned c') :
    ∃ type count element, c.program.getType data = .ok type ∧ partCount type c = .ok count c ∧
      List.Forall₂ (IsPart (variableSplit c.program var element)) (List.range count) planned := by
  unfold planComposite at done
  obtain ⟨type, typed, done⟩ := read_bind.mp done
  obtain ⟨count, middle, counted, done⟩ := bind_ok.mp done
  obtain ⟨rfl, _⟩ := partCount_ok counted
  obtain ⟨element, found, done⟩ := lift_bind.mp done
  refine ⟨type, count, element, typed, counted, ?_⟩
  exact (Yields.mapM fun index => planPart_yields storage _ index).of_run done

variable {program : Program} {member : PlannedMember}

theorem isFor_of_var (bound : member.binding.var? = some var)
    (whole : ∀ other, member.binding = .alias other →
      member.decorations.name = program.wholeName other)
    (bare : ∃ name, member.decorations.Bare name) : member.IsFor program var := by
  refine ⟨fun other found => ?_, whole, fun block index named => ?_, bare⟩
  · rw [bound] at found
    exact (Option.some.inj found).symm
  · rw [named] at bound
    cases bound

/-- What is split passes on nothing but values. -/
def Split.IsBare (split : Split) : Prop :=
  ∀ name (d : Decorations), d.Bare name → (split.decorate d).Bare name

theorem variableSplit_bare (program : Program) (var element : Id) :
    (variableSplit program var element).IsBare := fun _ _ bare =>
  (bare.setIf ((program.decorations var).has .index) ..).inheritInterpolation _

variable {split : Split}

theorem IsPart.bare (part : IsPart split index member) (bare : split.IsBare) :
    ∃ name, member.decorations.Bare name := by
  rw [part.decorations]
  exact ⟨_, bare _ _ ((Decorations.Bare.named _).located _)⟩

theorem IsPart.var?_eq (part : IsPart split index member) :
    member.binding.var? = some split.var := by
  obtain ⟨components, bound⟩ := part.binding
  rw [bound]
  rfl

theorem IsPart.part?_eq {var : Nat}
    (part : IsPart (variableSplit program var element) index member) :
    member.binding.part? = some (var, index) := by
  obtain ⟨_, copied⟩ := part.binding
  rw [copied]
  rfl

theorem planPlain_ok (done : planPlain storage var data c = .ok member c') :
    member.IsFor c.program var ∧ member.binding.part? = none := by
  have marked {d : Decorations} {name : String} (bare : d.Bare name) (builtin : Option BuiltIn) :
      (match builtin with
        | some builtin => d.set .builtIn builtin.code
        | none => d).Bare name := by
    cases builtin
    · exact bare
    · exact bare.set ..
  have whole {binding : MemberBinding} (bound : binding = .alias var ∨ ∃ n, binding = .padded var n)
      (type : Id) {d : Decorations} (bare : d.Bare (c.program.wholeName var)) :
      PlannedMember.IsFor c.program var { type, decorations := d, binding } ∧
        binding.part? = none := by
    rcases bound with rfl | ⟨n, rfl⟩
    · refine ⟨isFor_of_var rfl (fun other aliased => ?_) ⟨_, bare⟩, rfl⟩
      cases aliased
      exact bare.name
    · exact ⟨isFor_of_var rfl (fun other aliased => nomatch aliased) ⟨_, bare⟩, rfl⟩
  unfold planPlain at done
  replace done := get_bind.mp done
  suffices Yields (fun member : PlannedMember =>
      member.IsFor c.program var ∧ member.binding.part? = none) _ from this.of_run done
  clear done
  refine .andThen fun type => .andThen fun c' => .andThen fun components => ?_
  dsimp only
  generalize chosen : (if components = 0 then MemberBinding.alias var
    else .padded var components) = binding
  have bound : binding = .alias var ∨ ∃ n, binding = .padded var n := by
    rw [← chosen]
    split
    · exact .inl rfl
    · exact .inr ⟨components, rfl⟩
  split
  all_goals
    refine .andThen fun type => .bind (locate_yields ..) fun (located, decorations) found => ?_
    dsimp only at found ⊢
    have bare := found ▸ (Decorations.Bare.named (c.program.wholeName var)).located _
    have decorated := bare.foldl (fun d decoration bare =>
      bare.setIf ((c.program.decorations var).has decoration) decoration
        ((c.program.decorations var).get decoration)) [Decoration.component, .index]
    have made := whole bound located
      ((marked decorated (c.program.builtin? var)).inheritInterpolation (c.program.decorations var))
    split <;> split
    · exact .andThen fun _ => .andThen fun _ => .pure made
    · exact .andThen fun _ => .pure made
    · exact .andThen fun _ => .pure made
    · exact .pure made

def IsMemberOf (program : Program) (var struct index : Nat) (member : PlannedMember) : Prop :=
  (∃ name, member.decorations.Bare name) ∧
    ((∃ part components, member.binding = .copy var (some index) part components) ∨
    member.binding = .blockBuiltin struct index ∧ member.decorations.name =
      Name.avoidTemporary (program.qualifiedMemberName struct index) "m")

theorem planStructMember_ok {var struct type : Nat}
    (done : planStructMember storage var struct index type c = .ok planned c') :
    ∀ member ∈ planned, IsMemberOf c.program var struct index member := by
  have parts (split : Split) (same : split.var = var ∧ split.member = some index)
      (bare : split.IsBare) (count : Nat) :
      Yields (∀ member ∈ ·, IsMemberOf c.program var struct index member)
        ((List.range count).mapM (planPart storage split)) := by
    refine .mapM_all fun part => ⟨fun done => ?_⟩
    have planned := (planPart_yields storage split part).of_run done
    obtain ⟨components, bound⟩ := planned.binding
    rw [same.1, same.2] at bound
    exact ⟨planned.bare bare, .inl ⟨some part, components, bound⟩⟩
  have interpolated {name : String} {d : Decorations} (bare : d.Bare name)
      (own memberOwn : Decorations) :
      ((d.inheritInterpolation own).inheritInterpolation memberOwn).Bare name :=
    (bare.inheritInterpolation own).inheritInterpolation memberOwn
  have named {name : String} {d : Decorations} {location : Option Nat}
      (located : d = ({ name } : Decorations).located location) : d.Bare name :=
    located ▸ (Decorations.Bare.named name).located location
  have copied (member : PlannedMember) (bound : member.binding = .copy var (some index) none 0)
      {name : String} (bare : member.decorations.Bare name) :
      Yields (∀ member ∈ ·, IsMemberOf c.program var struct index member) (pure [member]) :=
    .pure (by simpa using ⟨⟨name, bare⟩, .inl ⟨none, 0, bound⟩⟩)
  have aliased (member : PlannedMember) (bound : member.binding = .blockBuiltin struct index)
      (bare : member.decorations.Bare
        (Name.avoidTemporary (c.program.qualifiedMemberName struct index) "m")) :
      Yields (∀ member ∈ ·, IsMemberOf c.program var struct index member) (pure [member]) :=
    .pure (by simpa using ⟨⟨_, bare⟩, .inr ⟨bound, bare.name⟩⟩)
  unfold planStructMember at done
  replace done := get_bind.mp done
  suffices Yields (∀ member ∈ ·, IsMemberOf c.program var struct index member) _ from
    this.of_run done
  clear done
  split
  · exact .pure (by simp)
  · refine .andThen fun found => ?_
    extract_lets memberOwn interpolate name resume
    have resumed (location : Option Nat) :
        Yields (∀ member ∈ ·, IsMemberOf c.program var struct index member) (resume location) := by
      dsimp only [resume]
      split
      · refine .andThen fun count => ?_
        split
        · exact .bind .fail fun _ (failed : False) => failed.elim
        · refine .andThen fun element => ?_
          exact parts _ ⟨rfl, rfl⟩ (fun _ _ bare => interpolated bare ..) count
      · refine .andThen fun type => .bind (locate_yields ..) fun (type, d) found => ?_
        have decorated := (named found).setIf (memberOwn.has .component) .component
          (memberOwn.get .component)
        cases builtin : c.program.memberBuiltin? struct index with
        | some builtin => exact aliased _ rfl (interpolated (decorated.set ..) ..)
        | none => exact copied _ rfl (interpolated decorated ..)
    split
    · exact .andThen resumed
    · split
      · exact .andThen fun _ => .andThen resumed
      · exact .andThen resumed

theorem mapM_ok_of_always {α β : Type} {relation : Compiler → Compiler → Prop} [Std.Refl relation]
    [IsTrans Compiler relation] {list : List α} {step : α → Emit β} [∀ a, Always relation (step a)]
    {post : Compiler → α → β → Prop}
    (steps : ∀ a ∈ list, ∀ {c b c'}, step a c = .ok b c' → post c a b) {results : List β}
    (done : list.mapM step c = .ok results c') :
    List.Forall₂ (fun a b => ∃ middle, relation c middle ∧ relation middle c' ∧ post middle a b)
      list results := by
  induction list generalizing c c' results with
  | nil =>
    rw [mapM_nil] at done
    obtain ⟨rfl, _⟩ := pure_ok.mp done
    exact .nil
  | cons first rest ih =>
    rw [mapM_cons] at done
    obtain ⟨b, middle, stepped, done⟩ := bind_ok.mp done
    obtain ⟨others, _, mapped, done⟩ := bind_ok.mp done
    obtain ⟨rfl, rfl⟩ := pure_ok.mp done
    have through : relation c middle := Keeps.keeps stepped
    have onward : relation middle _ := Keeps.keeps mapped
    refine .cons ⟨c, Std.Refl.refl c, IsTrans.trans _ _ _ through onward,
      steps first mem_cons_self stepped⟩ ?_
    refine (ih (fun a listed => steps a (mem_cons_of_mem first listed)) mapped).imp ?_
    rintro a b ⟨at_, later, last, known⟩
    exact ⟨at_, IsTrans.trans _ _ _ through later, last, known⟩

theorem qualifiedMemberName_eq {before after : Program} (same : after.notes = before.notes)
    (struct index : Nat) :
    after.qualifiedMemberName struct index = before.qualifiedMemberName struct index := by
  have own : after.decorations = before.decorations := by
    funext id
    simp only [Program.decorations, Program.decorations?, Program.notes?, same]
  have members : after.memberDecorations = before.memberDecorations := by
    funext id member
    simp only [Program.memberDecorations, Program.memberDecorations?, Program.notes?, same]
  unfold Program.qualifiedMemberName Program.memberBuiltin? Program.plainMemberName
    Program.memberName Program.plainName Program.name
  rw [own, members]

structure IsPlanFor (program : Program) (var : Id) (planned : List PlannedMember) : Prop where
  each : ∀ member ∈ planned, member.IsFor program var
  parts : ∀ {data type}, program.dataType var = .ok (data, type) →
    planned.filterMap (·.binding.part?) =
      if program.splits var type then (List.range (program.partCount type)).map (var, ·) else []
  located : program.hasDecoration var .location = true → ∀ member ∈ planned, ∀ {index},
    member.binding.part? = some (var, index) →
      member.location = program.getDecoration var .location + index

theorem splits_eq_false
    (whole : ¬((program.builtin? var).isNone && (type.isMatrix || type.isArray)) = true ∨
      type.base.isNumeric = false) : program.splits var type = false := by
  unfold Program.splits
  rcases whole with whole | whole
  · cases numeric : type.base.isNumeric <;> simp_all
  · simp [whole]

theorem isNumeric_eq (type : ValueType) : type.base.isNumeric =
      (!type.isStruct && !(type.isOpaque || type.base = .void || type.base = .unknown)) := by
  unfold ValueType.isStruct ValueType.isOpaque
  cases type.base <;> rfl

theorem isPlanFor_of_whole (typed : program.dataType var = .ok (data, type))
    (each : ∀ member ∈ planned, member.IsFor program var ∧ member.binding.part? = none)
    (whole : program.splits var type = false) : IsPlanFor program var planned where
  each member listed := (each member listed).1
  parts := by
    intro _ _ found
    cases typed.symm.trans found
    rw [whole]
    exact filterMap_eq_nil_iff.mpr fun member listed => (each member listed).2
  located _ member listed index part := by
    rw [(each member listed).2] at part
    cases part

theorem isPlanFor_of_parts {element : Id} (typed : program.dataType var = .ok (data, type))
    (parts : List.Forall₂ (IsPart (variableSplit program var element))
      (List.range (program.partCount type)) planned) (splits : program.splits var type = true) :
    IsPlanFor program var planned where
  each member listed := by
    obtain ⟨index, _, part⟩ := exists_of_forall₂ parts listed
    refine isFor_of_var part.var?_eq (fun other aliased => ?_)
      (part.bare (variableSplit_bare program var element))
    obtain ⟨_, copied⟩ := part.binding
    rw [copied] at aliased
    cases aliased
  parts := by
    intro _ _ found
    cases typed.symm.trans found
    rw [splits, if_pos rfl]
    generalize List.range (program.partCount type) = indices at parts
    induction parts with
    | nil => rfl
    | cons part _ ih => simp [part.part?_eq, ih]
  located located member listed index part := by
    obtain ⟨other, _, known⟩ := exists_of_forall₂ parts listed
    rw [known.part?_eq] at part
    cases part
    have first : (variableSplit program var element).location =
        some (program.getDecoration var .location) := if_pos located
    refine Decorations.get_location ?_
    rw [known.decorations, first]
    simp only [variableSplit, Option.map_some]
    rw [Decorations.location?_inheritInterpolation, Decorations.location?_setIf _ _ (by decide),
      Decorations.location?_located]

theorem planVariable_ok (done : planVariable storage var c = .ok planned c') :
    IsPlanFor c.program var planned := by
  unfold planVariable at done
  obtain ⟨⟨data, type⟩, typed, done⟩ := read_bind.mp done
  dsimp only at done
  split at done
  · rename_i inactive
    obtain ⟨rfl, _⟩ := pure_ok.mp done
    refine isPlanFor_of_whole typed (by simp) (splits_eq_false (.inl fun whole => ?_))
    rw [Option.isNone_iff_eq_none.mp (Bool.and_eq_true_iff.mp whole).1] at inactive
    cases inactive
  · split at done
    · rename_i struct
      obtain ⟨block, _, done⟩ := lift_bind.mp done
      obtain ⟨parts, _, mapped, done⟩ := bind_ok.mp done
      obtain ⟨rfl, _⟩ := pure_ok.mp done
      have each : List.Forall₂ (fun entry part => ∃ middle, c.Plans middle ∧ middle.Plans _ ∧
          ∀ member ∈ part, IsMemberOf middle.program var type.baseId entry.2 member)
          block.members.zipIdx parts :=
        mapM_ok_of_always (fun entry _ {_ _ _} => planStructMember_ok) mapped
      refine isPlanFor_of_whole typed (fun member listed => ?_) (splits_eq_false (.inr ?_))
      · obtain ⟨part, listed, inside⟩ := mem_flatten.mp listed
        obtain ⟨⟨type, index⟩, _, middle, plans, _, known⟩ := exists_of_forall₂ each listed
        obtain ⟨bare, ⟨_, _, bound⟩ | ⟨bound, name⟩⟩ := known member inside
        · refine ⟨isFor_of_var (by rw [bound]; rfl) (fun other aliased => ?_) bare,
            by rw [bound]; rfl⟩
          rw [bound] at aliased
          cases aliased
        · refine ⟨⟨fun other found => ?_, fun other aliased => ?_, fun block index named => ?_,
            bare⟩, by rw [bound]; rfl⟩
          · rw [bound] at found
            cases found
          · rw [bound] at aliased
            cases aliased
          · rw [bound] at named
            cases named
            rw [qualifiedMemberName_eq plans.notes] at name
            exact ⟨name, data, _, typed, rfl⟩
      · rw [isNumeric_eq, struct]
        rfl
    · rename_i plain
      split at done
      · rename_i blank
        obtain ⟨rfl, _⟩ := pure_ok.mp done
        refine isPlanFor_of_whole typed (by simp) (splits_eq_false (.inr ?_))
        rw [isNumeric_eq, blank, Bool.not_true, Bool.and_false]
      · rename_i solid
        split at done
        · rename_i composite
          obtain ⟨found, count, element, reading, counted, parts⟩ := planComposite_ok done
          cases (Program.getType_of_dataType typed).symm.trans reading
          have numeric : type.base.isNumeric = true := by
            rw [isNumeric_eq, Bool.eq_false_iff.mpr plain, Bool.eq_false_iff.mpr solid]
            rfl
          have counts : count = c.program.partCount type := by
            unfold Program.partCount
            obtain ⟨_, ⟨none, rfl⟩ | ⟨dimension, one, rfl⟩⟩ := partCount_ok counted
            · rw [none]
            · rw [one]
          refine isPlanFor_of_parts typed (counts ▸ parts) ?_
          obtain ⟨plain, parts⟩ := Bool.and_eq_true_iff.mp composite
          rw [Program.splits, plain, numeric, parts]
          rfl
        · rename_i whole
          obtain ⟨member, _, planning, done⟩ := bind_ok.mp done
          obtain ⟨rfl, _⟩ := pure_ok.mp done
          exact isPlanFor_of_whole typed (by simpa using planPlain_ok planning)
            (splits_eq_false (.inl whole))

end Emit

end SpirvMetal
