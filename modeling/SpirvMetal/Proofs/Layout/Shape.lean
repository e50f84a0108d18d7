import Mathlib.Tactic.Ring
import SpirvMetal.Proofs.Layout.Declared
import SpirvMetal.Proofs.Layout.Settled

/-!
The types that members are declared with. How far elements, columns and rows are apart follows from
the type that is printed.
-/

namespace SpirvMetal

structure Shape where
  base : BaseType
  components : Nat
  columns : Nat := 1
  packed : Bool := false
deriving DecidableEq

namespace Shape

open Layout (widened)

def text (shape : Shape) : String :=
  (if shape.packed then "packed_" else "") ++ shape.base.spelled shape.components shape.columns

def columnBytes (shape : Shape) : Nat :=
  shape.base.bytes * if shape.packed then shape.components else widened shape.components

def size (shape : Shape) : Nat := shape.columnBytes * shape.columns

def position (shape : Shape) (component : Nat) : Nat :=
  component / shape.components * shape.columnBytes + component % shape.components * shape.base.bytes

/-- Groups of `length` components, one after the other, start `stride` bytes apart, and so do all
their components. -/
def Spaces (shape : Shape) (groups length stride : Nat) : Prop :=
  ∀ group, group + 1 < groups → ∀ component < length,
    shape.position ((group + 1) * length + component) =
      shape.position (group * length + component) + stride

def typedefLine (text name : String) : String := s!"typedef {text} {name};"

/-- A name stands for a type: it is the name of the type, or a typedef says so. -/
inductive Names (typedefs : List String) (shape : Shape) : String → Prop
  | direct : Names typedefs shape shape.text
  | typedef {name : String} : typedefLine shape.text name ∈ typedefs → Names typedefs shape name

theorem Names.mono {shape : Shape} {few many : List String} {name : String}
    (names : Names few shape name) (within : few ⊆ many) : Names many shape name := by
  cases names with
  | direct => exact .direct
  | typedef listed => exact .typedef (within listed)

variable {shape : Shape} {groups length stride : Nat}

theorem position_column (column : Nat) {component : Nat} (inside : component < shape.components) :
    shape.position (column * shape.components + component) =
      column * shape.columnBytes + component * shape.base.bytes := by
  have some : 0 < shape.components := by omega
  rw [position, Nat.add_comm (column * shape.components), Nat.add_mul_div_right _ _ some,
    Nat.add_mul_mod_self_right, Nat.div_eq_of_lt inside, Nat.mod_eq_of_lt inside, Nat.zero_add]

theorem position_dense (dense : shape.columnBytes = shape.base.bytes * shape.components)
    (component : Nat) : shape.position component = component * shape.base.bytes := by
  have divided := Nat.div_add_mod component shape.components
  calc shape.position component
      = (shape.components * (component / shape.components) + component % shape.components) *
          shape.base.bytes := by rw [position, dense]; ring
    _ = component * shape.base.bytes := by rw [divided]

theorem spaces_columns (two : 2 ≤ groups) (some : 1 ≤ shape.components) :
    shape.Spaces groups shape.components stride ↔ stride = shape.columnBytes := by
  constructor
  · intro spaces
    have first := spaces 0 (by omega) 0 (by omega)
    rw [position_column 1 (by omega), position_column 0 (by omega)] at first
    omega
  · rintro rfl group - component inside
    rw [position_column _ inside, position_column _ inside]
    ring

theorem spaces_dense (dense : shape.columnBytes = shape.base.bytes * shape.components)
    (two : 2 ≤ groups) (some : 1 ≤ length) :
    shape.Spaces groups length stride ↔ stride = shape.base.bytes * length := by
  constructor
  · intro spaces
    have first := spaces 0 (by omega) 0 (by omega)
    rw [position_dense dense, position_dense dense] at first
    rw [Nat.mul_comm shape.base.bytes]
    simpa using first.symm
  · rintro rfl group - component inside
    rw [position_dense dense, position_dense dense]
    ring

/-- In columns of three components, two or four components are not spaced evenly: some of them have
the free room of a column between them, and some have not. -/
theorem not_spaces_uneven (three : shape.components = 3)
    (roomy : shape.columnBytes = shape.base.bytes * 4) (bytes : 0 < shape.base.bytes)
    (uneven : length = 2 ∨ length = 4) : ¬ shape.Spaces 3 length stride := by
  intro spaces
  have first := spaces 0 (by omega) 0 (by omega)
  rcases uneven with rfl | rfl
  · have second := spaces 1 (by omega) 0 (by omega)
    simp only [position, three, roomy] at first second
    omega
  · have third := spaces 0 (by omega) 2 (by omega)
    simp only [position, three, roomy] at first third
    omega

end Shape

def ValueType.shape (type : ValueType) (packed : Bool) : Shape :=
  if !packed then { base := type.base, components := type.components, columns := type.columns }
  else if 1 < type.components && 1 < type.columns then
    -- a packed matrix holds rows in the place of columns
    { base := .floating (if type.width = 16 then .half else .single)
      components := type.columns, columns := type.components }
  else if type.isArray && type.components ≤ 2 then { base := type.base, components := 4 }
  else { base := type.base, components := type.components, columns := type.columns, packed := true }

/-- The dimensions of an array behind the name of a member, outermost first; `names` gives the names
of specialization constants. -/
def lengthsText (names : Id → String) (dimensions : List Dimension) : String :=
  String.join (dimensions.reverse.map fun
    | .literal 0 => "[1]"
    | .literal count => s!"[{count}]"
    | .spec constant => s!"[{names constant}]")

namespace Emit

open Layout
open Shape (Names)

variable {c c' : Compiler} {u : Unit} {struct index member : Nat} {type : ValueType}

/-- Types of numbers that Metal has: a matrix is made of half or single precision numbers. -/
structure HasNumbers (type : ValueType) : Prop where
  value : type.pointer = false
  numeric : type.base.isNumeric = true
  precision : 1 < type.components → 1 < type.columns →
    type.base = .floating (if type.width = 16 then .half else .single)

theorem HasNumbers.not_struct (numbers : HasNumbers type) : type.isStruct = false := by
  have numeric := numbers.numeric
  unfold ValueType.isStruct
  cases base : type.base <;> simp_all [BaseType.isNumeric]

theorem HasNumbers.not_opaque (numbers : HasNumbers type) : type.isOpaque = false := by
  have numeric := numbers.numeric
  unfold ValueType.isOpaque
  cases base : type.base <;> simp_all [BaseType.isNumeric, BaseType.isOpaque]

theorem typeName_numbers (typed : c.program.getType member = .ok type)
    (numbers : HasNumbers type) :
    c.typeName member = .ok (type.base.spelled type.components type.columns) := by
  have numeric := numbers.numeric
  rw [← BaseType.numeric_spelled numeric]
  simp only [Compiler.typeName, Compiler.typeNameFor, Program.depth, Compiler.typeNameWithin, typed,
    bind, Except.bind, numbers.value, numbers.not_opaque, Bool.and_false, Bool.false_eq_true,
    if_false]
  cases base : type.base <;> simp_all [BaseType.isNumeric]

theorem matrixTypedef_eq (numbers : HasNumbers type) (rows : 1 < type.components)
    (columns : 1 < type.columns) : PackedForm.matrixTypedef type =
      Shape.typedefLine (type.shape true).text
        s!"packed_{type.base.spelled type.components type.columns}" := by
  have base := numbers.precision rows columns
  have shape : type.shape true = { base := type.base, components := type.columns
                                   columns := type.components } := by
    simp [ValueType.shape, rows, columns, base]
  have defined (rows columns : Nat) (isRows : type.components = rows)
      (isColumns : type.columns = columns) :
      let base := type.base.spelling
      PackedForm.matrixTypedef type =
        s!"typedef {base}{rows}x{columns} packed_{base}{columns}x{rows};" := by
    subst isRows isColumns
    rw [base]
    unfold PackedForm.matrixTypedef
    split <;> rfl
  have spaced (rest : String) : " packed_" ++ rest = " " ++ ("packed_" ++ rest) := by
    rw [← String.append_assoc]
    exact congrArg (· ++ rest) (by decide)
  rw [shape, defined _ _ rfl rfl]
  simp [Shape.text, BaseType.spelled, rows, columns, Shape.typedefLine, toString, String.append_assoc,
    spaced]

theorem memberTypeName_names {spelled : String} (typed : c.program.getType member = .ok type)
    (numbers : HasNumbers type)
    (run : memberTypeName struct index member type c = .ok spelled c') :
    Names c'.session.typedefs (type.shape (c.program.isMemberPacked struct index)) spelled := by
  obtain ⟨natural, named, run⟩ := read_bind.mp run
  cases (typeName_numbers typed numbers).symm.trans named
  have direct {shape : Shape} {spelled : String} (typedefs : List String)
      (same : shape.text = spelled) : Names typedefs shape spelled := same ▸ .direct
  cases packed : c.program.isMemberPacked struct index with
  | false =>
    rw [packed] at run
    obtain ⟨rfl, rfl⟩ := pure_ok.mp run
    exact direct _ (by simp [ValueType.shape, Shape.text])
  | true =>
    rw [packed] at run
    obtain ⟨form, chosen, run⟩ := lift_bind.mp run
    simp only [PackedForm.ofType, numbers.not_struct, Bool.false_eq_true, if_false] at chosen
    split at chosen
    · rename_i matrix
      simp only [Bool.and_eq_true, decide_eq_true_eq] at matrix
      cases chosen
      obtain ⟨_, _, required, run⟩ := bind_ok.mp run
      obtain ⟨rfl, rfl⟩ := pure_ok.mp run
      obtain rfl := modify_ok.mp required
      refine .typedef ?_
      rw [← matrixTypedef_eq numbers matrix.1 matrix.2]
      exact ((Session.adds_typedef _).added _).typedefs (by simp)
    · rename_i other
      split at chosen
      · rename_i wide
        cases chosen
        obtain ⟨named, rfl⟩ := lift_ok.mp run
        cases (BaseType.numeric_spelled numbers.numeric ..).symm.trans named
        exact direct _ (by simp [ValueType.shape, other, wide, Shape.text])
      · rename_i narrow
        cases chosen
        obtain ⟨rfl, rfl⟩ := pure_ok.mp run
        exact direct _ (by simp [ValueType.shape, other, narrow, Shape.text, toString])

def memberLine (names : Id → String) (spelled name : String) (dimensions : List Dimension) : String :=
  s!"{spelled} {name}{lengthsText names dimensions};"

theorem structMember_declares (typed : c.program.getType member = .ok type)
    (numbers : HasNumbers type) (run : structMember struct index member false c = .ok u c') :
    ∃ spelled,
      Names c'.session.typedefs (type.shape (c.program.isMemberPacked struct index)) spelled ∧
      memberLine c.program.plainName spelled (c.program.plainMemberName struct index)
        type.dimensions ∈ c'.pass.lines.toList.map (·.text) := by
  obtain ⟨found, getting, run⟩ := read_bind.mp run
  cases typed.symm.trans getting
  obtain ⟨spelled, named, naming, run⟩ := bind_ok.mp run
  have names := memberTypeName_names typed numbers naming
  obtain ⟨attributes, _, none, run⟩ := bind_ok.mp run
  obtain ⟨rfl, rfl⟩ := pure_ok.mp none
  have printed := statement_prints run
  obtain rfl := modifyPass_ok.mp run
  refine ⟨spelled, names, ?_⟩
  rw [printed.lines]
  have suffix : c.arraySuffix type = lengthsText c.program.plainName type.dimensions := by
    simp only [Compiler.arraySuffix, numbers.not_opaque, Bool.false_eq_true, if_false]
    rfl
  simp [memberLine, suffix, toString]

instance (d : Compiler) (struct : Id) (entry : Nat × Nat) :
    Advancing (ordinaryMember d struct entry) := by
  unfold ordinaryMember
  infer_instance

theorem struct_runs_member {outer : ValueType} (ordinary : struct ∉ c.plan.interfaceStructs)
    (found : c.program.getType struct = .ok outer) (stored : outer.members[index]? = some member)
    (plain : c.program.memberBuiltin? struct index = none)
    (run : Emit.struct struct c = .ok u c') :
    RunsOn (structMember struct index member false) c c' := by
  obtain ⟨_, getting, run⟩ := read_bind.mp run
  cases found.symm.trans getting
  obtain ⟨_, titled, writing, run⟩ := bind_ok.mp run
  obtain ⟨_, opened, opening, run⟩ := bind_ok.mp run
  obtain ⟨_, listed, members, run⟩ := bind_ok.mp run
  obtain ⟨_, closed, closing, run⟩ := bind_ok.mp run
  have apart : decide (struct ∈ c.plan.interfaceStructs) = false := decide_eq_false ordinary
  have loop : outer.members.zipIdx.forM (ordinaryMember c struct) opened = .ok () listed := by
    simp only [apart, Bool.false_or] at members
    exact members
  have declared := forM_runs loop (List.mk_mem_zipIdx_iff_getElem?.mpr stored)
  refine (declared.inside fun start stop run => ?_).within
    ((advances writing).trans (advances opening)) ((advances closing).trans (advances run))
  simp only [ordinaryMember, plain, Option.isNone_none, if_true] at run
  split at run
  · obtain ⟨_, middle, written, run⟩ := bind_ok.mp run
    exact ⟨middle, stop, advances written, run, .refl stop⟩
  · exact ⟨start, stop, .refl start, run, .refl stop⟩

theorem pass_declares_member {outer : ValueType} (run : pass c = .ok u c')
    (found : c'.program.typeAt? struct = some outer)
    (declared : c'.isDeclaredStruct struct outer = true)
    (typed : memberType c'.program struct index = .ok (member, type)) (numbers : HasNumbers type)
    (plain : c'.program.memberBuiltin? struct index = none) :
    ∃ spelled names,
      Names c'.session.typedefs (type.shape (c'.program.isMemberPacked struct index)) spelled ∧
      memberLine names spelled (c'.program.plainMemberName struct index) type.dimensions ∈
        c'.pass.lines.toList.map (·.text) := by
  obtain ⟨before, after, alike, ordinary, printing, later⟩ := pass_runs_struct run found declared
  obtain ⟨stored, getting, listed, getType⟩ := memberType_ok.mp typed
  obtain ⟨start, stop, reached, declaring, rest⟩ :=
    struct_runs_member ordinary ((alike.getType_eq struct).trans getting) listed
      ((alike.memberBuiltin?_eq struct index).trans plain) printing
  have alike := alike.trans reached.program
  have same : SameStruct struct c'.program start.program := .of_alike alike
  obtain ⟨spelled, names, line⟩ :=
    structMember_declares ((alike.getType_eq member).trans getType) numbers declaring
  have last := rest.trans later
  rw [same.isMemberPacked_eq] at names
  rw [same.plainMemberName_eq] at line
  exact ⟨spelled, start.program.plainName, names.mono last.session.typedefs,
    (last.lines.map _).subset line⟩

end Emit

end SpirvMetal
