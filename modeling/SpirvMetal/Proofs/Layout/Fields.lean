import SpirvMetal.Metal.Struct
import SpirvMetal.Proofs.Emit.Keeps
import SpirvMetal.Proofs.Layout.Placement
import SpirvMetal.Proofs.Store.Sorting

/-!
The fields of a struct as it is declared, in the order of its members, and where Metal puts them.
-/

namespace SpirvMetal

open List

def BaseType.bytes : BaseType → Nat
  | .boolean => 1
  | .integer width _ => width.bits / 8
  | .floating width => width.bits / 8
  | _ => 0

namespace Layout

inductive Field
  | padding (index bytes : Nat)
  | member (index : Nat) (packed : Bool) (base : BaseType) (components : Nat)
deriving DecidableEq

namespace Field

/-- What Metal makes of a field. Packed vectors are aligned to their components and take no more
room than they need; others are aligned to their size, in which three components count as four. -/
def room : Field → Room
  | .padding _ bytes => { alignment := 1, size := bytes }
  | .member _ true base components =>
    { alignment := base.bytes, size := base.bytes * components }
  | .member _ false base components =>
    { alignment := base.bytes * widened components, size := base.bytes * widened components }

def text (program : Program) (struct : Id) : Field → String
  | .padding index bytes => s!"char _m{index}_pad[{bytes}];"
  | .member index packed base components =>
    let spelled := (if packed then "packed_" else "") ++ base.spelled components
    s!"{spelled} {program.plainMemberName struct index};"

def index? : Field → Option Nat
  | .padding _ _ => none
  | .member index _ _ _ => some index

end Field

/-- Members with their positions, for fields that lie one after the other from `current` on. -/
def membersFrom (fields : List Field) (current : Nat) : List (Nat × Nat) :=
  (fields.zip (positions (fields.map Field.room) current)).filterMap fun (field, position) =>
    field.index?.map (·, position)

/-- The fields that declare a member: the room before it, if there is any, and the member. -/
def memberFields (program : Program) (struct index : Nat) (type : ValueType) : List Field :=
  let bytes := (program.memberDecorations struct index).padding
  (if 0 < bytes then [.padding index bytes] else []) ++
    [.member index (program.isMemberPacked struct index) type.base type.components]

def fieldsOf (program : Program) (struct : Id) (types : Nat → ValueType) (members : List Nat) :
    List Field :=
  members.flatMap fun index => memberFields program struct index (types index)

variable {program : Program} {struct : Id} {types : Nat → ValueType} {members order : List Nat}
  {type : ValueType} {index current : Nat}

theorem membersFrom_padding (index bytes current : Nat) (rest : List Field) :
    membersFrom (.padding index bytes :: rest) current = membersFrom rest (current + bytes) := by
  have start : nextMultiple current 1 = current := by simp [nextMultiple, Nat.mod_one]
  simp [membersFrom, positions, Field.room, Field.index?, start]

theorem membersFrom_member (index : Nat) (packed : Bool) (base : BaseType)
    (components current : Nat) (rest : List Field) :
    membersFrom (.member index packed base components :: rest) current =
      let room := Field.room (.member index packed base components)
      let position := nextMultiple current room.alignment
      (index, position) :: membersFrom rest (position + room.size) := by
  cases packed <;> simp [membersFrom, positions, Field.room, Field.index?]

theorem room_member (bytes : type.base.bytes = type.width / 8) :
    { Field.room (.member index (program.isMemberPacked struct index) type.base
        type.components) with
      padding := (program.memberDecorations struct index).padding } =
      memberRoom program struct index type := by
  unfold memberRoom
  cases program.isMemberPacked struct index <;> simp [Field.room, bytes]

theorem membersFrom_memberFields (bytes : type.base.bytes = type.width / 8) (rest : List Field) :
    membersFrom (memberFields program struct index type ++ rest) current =
      let room := memberRoom program struct index type
      let position := nextMultiple (current + room.padding) room.alignment
      (index, position) :: membersFrom rest (position + room.size) := by
  rw [← room_member bytes]
  unfold memberFields
  dsimp only
  split
  · rw [append_assoc, singleton_append, membersFrom_padding, singleton_append,
      membersFrom_member]
  · rename_i free
    have none : (program.memberDecorations struct index).padding = 0 := by omega
    rw [nil_append, singleton_append, membersFrom_member, none, Nat.add_zero]

theorem membersFrom_fieldsOf
    (bytes : ∀ index ∈ members, (types index).base.bytes = (types index).width / 8) :
    membersFrom (fieldsOf program struct types members) current = members.zip
        (positions (members.map fun index => memberRoom program struct index (types index))
          current) := by
  induction members generalizing current with
  | nil => rfl
  | cons index rest ih =>
    have here := bytes index (by simp)
    rw [fieldsOf, flatMap_cons, membersFrom_memberFields here]
    rw [map_cons, positions, zip_cons_cons]
    exact congrArg _ (ih fun other member => bytes other (by simp [member]))

theorem positions_ascending {rooms : List Room} (sized : ∀ room ∈ rooms, 0 < room.size)
    (current : Nat) :
    (positions rooms current).Pairwise (· < ·) ∧
      ∀ position ∈ positions rooms current, current ≤ position := by
  induction rooms generalizing current with
  | nil => simp [positions]
  | cons room rest ih =>
    have size := sized room (by simp)
    have up : current + room.padding ≤ nextMultiple (current + room.padding) room.alignment :=
      Nat.le_add_right ..
    obtain ⟨ascending, above⟩ := ih (fun room member => sized room (by simp [member]))
      (nextMultiple (current + room.padding) room.alignment + room.size)
    rw [positions, pairwise_cons, forall_mem_cons]
    refine ⟨⟨fun position member => ?_, ascending⟩, by omega, fun position member => ?_⟩
    · have := above position member
      omega
    · have := above position member
      omega

theorem length_positions (rooms : List Room) (current : Nat) :
    (positions rooms current).length = rooms.length := by
  induction rooms generalizing current with
  | nil => rfl
  | cons room rest ih => simp [positions, ih]

theorem size_pos (plain : IsPlain type) : 0 < (memberRoom program struct index type).size := by
  have wide := IsPlain.le_widened type
  have some := plain.some
  unfold memberRoom
  split
  · exact Nat.mul_pos plain.bytes plain.some
  · exact Nat.mul_pos plain.bytes (by omega)

theorem mem_membersByOffset {count : Nat} (typed : program.getType struct = .ok type)
    (listed : membersByOffset program struct = .ok order) (same : type.members.length = count) :
    index ∈ order ↔ index ∈ List.range count := by
  obtain ⟨found, getting, listed⟩ := Except.bind_ok.mp listed
  cases typed.symm.trans getting
  cases listed
  rw [mem_sortBy, same]

theorem membersByOffset_of_ascending (typed : program.getType struct = .ok type)
    (plain : ∀ index < type.members.length, program.memberBuiltin? struct index = none)
    (ascending : (List.range type.members.length).Pairwise fun index next =>
      memberOffset program struct index < memberOffset program struct next) :
    membersByOffset program struct = .ok (List.range type.members.length) := by
  have sorted : (List.range type.members.length).Pairwise fun index next =>
      precedes program struct index next = true := by
    refine ascending.imp_of_mem fun first second below => ?_
    have first := plain _ (mem_range.mp first)
    have second := plain _ (mem_range.mp second)
    simp [precedes, first, second, Nat.le_of_lt below]
  refine Except.bind_ok.mpr ⟨type, typed, ?_⟩
  exact congrArg Except.ok (sortBy_of_pairwise sorted)

/-- Every member lies at its offset if members are placed in the order of their offsets. -/
def Placed (program : Program) (struct : Id) (types : Nat → ValueType) (order : List Nat) : Prop :=
  positions (order.map fun index => memberRoom program struct index (types index)) 0 =
    order.map (memberOffset program struct)

/-- Members that are placed well in the order of their offsets are placed well in the order of their
declaration exactly if this is the same order. -/
theorem membersFrom_iff (typed : program.getType struct = .ok type)
    (listed : membersByOffset program struct = .ok order)
    (spaced : Spaced program struct types order)
    (plain : ∀ index ∈ order, program.memberBuiltin? struct index = none)
    (bytes : ∀ index ∈ order, (types index).base.bytes = (types index).width / 8)
    (placed : Placed program struct types order) :
    membersFrom (fieldsOf program struct types (List.range type.members.length)) 0 =
        (List.range type.members.length).map (fun index =>
          (index, memberOffset program struct index)) ↔
      (List.range type.members.length).Pairwise fun index next =>
        memberOffset program struct index < memberOffset program struct next := by
  have mem (index : Nat) : index ∈ order ↔ index ∈ List.range type.members.length :=
    mem_membersByOffset typed listed rfl
  rw [membersFrom_fieldsOf fun index member => bytes index ((mem index).mpr member)]
  constructor
  · intro same
    have sized : ∀ room ∈ (List.range type.members.length).map fun index =>
        memberRoom program struct index (types index), 0 < room.size := by
      intro room member
      obtain ⟨index, declared, rfl⟩ := mem_map.mp member
      exact size_pos (spaced.plain index ((mem index).mpr declared))
    have ascending := (positions_ascending sized 0).1
    have offsets := congrArg (List.map Prod.snd) same
    rw [map_snd_zip (by simp [length_positions]), map_map] at offsets
    rw [offsets, pairwise_map] at ascending
    exact ascending
  · intro ascending
    have declared := membersByOffset_of_ascending typed
      (fun index below => plain index ((mem index).mpr (mem_range.mpr below))) ascending
    obtain rfl := Except.ok.inj (listed.symm.trans declared)
    rw [Placed] at placed
    rw [placed, map_prod_left_eq_zip]

end Layout

/-- The text of a pass has got new lines; the program is as before. -/
structure Compiler.Prints (lines : List String) (before after : Compiler) : Prop where
  program : after.program = before.program
  lines : after.pass.lines.toList.map (·.text) = before.pass.lines.toList.map (·.text) ++ lines

namespace Compiler.Prints

variable {first second third : Compiler} {front back : List String}

theorem refl (c : Compiler) : Prints [] c c := ⟨rfl, by simp⟩

theorem append (left : Prints front first second) (right : Prints back second third) :
    Prints (front ++ back) first third where
  program := right.program.trans left.program
  lines := by rw [right.lines, left.lines, append_assoc]

end Compiler.Prints

namespace Emit

open Compiler (Prints)
open Layout

variable {c c' : Compiler} {u : Unit} {struct index member : Nat} {type : ValueType}

theorem statement_prints {text : String} (run : statement text c = .ok u c') :
    Prints [text] c c' := by
  obtain rfl := modifyPass_ok.mp run
  exact ⟨rfl, by simp⟩

theorem beginScope_prints (run : beginScope c = .ok u c') : Prints ["\x7b"] c c' := by
  obtain ⟨_, middle, written, run⟩ := bind_ok.mp run
  obtain rfl := modifyPass_ok.mp run
  exact ⟨(statement_prints written).program, (statement_prints written).lines⟩

theorem endDeclaration_prints (run : endDeclaration c = .ok u c') : Prints ["\x7d;"] c c' := by
  obtain ⟨_, middle, left, run⟩ := bind_ok.mp run
  obtain rfl := modifyPass_ok.mp left
  exact ⟨(statement_prints run).program, (statement_prints run).lines⟩

theorem typeName_plain (typed : c.program.getType member = .ok type) (plain : IsPlain type)
    (value : type.pointer = false) :
    c.typeName member = .ok (type.base.spelled type.components) := by
  have numeric := plain.numeric
  rw [← BaseType.numeric_spelled numeric]
  simp only [Compiler.typeName, Compiler.typeNameFor, Program.depth, Compiler.typeNameWithin, typed,
    bind, Except.bind, value, plain.not_array, Bool.false_and, Bool.false_eq_true, if_false,
    plain.columns]
  cases base : type.base <;> simp_all [BaseType.isNumeric]

theorem memberTypeName_plain {spelled : String} (typed : c.program.getType member = .ok type)
    (plain : IsPlain type) (value : type.pointer = false)
    (run : memberTypeName struct index member type c = .ok spelled c') :
    spelled = (if c.program.isMemberPacked struct index then "packed_" else "") ++
        type.base.spelled type.components ∧ c = c' := by
  have form : PackedForm.ofType type = .ok .packed := by
    simp [PackedForm.ofType, plain.not_struct, plain.not_array, plain.columns]
  obtain ⟨natural, named, run⟩ := read_bind.mp run
  cases (typeName_plain typed plain value).symm.trans named
  cases packed : c.program.isMemberPacked struct index with
  | false =>
    rw [packed] at run
    obtain ⟨rfl, rfl⟩ := pure_ok.mp run
    exact ⟨by simp, rfl⟩
  | true =>
    rw [packed, form] at run
    obtain ⟨_, chosen, run⟩ := lift_bind.mp run
    cases chosen
    obtain ⟨rfl, rfl⟩ := pure_ok.mp run
    exact ⟨rfl, rfl⟩

theorem structMember_prints (typed : c.program.getType member = .ok type) (plain : IsPlain type)
    (value : type.pointer = false) (run : structMember struct index member false c = .ok u c') :
    Prints [Field.text c.program struct (.member index (c.program.isMemberPacked struct index)
      type.base type.components)] c c' := by
  have suffix : c.arraySuffix type = "" := by
    simp [Compiler.arraySuffix, plain.dimensions]
  obtain ⟨found, getting, run⟩ := read_bind.mp run
  cases typed.symm.trans getting
  obtain ⟨spelled, _, naming, run⟩ := bind_ok.mp run
  obtain ⟨rfl, rfl⟩ := memberTypeName_plain typed plain value naming
  obtain ⟨attributes, _, none, run⟩ := bind_ok.mp run
  obtain ⟨rfl, rfl⟩ := pure_ok.mp none
  simpa [suffix, toString, Field.text] using statement_prints run

/-- Members that can be declared: scalars and vectors of numbers, which are not builtins. `types`
gives their types. -/
@[mk_iff]
structure Declares (program : Program) (struct : Id) (types : Nat → ValueType) (index : Nat) :
    Prop where
  value : (types index).pointer = false
  bytes : (types index).base.bytes = (types index).width / 8
  plain : program.memberBuiltin? struct index = none

instance (program : Program) (struct : Id) (types : Nat → ValueType) (index : Nat) :
    Decidable (Declares program struct types index) :=
  decidable_of_iff' _ (declares_iff program struct types index)

variable {types : Nat → ValueType} {d : Compiler}

def ordinaryMember (d : Compiler) (struct : Id) (entry : Nat × Nat) : Emit Unit := do
  if (d.program.memberBuiltin? struct entry.2).isNone then
    let padding := (d.program.memberDecorations struct entry.2).padding
    if 0 < padding then statement s!"char _m{entry.2}_pad[{padding}];"
    structMember struct entry.2 entry.1 false

theorem ordinaryMember_prints (same : c.program = d.program)
    (typed : d.program.getType member = .ok (types index)) (plain : IsPlain (types index))
    (declares : Declares d.program struct types index)
    (run : ordinaryMember d struct (member, index) c = .ok u c') :
    Prints ((memberFields d.program struct index (types index)).map (Field.text d.program struct)) c
      c' := by
  simp only [ordinaryMember, declares.plain, Option.isNone_none, if_true] at run
  unfold memberFields
  dsimp only
  split at run
  · rename_i free
    obtain ⟨_, middle, written, run⟩ := bind_ok.mp run
    have printed := statement_prints written
    have same := printed.program.trans same
    have declared := structMember_prints (same ▸ typed) plain declares.value run
    rw [same] at declared
    rw [if_pos free]
    exact printed.append declared
  · rename_i none
    have declared := structMember_prints (same ▸ typed) plain declares.value run
    rw [same] at declared
    rw [if_neg none]
    exact declared

theorem ordinaryMembers_print {entries : List (Nat × Nat)} (same : c.program = d.program)
    (typed : ∀ entry ∈ entries, d.program.getType entry.1 = .ok (types entry.2))
    (plain : ∀ entry ∈ entries, IsPlain (types entry.2))
    (declares : ∀ entry ∈ entries, Declares d.program struct types entry.2)
    (run : entries.forM (ordinaryMember d struct) c = .ok u c') :
    Prints ((fieldsOf d.program struct types (entries.map (·.2))).map (Field.text d.program struct)) c
      c' := by
  induction entries generalizing c with
  | nil =>
    obtain ⟨-, rfl⟩ := pure_ok.mp run
    exact .refl c
  | cons entry rest ih =>
    obtain ⟨_, middle, first, run⟩ := bind_ok.mp run
    have printed := ordinaryMember_prints same (typed entry (by simp)) (plain entry (by simp))
      (declares entry (by simp)) first
    have later := ih (printed.program.trans same)
      (fun entry member => typed entry (by simp [member]))
      (fun entry member => plain entry (by simp [member]))
      (fun entry member => declares entry (by simp [member])) run
    rw [map_cons, fieldsOf, flatMap_cons, map_append]
    exact printed.append later

def declarationLines (name : String) (fields : List String) : List String :=
  [s!"struct {name}"] ++ (["\x7b"] ++ (fields ++ (["\x7d;"] ++ [""])))

theorem struct_prints (ordinary : struct ∉ c.plan.interfaceStructs)
    (found : c.program.getType struct = .ok type)
    (typed : ∀ index ∈ List.range type.members.length,
      ∃ id, memberType c.program struct index = .ok (id, types index))
    (plain : ∀ index ∈ List.range type.members.length, IsPlain (types index))
    (declares : ∀ index ∈ List.range type.members.length, Declares c.program struct types index)
    (run : Emit.struct struct c = .ok u c') :
    Prints (declarationLines (c.program.plainName struct)
      ((fieldsOf c.program struct types (List.range type.members.length)).map
        (Field.text c.program struct))) c c' := by
  obtain ⟨stored, getting, run⟩ := read_bind.mp run
  cases found.symm.trans getting
  obtain ⟨_, titled, writing, run⟩ := bind_ok.mp run
  obtain ⟨_, opened, opening, run⟩ := bind_ok.mp run
  obtain ⟨_, listed, members, run⟩ := bind_ok.mp run
  obtain ⟨_, closed, closing, run⟩ := bind_ok.mp run
  have started := (statement_prints writing).append (beginScope_prints opening)
  have apart : decide (struct ∈ c.plan.interfaceStructs) = false := decide_eq_false ordinary
  have loop : type.members.zipIdx.forM (ordinaryMember c struct) opened = .ok () listed := by
    simp only [apart, Bool.false_or] at members
    exact members
  have indices : type.members.zipIdx.map (·.2) = List.range type.members.length := by
    rw [zipIdx_map_snd, range_eq_range']
  have inside (entry : Nat × Nat) (member : entry ∈ type.members.zipIdx) :
      entry.2 ∈ List.range type.members.length := by
    rw [← indices]
    exact mem_map_of_mem member
  have getType (entry : Nat × Nat) (member : entry ∈ type.members.zipIdx) :
      c.program.getType entry.1 = .ok (types entry.2) := by
    obtain ⟨id, typed⟩ := typed _ (inside entry member)
    have stored : type.members[entry.2]? = some entry.1 := mk_mem_zipIdx_iff_getElem?.mp member
    simp only [memberType, found, stored, bind, Except.bind] at typed
    split at typed
    · cases typed
    · rename_i getting
      cases typed
      exact getting
  have printed := ordinaryMembers_print started.program getType
    (fun entry member => plain _ (inside entry member))
    (fun entry member => declares _ (inside entry member)) loop
  rw [indices] at printed
  exact (statement_prints writing).append ((beginScope_prints opening).append
    (printed.append ((endDeclaration_prints closing).append (statement_prints run))))

end Emit

end SpirvMetal
