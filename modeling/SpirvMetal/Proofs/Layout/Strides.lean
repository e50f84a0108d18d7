import Mathlib.Data.List.Perm.Basic
import SpirvMetal.Proofs.Layout.Numbering
import SpirvMetal.Proofs.Layout.Shape

/-!
Strides that are declared, and strides that are printed. Nothing compares those of inner dimensions
or of matrices, so they are kept exactly if the printed type happens to have them.
-/

namespace SpirvMetal

open List
open Program

namespace Layout

variable {before after program : Program} {struct member index : Nat} {id : Id} {type : ValueType}
  {order : List Nat} {next : Option Nat}

def asks (program : Program) (struct member : Nat) (type : ValueType) (next : Option Nat) :
    Except Fault Bool := do
  if ← isSpread program struct member type then return true
  overruns program struct member type next

theorem isPackable_unpacked (unpacked : program.isMemberPacked struct member = false)
    (typed : memberType program struct member = .ok (id, type)) :
    isPackable program struct member next = asks program struct member type next := by
  simp only [isPackable, asks, unpacked, typed, Bool.false_eq_true, if_false]
  rfl

theorem asks_congr (plain : type.isStruct = false)
    (strides : memberStride after struct member = memberStride before struct member)
    (rows : after.hasMemberDecoration struct member .rowMajor =
      before.hasMemberDecoration struct member .rowMajor)
    (counts : after.elementCount = before.elementCount)
    (offsets : memberOffset after struct = memberOffset before struct) :
    asks after struct member type next = asks before struct member type next := by
  simp only [asks, isSpread, overruns, plain, strides, rows, counts, offsets, Bool.false_eq_true,
    if_false]

theorem Laid.asks_eq (laid : Laid before after) (plain : type.isStruct = false) :
    asks after struct member type next = asks before struct member type next :=
  asks_congr plain (laid.memberStride_eq struct member)
    (laid.hasMemberDecoration_eq struct member .rowMajor) laid.elementCount_eq
    (laid.sameMembers struct).memberOffset_eq

def following (index : Nat) : List Nat → Option Nat
  | [] => none
  | first :: rest => if first = index then rest.head? else following index rest

theorem packMembers_keeps_others (other : index ∉ order)
    (run : packMembers struct order before = .ok () after) :
    after.isMemberPacked struct index = before.isMemberPacked struct index := by
  let Keeps (p q : Program) := q.isMemberPacked struct index = p.isMemberPacked struct index
  have keeps : Keeps before _ := packMembers_relates Keeps (fun _ => rfl) (fun f g => g.trans f)
    order before fun p first listed => by
      have differ : index ≠ first := fun same => other (same ▸ listed)
      exact (isMemberPacked_setMemberPacked ..).trans (by simp [differ])
  rwa [run] at keeps

theorem packMembers_asks (unpacked : ∀ index ∈ order, before.isMemberPacked struct index = false)
    (distinct : order.Nodup) (run : packMembers struct order before = .ok () after)
    (listed : index ∈ order) (typed : memberType before struct index = .ok (id, type))
    (plain : type.isStruct = false) :
    asks before struct index type ((following index order).map (memberOffset before struct)) =
      .ok (after.isMemberPacked struct index) := by
  induction order generalizing before with
  | nil => cases listed
  | cons first rest ih =>
    obtain ⟨other, distinct⟩ := nodup_cons.mp distinct
    rw [packMembers_cons, unpacked first mem_cons_self] at run
    by_cases same : first = index
    · subst same
      rw [isPackable_unpacked (unpacked first mem_cons_self) typed] at run
      rw [following, if_pos rfl]
      split at run
      · contradiction
      · split at run
        · cases run
        · rename_i needed
          have packed := packMembers_keeps_packed run
            (by rw [isMemberPacked_setMemberPacked, decide_eq_true rfl, Bool.true_or])
          rw [needed, packed]
        · rename_i needed
          rw [needed, packMembers_keeps_others other run, unpacked first mem_cons_self]
    · -- the decision about the first member leaves the others as they are
      have later {middle : Program} (laid : Laid before middle)
          (kept : ∀ index ∈ rest, middle.isMemberPacked struct index = false)
          (run : packMembers struct rest middle = .ok () after) :
          asks before struct index type
              ((following index (first :: rest)).map (memberOffset before struct)) =
            .ok (after.isMemberPacked struct index) := by
        have same' := laid.sameMembers struct
        have found := ih kept distinct run (mem_of_ne_of_mem (Ne.symm same) listed)
          ((same'.memberType_eq index).trans typed)
        rw [laid.asks_eq plain, same'.memberOffset_eq] at found
        rw [following, if_neg same]
        exact found
      have rest_unpacked (index : Nat) (member : index ∈ rest) :
          before.isMemberPacked struct index = false :=
        unpacked index (mem_cons_of_mem _ member)
      split at run
      · contradiction
      · split at run
        · cases run
        · refine later (decides_setMemberPacked before struct first).toLaid ?_ run
          intro index member
          have differ : index ≠ first := fun same => other (same ▸ member)
          rw [isMemberPacked_setMemberPacked, decide_eq_false differ, Bool.false_or]
          exact rest_unpacked index member
        · exact later (.refl before) rest_unpacked run

/-- Arrays of scalars or vectors, of any number of dimensions. -/
@[mk_iff]
structure IsVectorArray (type : ValueType) : Prop where
  numeric : type.base.isNumeric = true
  columns : type.columns = 1
  dimensions : type.dimensions ≠ []
  some : 1 ≤ type.components
  few : type.components ≤ 4

instance (type : ValueType) : Decidable (IsVectorArray type) :=
  decidable_of_iff' _ (isVectorArray_iff type)

/-- Whether elements with the outermost stride are not declared with their natural type: scalars and
pairs that are four components apart, and vectors that are closer than their natural type.
`inner` elements are in one of the outermost dimension. -/
def respaced (type : ValueType) (stride inner : Nat) : Bool :=
  type.components ≤ 2 && stride = 4 * (type.width / 8) ||
    2 ≤ type.components && stride < type.width / 8 * widened type.components * inner

namespace IsVectorArray

section

variable (array : IsVectorArray type)

include array

theorem not_struct : type.isStruct = false := by
  have numeric := array.numeric
  unfold ValueType.isStruct
  cases base : type.base <;> simp_all [BaseType.isNumeric]

theorem is_array : type.isArray = true := by
  have dimensions := array.dimensions
  unfold ValueType.isArray
  cases shape : type.dimensions <;> simp_all

theorem asks_eq : asks program struct member type next =
      (memberStride program struct member).map fun stride =>
        respaced type stride (program.elementCount type.dimensions.dropLast) := by
  have few := array.few
  have some := array.some
  simp only [asks, isSpread, overruns, roomy_eq, array.not_struct, array.is_array, array.columns,
    respaced, Nat.mul_one, Bool.not_true, Bool.false_eq_true, if_false, decide_true, Bool.true_and,
    Nat.lt_irrefl, decide_false, Bool.false_and, Bool.or_false, if_true]
  cases memberStride program struct member with
  | error fault =>
    by_cases narrow : type.components ≤ 2
    · simp [narrow, bind, Except.bind, Except.map]
    · simp [narrow, bind, Except.bind, Except.map, pure, Except.pure,
        show ¬ type.components = 1 by omega]
  | ok stride =>
    by_cases narrow : type.components ≤ 2
    · by_cases spread : stride = 4 * (type.width / 8)
      · simp [narrow, spread, bind, Except.bind, Except.map, pure, Except.pure]
      · by_cases one : type.components = 1
        · simp [one, spread, bind, Except.bind, Except.map, pure, Except.pure]
        · simp [narrow, spread, one, bind, Except.bind, Except.map, pure, Except.pure,
            show 2 ≤ type.components by omega]
    · simp [narrow, bind, Except.bind, Except.map, pure, Except.pure,
        show ¬ type.components = 1 by omega, show 2 ≤ type.components by omega]

theorem size_shape (packed : Bool) : (type.shape packed).size = type.base.bytes *
        if packed then if type.components ≤ 2 then 4 else type.components
        else widened type.components := by
  have four : widened 4 = 4 := rfl
  cases packed with
  | false => simp [ValueType.shape, Shape.size, Shape.columnBytes, array.columns]
  | true =>
    by_cases narrow : type.components ≤ 2
    · simp [ValueType.shape, Shape.size, Shape.columnBytes, array.columns, array.is_array, narrow,
        four]
    · simp [ValueType.shape, Shape.size, Shape.columnBytes, array.columns, narrow]

end

end IsVectorArray

/-- Elements that take `size` bytes lie, in every dimension of an array type, as far apart as is
declared there. Dimensions are outermost first. -/
def Honours (program : Program) (size : Nat) : (dimensions : List Dimension) → Id → Prop
  | [], _ => True
  | _ :: inner, id =>
    (program.hasDecoration id .arrayStride = true →
      program.getDecoration id .arrayStride = size * program.elementCount inner) ∧
    ∀ element ∈ (program.typeAt? id).bind (·.parent), Honours program size inner element

instance decidableHonours (program : Program) (size : Nat) :
    (dimensions : List Dimension) → (id : Id) → Decidable (Honours program size dimensions id)
  | [], _ => isTrue trivial
  | _ :: inner, id =>
    have (element : Id) := decidableHonours program size inner element
    inferInstanceAs (Decidable ((_ → _) ∧
      ∀ element ∈ (program.typeAt? id).bind (·.parent), Honours program size inner element))

theorem elementCount_reverse (program : Program) (dimensions : List Dimension) :
    program.elementCount dimensions.reverse = program.elementCount dimensions := by
  have swaps : RightCommutative fun count dimension =>
      count * max (program.dimensionLength dimension) 1 :=
    ⟨fun count first second => Nat.mul_right_comm count _ _⟩
  exact (reverse_perm dimensions).foldl_eq 1

theorem bytes_pos {base : BaseType} (numeric : base.isNumeric = true) : 0 < base.bytes := by
  cases base with
  | boolean => simp [BaseType.bytes]
  | integer width signed => cases width <;> simp [BaseType.bytes, IntWidth.bits]
  | floating width => cases width <;> simp [BaseType.bytes, FloatWidth.bits]
  | _ => cases numeric

theorem Honours.outermost {stride size : Nat} (array : IsVectorArray type)
    (typed : memberType program struct member = .ok (id, type))
    (strided : memberStride program struct member = .ok stride)
    (honours : Honours program size type.dimensions.reverse id) :
    stride = size * program.elementCount type.dimensions.dropLast := by
  have split := dropLast_append_getLast array.dimensions
  rw [← split, reverse_append, reverse_singleton, singleton_append, Honours,
    elementCount_reverse] at honours
  simp only [memberStride, typed, bind, Except.bind, pure, Except.pure] at strided
  split at strided
  · rename_i declared
    cases strided
    exact honours.1 declared
  · cases strided

/-- The count of components that the outermost stride selects is right for all strides if elements of
this count lie next to each other. A scalar or a pair is taken for four components, wrongly, if
several of them have the stride of four; and a vector is taken for a closer one rightly. -/
theorem selected_iff {tight : Nat → Prop} {components stride unit span inner : Nat}
    (outermost : ∀ count, tight count → stride = count * span) (bytes : 0 < unit)
    (wide : unit ≤ span) (single : span = unit ↔ inner = 1) (some : 1 ≤ components)
    (few : components ≤ 4) :
    tight (if components ≤ 2 && stride = 4 * unit ||
          2 ≤ components && stride < widened components * span
        then if components ≤ 2 then 4 else components else widened components) ↔
      if components ≤ 2 then tight components ∧ stride ≠ 4 * unit ∨ tight 4 ∧ inner = 1
      else tight components ∨ tight 4 := by
  have four := outermost 4
  have own := outermost components
  obtain rfl | rfl | rfl | rfl :
      components = 1 ∨ components = 2 ∨ components = 3 ∨ components = 4 := by omega
  · by_cases spread : stride = 4 * unit <;> grind [widened]
  · by_cases spread : stride = 4 * unit <;> grind [widened]
  · by_cases close : stride < 4 * span <;> grind [widened]
  · grind [widened]

/-- The printed type keeps the strides if elements lie next to each other in all dimensions, as packed
ones or as ones of four components. Scalars and pairs are printed with four components if the
outermost stride is that of four; this is wrong where only several of them take so much. -/
theorem honours_iff {stride : Nat} (array : IsVectorArray type)
    (typed : memberType program struct member = .ok (id, type))
    (strided : memberStride program struct member = .ok stride)
    (whole : type.base.bytes = type.width / 8) :
    let inner := program.elementCount type.dimensions.dropLast
    let tight components :=
      Honours program (type.base.bytes * components) type.dimensions.reverse id
    Honours program (type.shape (respaced type stride inner)).size type.dimensions.reverse id ↔
      if type.components ≤ 2 then
        tight type.components ∧ stride ≠ 4 * type.base.bytes ∨ tight 4 ∧ inner = 1
      else tight type.components ∨ tight 4 := by
  intro inner tight
  have bytes := bytes_pos array.numeric
  have outermost (components : Nat) (honours : tight components) :
      stride = components * (type.base.bytes * inner) := by
    rw [Honours.outermost array typed strided honours]
    ring
  have single : type.base.bytes * inner = type.base.bytes ↔ inner = 1 :=
    Nat.mul_eq_left (by omega)
  have wide : type.base.bytes ≤ type.base.bytes * inner :=
    Nat.le_mul_of_pos_right _ (elementCount_pos ..)
  have limit : type.width / 8 * widened type.components * inner =
      widened type.components * (type.base.bytes * inner) := by
    rw [← whole]
    ring
  rw [array.size_shape, respaced, limit, ← whole]
  exact selected_iff outermost bytes wide single array.some array.few

/-- Matrices that Metal has: up to four columns and rows of half or single precision numbers. -/
@[mk_iff]
structure IsMatrix (type : ValueType) : Prop where
  precision : type.base = .floating (if type.width = 16 then .half else .single)
  dimensions : type.dimensions = []
  rows : 2 ≤ type.components ∧ type.components ≤ 4
  columns : 2 ≤ type.columns ∧ type.columns ≤ 4

instance (type : ValueType) : Decidable (IsMatrix type) :=
  decidable_of_iff' _ (isMatrix_iff type)

/-- Whether a matrix is declared with rows in the place of columns: a row-major one of three rows,
unless the next member is far enough behind it. -/
def turned (program : Program) (struct member : Nat) (type : ValueType) (next : Option Nat) :
    Bool :=
  program.hasMemberDecoration struct member .rowMajor && type.components = 3 && next.all fun next =>
      next - memberOffset program struct member < type.width / 8 * 4 * type.columns

namespace IsMatrix

variable {stride : Nat}

section

variable (matrix : IsMatrix type)

include matrix

theorem not_struct : type.isStruct = false := by
  simp [ValueType.isStruct, matrix.precision]

theorem numeric : type.base.isNumeric = true := by
  simp [BaseType.isNumeric, matrix.precision]

theorem asks_eq :
    asks program struct member type next = .ok (turned program struct member type next) := by
  have rows := matrix.rows
  have columns : 1 < type.columns := matrix.columns.1
  have single : type.isArray = false := by simp [ValueType.isArray, matrix.dimensions]
  have several : type.components ≠ 1 := by omega
  simp only [asks, isSpread, overruns, turned, single, several, columns, decide_true, decide_false,
    Bool.true_and, Bool.false_or, Bool.not_false, Bool.not_true, Bool.false_and, if_true,
    Bool.false_eq_true, if_false, decide_eq_true_eq, pure, Except.pure, bind, Except.bind]
  by_cases three : type.components = 3
  · cases program.hasMemberDecoration struct member .rowMajor with
    | false => simp [three]
    | true => cases next <;> simp [three, roomy_eq, widened]
  · simp [three]

theorem spaces_columns : (type.shape false).Spaces type.columns type.components stride ↔
      stride = type.base.bytes * widened type.components := by
  have rows := matrix.rows
  exact Shape.spaces_columns matrix.columns.1 (by simp [ValueType.shape]; omega)

theorem spaces_rows_turned : (type.shape true).Spaces type.components type.columns stride ↔
      stride = type.base.bytes * widened type.columns := by
  have rows : 1 < type.components := matrix.rows.1
  have columns : 1 < type.columns := matrix.columns.1
  have shape : type.shape true =
      { base := type.base, components := type.columns, columns := type.components } := by
    simp [ValueType.shape, rows, columns, matrix.precision]
  rw [shape]
  exact Shape.spaces_columns matrix.rows.1 (by simp; omega)

theorem spaces_rows : (type.shape false).Spaces type.components type.columns stride ↔
      if type.components = 3 then type.columns = 3 ∧ stride = type.base.bytes * 4
      else stride = type.base.bytes * type.columns := by
  have rows := matrix.rows
  have columns := matrix.columns
  have bytes := bytes_pos matrix.numeric
  by_cases three : type.components = 3
  · have roomy : (type.shape false).columnBytes = type.base.bytes * 4 := by
      simp [ValueType.shape, Shape.columnBytes, three, Layout.widened]
    rw [if_pos three, three]
    by_cases square : type.columns = 3
    · have length : (type.shape false).components = 3 := three
      have spaced : (type.shape false).Spaces 3 (type.shape false).components stride ↔
          stride = (type.shape false).columnBytes := Shape.spaces_columns (by omega) (by omega)
      rw [length, roomy] at spaced
      rw [square, spaced]
      exact ⟨fun same => ⟨rfl, same⟩, fun same => same.2⟩
    · have uneven : ¬ (type.shape false).Spaces 3 type.columns stride :=
        Shape.not_spaces_uneven three roomy bytes (by omega)
      exact ⟨fun spaced => (uneven spaced).elim, fun same => (square same.1).elim⟩
  · rw [if_neg three]
    refine Shape.spaces_dense ?_ rows.1 (by omega)
    simp [ValueType.shape, Shape.columnBytes, Layout.widened, three]

end

end IsMatrix

namespace Echoes

theorem of_alike (alike : before.Alike after) : Echoes before after where
  types := alike.getType_eq
  lengths := dimensionLength_congr alike.constantAt?_eq
  strided id := alike.decorated id .arrayStride rfl
  strides id := alike.valued id .arrayStride rfl
  members := alike.memberDecorations_eq

variable (echoes : Echoes before after)

include echoes

theorem elementCount_eq : after.elementCount = before.elementCount := by
  funext dimensions
  rw [elementCount, elementCount, echoes.lengths]

theorem memberStride_eq (struct member : Nat) :
    memberStride after struct member = memberStride before struct member := by
  simp only [memberStride, (echoes.sameStruct struct).sameMembers.memberType_eq, echoes.strided,
    echoes.strides]

theorem asks_eq (plain : type.isStruct = false) :
    asks after struct member type next = asks before struct member type next :=
  asks_congr plain (echoes.memberStride_eq struct member)
    (by rw [hasMemberDecoration, echoes.members, hasMemberDecoration])
    echoes.elementCount_eq (echoes.sameStruct struct).sameMembers.memberOffset_eq

end Echoes

end Layout

namespace Emit

open Layout

variable {start : Program} {struct index : Nat} {order : List Nat} {id : Id}
  {type : ValueType}

theorem prepare_asks {m : Spirv.Module} {options : Options} {program : Program} {ready : Compiler}
    (loaded : Program.ofModule m = .ok program)
    (preparing : prepare (Compiler.new program options) = .ok () ready)
    (marked : struct ∈ ready.plan.packableStructs) :
    ∃ order, membersByOffset ready.program struct = .ok order ∧
      ∀ index id type, memberType ready.program struct index = .ok (id, type) →
        type.isStruct = false →
        asks ready.program struct index type
            ((following index order).map (memberOffset ready.program struct)) =
          .ok (ready.program.isMemberPacked struct index) := by
  obtain ⟨_, surveyed, surveying, run⟩ := bind_ok.mp preparing
  obtain ⟨_, threaded, threading, run⟩ := bind_ok.mp run
  obtain ⟨_, laid, laying, run⟩ := bind_ok.mp run
  obtain ⟨loose, unmarked⟩ := loose_before_layout loaded surveying threading
  have echoes : Compiler.Echoes laid ready := Keeps.keeps run
  rw [echoes.plan] at marked
  obtain ⟨order, start, seen⟩ := layoutStructs_seen loose unmarked laying marked
  have same := echoes.program.sameStruct struct
  refine ⟨order, same.sameMembers.membersByOffset_eq.trans seen.listed_final, ?_⟩
  intro index id type typed plain
  rw [same.sameMembers.memberType_eq] at typed
  rw [echoes.program.asks_eq plain, same.sameMembers.memberOffset_eq, same.isMemberPacked_eq]
  obtain ⟨unpacked, aligned, loose⟩ := seen.aligned
  obtain ⟨listing, packed, listed, packing, padding⟩ := alignStruct_ok.mp aligned
  have laid := (alignStruct_decides aligned).toLaid.trans seen.laid
  have same := laid.sameMembers struct
  cases (same.membersByOffset_eq.trans listed).symm.trans seen.listed_final
  obtain ⟨distinct, complete⟩ := membersByOffset_ok listed
  rw [same.memberType_eq] at typed
  have found := packMembers_asks (fun index _ => loose index) distinct packing
    (complete index _ typed) typed plain
  rw [laid.asks_eq plain, same.memberOffset_eq, found, seen.packed_eq (Nat.le_refl struct),
    padMembers_keeps_packed padding]

/-- The declared strides of arrays and matrices in buffers, and the types that are printed. An array
gets the element type that its outermost stride selects; then all strides are kept exactly if the
elements lie next to each other in all dimensions, as packed ones or as ones of four components,
where scalars and pairs count as four only if one of them has the outermost stride. A matrix gets the
type that the room behind it selects; then its stride is kept exactly if it is that of the type. -/
theorem compile_keeps_strides_iff {m : Spirv.Module} {options : Options} {program : Program}
    {text : String} {stop : Compiler} (loaded : Program.ofModule m = .ok program)
    (compiled : compile (Compiler.new program options) = .ok text stop) :
    stop.output = text ∧ ∀ struct ∈ stop.plan.packableStructs, ∃ order,
        membersByOffset stop.program struct = .ok order ∧
        ∀ index id type, memberType stop.program struct index = .ok (id, type) →
          type.pointer = false →
          let shape := type.shape (stop.program.isMemberPacked struct index)
          let unit := type.base.bytes
          ((IsVectorArray type ∨ IsMatrix type) →
            ∀ outer, stop.program.typeAt? struct = some outer →
              stop.isDeclaredStruct struct outer = true →
              stop.program.memberBuiltin? struct index = none →
              ∃ spelled names, shape.Names stop.session.typedefs spelled ∧
                memberLine names spelled (stop.program.plainMemberName struct index)
                  type.dimensions ∈ stop.pass.lines.toList.map (·.text)) ∧
          (IsVectorArray type → ∃ stride, memberStride stop.program struct index = .ok stride ∧
            let inner := stop.program.elementCount type.dimensions.dropLast
            let keeps bytes := Honours stop.program bytes type.dimensions.reverse id
            shape = type.shape (respaced type stride inner) ∧
            (unit = type.width / 8 →
              (keeps shape.size ↔ if type.components ≤ 2 then
                  keeps (unit * type.components) ∧ stride ≠ 4 * unit ∨ keeps (unit * 4) ∧ inner = 1
                else keeps (unit * type.components) ∨ keeps (unit * 4)))) ∧
          (IsMatrix type → let stride := stop.program.getMemberDecoration struct index .matrixStride
            let next := (following index order).map (memberOffset stop.program struct)
            let isTurned := turned stop.program struct index type next
            shape = type.shape isTurned ∧
            (stop.program.hasMemberDecoration struct index .rowMajor = false →
              (shape.Spaces type.columns type.components stride ↔
                stride = unit * widened type.components)) ∧
            (stop.program.hasMemberDecoration struct index .rowMajor = true →
              (shape.Spaces type.components type.columns stride ↔
                if isTurned then stride = unit * widened type.columns
                else if type.components = 3 then type.columns = 3 ∧ stride = unit * 4
                else stride = unit * type.columns))) := by
  obtain ⟨ready, start, prepared, writes, same⟩ := compile_last compiled
  refine ⟨same, fun struct marked => ?_⟩
  have preparing : prepare (Compiler.new program options) = .ok () ready := by
    rcases prepared with preparing | ⟨done, _⟩
    · exact preparing
    · cases done
  have all : start.Advances stop := advances writes.written
  have echoes : Layout.Echoes ready.program stop.program :=
    .of_alike (writes.program.trans all.program)
  have marks : stop.plan.packableStructs = ready.plan.packableStructs :=
    settled_eq (·.packableStructs) (fun _ => rfl) (all.plan.trans writes.plan)
  have kept := (echoes.sameStruct struct).sameMembers
  obtain ⟨order, listed, chosen⟩ := prepare_asks loaded preparing (marks ▸ marked)
  refine ⟨order, kept.membersByOffset_eq.trans listed, fun index id type typed value => ?_⟩
  have asked (plain : type.isStruct = false) : asks stop.program struct index type
          ((following index order).map (memberOffset stop.program struct)) =
        .ok (stop.program.isMemberPacked struct index) := by
    rw [echoes.asks_eq plain, kept.memberOffset_eq, (echoes.sameStruct struct).isMemberPacked_eq]
    exact chosen index id type ((kept.memberType_eq index).symm.trans typed) plain
  refine ⟨fun kind outer found declared plain => ?_, fun array => ?_, fun matrix => ?_⟩
  · have numbers : HasNumbers type := by
      rcases kind with array | matrix
      · exact ⟨value, array.numeric, fun _ several => by simp [array.columns] at several⟩
      · exact ⟨value, matrix.numeric, fun _ _ => matrix.precision⟩
    exact pass_declares_member writes.written found declared typed numbers plain
  · have asked := asked array.not_struct
    rw [array.asks_eq] at asked
    cases strided : memberStride stop.program struct index with
    | error fault =>
      rw [strided] at asked
      cases asked
    | ok stride =>
      rw [strided] at asked
      have packed : respaced type stride _ = stop.program.isMemberPacked struct index :=
        Except.ok.inj asked
      rw [← packed]
      exact ⟨stride, rfl, rfl, fun whole => honours_iff array typed strided whole⟩
  · have asked := asked matrix.not_struct
    rw [matrix.asks_eq] at asked
    have packed := Except.ok.inj asked
    rw [← packed]
    refine ⟨rfl, fun columns => ?_, fun rows => ?_⟩
    · rw [show turned stop.program struct index type _ = false by simp [turned, columns]]
      exact matrix.spaces_columns
    · cases isTurned : turned stop.program struct index type _ with
      | true => simpa using matrix.spaces_rows_turned
      | false => simpa using matrix.spaces_rows

/-- A buffer with four times four scalars or vectors of floats, for both strides that are given, and
behind them a matrix of three rows. -/
def stridedBuffer (components inner outer : Nat) : Spirv.Module where
  entryPoints := [.entry .glCompute 10 []]
  annotations := [⟨.decorate, none, none, [.idRef 7, .decoration .block]⟩,
    ⟨.decorate, none, none, [.idRef 14, .decoration .arrayStride, .literal inner]⟩,
    ⟨.decorate, none, none, [.idRef 15, .decoration .arrayStride, .literal outer]⟩,
    .onMember 7 0 .offset [0], .onMember 7 1 .offset [4 * outer], .onMember 7 1 .rowMajor [],
    .onMember 7 1 .matrixStride [16]]
  globals := [⟨.typeVoid, none, some 5, []⟩, ⟨.typeFloat, none, some 1, [.literal 32]⟩,
    ⟨.typeVector, none, some 2, [.idRef 1, .literal 2]⟩,
    ⟨.typeVector, none, some 3, [.idRef 1, .literal 3]⟩,
    ⟨.typeInt, none, some 6, [.literal 32, .literal 0]⟩,
    ⟨.constant, some 6, some 13, [.literal 4]⟩,
    ⟨.typeArray, none, some 14, [.idRef components, .idRef 13]⟩,
    ⟨.typeArray, none, some 15, [.idRef 14, .idRef 13]⟩,
    ⟨.typeMatrix, none, some 16, [.idRef 3, .literal 3]⟩,
    ⟨.typeStruct, none, some 7, [.idRef 15, .idRef 16]⟩, .pointer 8 .storageBuffer 7,
    .variable 9 8 .storageBuffer,
    ⟨.typeFunction, none, some 11, [.idRef 5]⟩]
  functions := [.ofBody 5 10 11 12 []]

def stridedArray (components : Nat) : ValueType :=
  { base := .float, width := 32, components, dimensions := [.literal 4, .literal 4]
    parent := some 14, baseId := components }

def stridedMatrix : ValueType :=
  { base := .float, width := 32, components := 3, columns := 3, parent := some 3, baseId := 16 }

/-- Vectors of three components that are packed, in two dimensions, and a matrix that is turned: both
keep their strides. -/
theorem compile_keeps_strides_iff_packed : ∃ program text stop,
      Program.ofModule (stridedBuffer 3 12 48) = .ok program ∧
      compile (Compiler.new program {}) = .ok text stop ∧ 7 ∈ stop.plan.packableStructs ∧
      memberType stop.program 7 0 = .ok (15, stridedArray 3) ∧
      memberType stop.program 7 1 = .ok (16, stridedMatrix) ∧
      "packed_float3 _m0[4][4];" ∈ stop.pass.lines.toList.map (·.text) ∧
      "packed_float3x3 _m1;" ∈ stop.pass.lines.toList.map (·.text) ∧
      Honours stop.program
        ((stridedArray 3).shape (stop.program.isMemberPacked 7 0)).size
        (stridedArray 3).dimensions.reverse 15 ∧
      (stridedMatrix.shape (stop.program.isMemberPacked 7 1)).Spaces 3 3
        (stop.program.getMemberDecoration 7 1 .matrixStride) := by
  have computed : (compiled? (stridedBuffer 3 12 48) {}).any (fun stop =>
      7 ∈ stop.plan.packableStructs ∧
      memberType stop.program 7 0 = .ok (15, stridedArray 3) ∧
      memberType stop.program 7 1 = .ok (16, stridedMatrix) ∧
      "packed_float3 _m0[4][4];" ∈ stop.pass.lines.toList.map (·.text) ∧
      "packed_float3x3 _m1;" ∈ stop.pass.lines.toList.map (·.text) ∧
      Honours stop.program 12 (stridedArray 3).dimensions.reverse 15 ∧
      stop.program.hasMemberDecoration 7 1 .rowMajor = true ∧
      membersByOffset stop.program 7 = .ok [0, 1] ∧
      turned stop.program 7 1 stridedMatrix none = true ∧
      stop.program.getMemberDecoration 7 1 .matrixStride = 16) = true := by
    decide +kernel
  obtain ⟨program, text, stop, loaded, compiled, marked, array, matrix, printed, printed', tight,
    rows, listed, isTurned, stride⟩ := compiled?_decide computed
  obtain ⟨_, strides⟩ := compile_keeps_strides_iff loaded compiled
  obtain ⟨order, ordered, strides⟩ := strides 7 marked
  cases listed.symm.trans ordered
  obtain ⟨-, arrays, -⟩ := strides 0 15 (stridedArray 3) array rfl
  obtain ⟨-, -, matrices⟩ := strides 1 16 stridedMatrix matrix rfl
  obtain ⟨_, _, _, kept⟩ := arrays (by decide)
  obtain ⟨-, -, spaced⟩ := matrices (by decide)
  refine ⟨program, text, stop, loaded, compiled, marked, array, matrix, printed, printed',
    (kept (by decide)).mpr (.inl tight), (spaced rows).mpr ?_⟩
  have isTurned : turned stop.program 7 1 stridedMatrix
      ((following 1 [0, 1]).map (memberOffset stop.program 7)) = true := isTurned
  rw [isTurned, stride]
  rfl

/-- Sixteen scalars, next to each other in both dimensions, are printed with four components each,
since four of them have the stride of four components. -/
theorem scalars_widened : ∃ program text stop,
      Program.ofModule (stridedBuffer 1 4 16) = .ok program ∧
      compile (Compiler.new program {}) = .ok text stop ∧ 7 ∈ stop.plan.packableStructs ∧
      memberType stop.program 7 0 = .ok (15, stridedArray 1) ∧
      "float4 _m0[4][4];" ∈ stop.pass.lines.toList.map (·.text) ∧
      Honours stop.program 4 (stridedArray 1).dimensions.reverse 15 ∧
      ¬ Honours stop.program ((stridedArray 1).shape (stop.program.isMemberPacked 7 0)).size
        (stridedArray 1).dimensions.reverse 15 :=
  compiled?_decide (by decide +kernel)

end Emit

end SpirvMetal
