import Mathlib.Data.List.Chain
import Mathlib.Tactic.MkIffOfInductiveProp
import SpirvMetal.Proofs.Layout.Decision
import SpirvMetal.Proofs.Text.Spelling

/-!
Where Metal places the members of a struct. Packing makes a member small enough to fit, and padding
moves it as far as it was declared.
-/

namespace SpirvMetal

open List

namespace Layout

variable {value alignment target : Nat}

/-- The first multiple of an alignment that is not below a value. -/
def nextMultiple (value alignment : Nat) : Nat :=
  value + (alignment - value % alignment) % alignment

theorem alignUp_eq (value alignment : Nat) :
    alignUp value alignment = nextMultiple value alignment := by
  unfold alignUp nextMultiple
  split
  · obtain rfl | rfl : alignment = 0 ∨ alignment = 1 := by omega
    · simp
    · simp [Nat.mod_one]
  · have whole := Nat.div_add_mod value alignment
    have below := Nat.mod_lt value (show alignment > 0 by omega)
    generalize value % alignment = rest at *
    generalize value / alignment = count at *
    subst whole
    rw [Nat.mul_comm]
    by_cases exact : rest = 0
    · subst exact
      rw [Nat.add_zero, Nat.sub_zero, Nat.mod_self, Nat.add_sub_assoc (by omega),
        Nat.mul_add_div (by omega), Nat.div_eq_of_lt (by omega), Nat.add_zero, Nat.add_zero]
    · have further : alignment * count + rest + alignment - 1 =
          alignment * (count + 1) + (rest - 1) := by
        rw [Nat.mul_add, Nat.mul_one]
        omega
      rw [further, Nat.mul_add_div (by omega), Nat.div_eq_of_lt (by omega),
        Nat.mod_eq_of_lt (by omega), Nat.add_zero, Nat.mul_add, Nat.mul_one]
      omega

theorem nextMultiple_le (aligned : alignment ∣ target) (below : value ≤ target) :
    nextMultiple value alignment ≤ target := by
  rw [← alignUp_eq]
  unfold alignUp
  split
  · exact below
  · obtain ⟨count, rfl⟩ := aligned
    have bounded : (value + alignment - 1) / alignment < count + 1 := by
      rw [Nat.div_lt_iff_lt_mul (by omega), Nat.add_mul, Nat.one_mul, Nat.mul_comm count]
      omega
    rw [Nat.mul_comm alignment]
    exact Nat.mul_le_mul_right alignment (Nat.le_of_lt_succ bounded)

/-- The components that a vector has room for. -/
def widened (components : Nat) : Nat := if components = 3 then 4 else components

theorem roomy_eq : roomy = widened := rfl

structure Room where
  padding : Nat := 0
  alignment : Nat
  size : Nat
deriving DecidableEq

def positions : List Room → (current : Nat) → List Nat
  | [], _ => []
  | room :: rest, current =>
    let position := nextMultiple (current + room.padding) room.alignment
    position :: positions rest (position + room.size)

/-- What a scalar or vector takes up as a member. A packed one has the alignment of its components;
otherwise it is aligned to its size, in which three components count as four. -/
def memberRoom (program : Program) (struct member : Nat) (type : ValueType) : Room :=
  let component := type.width / 8
  let padding := (program.memberDecorations struct member).padding
  if program.isMemberPacked struct member then
    { padding, alignment := component, size := component * type.components }
  else
    { padding
      alignment := component * widened type.components
      size := component * widened type.components }

/-- Scalars and vectors whose components take whole bytes. -/
@[mk_iff]
structure IsPlain (type : ValueType) : Prop where
  numeric : type.base.isNumeric = true
  columns : type.columns = 1
  dimensions : type.dimensions = []
  some : 1 ≤ type.components
  few : type.components ≤ 4
  bytes : 0 < type.width / 8

instance (type : ValueType) : Decidable (IsPlain type) :=
  decidable_of_iff' _ (isPlain_iff type)

/-- Members that are scalars and vectors, each declared at a multiple of its components' size and
behind the end of the member before it. `types` gives their types. -/
@[mk_iff]
structure Spaced (program : Program) (struct : Id) (types : Nat → ValueType) (order : List Nat) :
    Prop where
  typed : ∀ member ∈ order, ∃ id, memberType program struct member = .ok (id, types member)
  plain : ∀ member ∈ order, IsPlain (types member)
  aligned : ∀ member ∈ order, (types member).width / 8 ∣ memberOffset program struct member
  apart : order.IsChain fun member next =>
    memberOffset program struct member + (types member).width / 8 * (types member).components ≤
      memberOffset program struct next

instance {α β : Type} [DecidableEq β] (result : Except Fault (α × β)) (b : β) :
    Decidable (∃ a, result = .ok (a, b)) :=
  match result with
  | .ok (_, found) => decidable_of_iff (found = b) (by simp)
  | .error _ => isFalse (by simp)

instance (program : Program) (struct : Id) (types : Nat → ValueType) (order : List Nat) :
    Decidable (Spaced program struct types order) :=
  decidable_of_iff' _ (spaced_iff program struct types order)

variable {program after : Program} {struct member current : Nat} {type : ValueType}
  {types : Nat → ValueType} {order rest : List Nat}

namespace IsPlain

theorem sized (plain : IsPlain type) : sizeless type = false := by
  have numeric := plain.numeric
  unfold sizeless ValueType.isOpaque
  cases base : type.base <;> simp_all [BaseType.isNumeric, BaseType.isOpaque]

theorem not_struct (plain : IsPlain type) : type.isStruct = false := by
  have numeric := plain.numeric
  unfold ValueType.isStruct
  cases base : type.base <;> simp_all [BaseType.isNumeric]

theorem not_array (plain : IsPlain type) : type.isArray = false := by
  rw [ValueType.isArray, plain.dimensions]
  rfl

theorem le_widened (type : ValueType) : type.components ≤ widened type.components := by
  unfold widened
  split <;> omega

theorem room_pos (plain : IsPlain type) : 0 < type.width / 8 * type.components :=
  Nat.mul_pos plain.bytes plain.some

end IsPlain

theorem memberAlignment_plain {id : Id} (typed : memberType program struct member = .ok (id, type))
    (plain : IsPlain type) :
    memberAlignment program struct member =
      .ok (memberRoom program struct member type).alignment := by
  simp only [memberAlignment, Program.depth, alignmentWithin, typed, bind, Except.bind, plain.sized,
    plain.not_struct, plain.not_array, plain.columns, roomy_eq, widened, memberRoom]
  cases program.isMemberPacked struct member <;> simp [pure, Except.pure]

theorem memberSize_plain {id : Id} (typed : memberType program struct member = .ok (id, type))
    (plain : IsPlain type) :
    memberSize program struct member = .ok (memberRoom program struct member type).size := by
  have single : type.outer? = none := by
    rw [ValueType.outer?, plain.dimensions]
    rfl
  simp only [memberSize, Program.depth, sizeWithin, typed, bind, Except.bind, plain.sized, single,
    plain.not_struct, plain.columns, roomy_eq, memberRoom]
  cases program.isMemberPacked struct member <;> simp [pure, Except.pure]

/-- Whether a member that is not packed fits: its offset is a multiple of its size, and it ends
before the next member. -/
def Fits (program : Program) (struct member : Nat) (type : ValueType) (next : Option Nat) : Prop :=
  program.isMemberPacked struct member = false →
    type.width / 8 * widened type.components ∣ memberOffset program struct member ∧ ∀ limit ∈ next,
        memberOffset program struct member + type.width / 8 * widened type.components ≤ limit

/-- Every member fits before the one that follows it. -/
def AllFit (program : Program) (struct : Id) (types : Nat → ValueType) : List Nat → Prop
  | [] => True
  | member :: rest =>
    Fits program struct member (types member) (rest.head?.map (memberOffset program struct)) ∧
      AllFit program struct types rest

theorem isPackable_plain {id : Id} {next : Option Nat}
    (typed : memberType program struct member = .ok (id, type)) (plain : IsPlain type)
    (loose : program.isMemberPacked struct member = false) :
    isPackable program struct member next = .ok (type.components ≠ 1 &&
        (memberOffset program struct member % (type.width / 8 * widened type.components) ≠ 0 ||
          next.any fun next =>
            next - memberOffset program struct member <
              type.width / 8 * widened type.components)) := by
  have size : type.width / 8 * widened type.components ≠ 0 := by
    have wide := IsPlain.le_widened type
    have some := plain.some
    exact Nat.mul_ne_zero (Nat.pos_iff_ne_zero.mp plain.bytes) (by omega)
  have matrix : ¬ 1 < type.columns := by
    rw [plain.columns]
    omega
  simp only [isPackable, loose, typed, isSpread, overruns, roomy_eq, plain.not_array, plain.columns,
    bind, Except.bind, pure, Except.pure]
  by_cases scalar : type.components = 1
  · simp [scalar]
  · by_cases offset : memberOffset program struct member %
        (type.width / 8 * widened type.components) = 0
    · cases next <;> simp [scalar, offset, size]
    · simp [scalar, offset, size]

namespace Spaced

theorem tail (spaced : Spaced program struct types (member :: rest)) :
    Spaced program struct types rest where
  typed other found := spaced.typed other (mem_cons_of_mem member found)
  plain other found := spaced.plain other (mem_cons_of_mem member found)
  aligned other found := spaced.aligned other (mem_cons_of_mem member found)
  apart := spaced.apart.tail

theorem congr (spaced : Spaced program struct types order)
    (same : SameMembers struct program after) : Spaced after struct types order where
  typed member found := by
    rw [same.memberType_eq]
    exact spaced.typed member found
  plain := spaced.plain
  aligned member found := by
    rw [same.memberOffset_eq]
    exact spaced.aligned member found
  apart := by
    rw [same.memberOffset_eq]
    exact spaced.apart

theorem next (spaced : Spaced program struct types (member :: rest)) {limit : Nat}
    (found : limit ∈ rest.head?.map (memberOffset program struct)) :
    memberOffset program struct member + (types member).width / 8 * (types member).components ≤
      limit := by
  cases rest with
  | nil => simp at found
  | cons following rest =>
    have apart := (isChain_cons_cons.mp spaced.apart).1
    simp only [List.head?_cons, Option.map_some, Option.mem_some_iff] at found
    omega

theorem ascending (spaced : Spaced program struct types order) : order.Pairwise fun member next =>
      memberOffset program struct member < memberOffset program struct next := by
  have : Trans (fun member next : Nat =>
      memberOffset program struct member < memberOffset program struct next)
      (fun member next => memberOffset program struct member < memberOffset program struct next)
      (fun member next => memberOffset program struct member < memberOffset program struct next) :=
    ⟨fun first second => Nat.lt_trans first second⟩
  rw [← isChain_iff_pairwise]
  induction order with
  | nil => exact .nil
  | cons member rest ih =>
    cases rest with
    | nil => exact .singleton member
    | cons next rest =>
      have apart := (isChain_cons_cons.mp spaced.apart).1
      have room := (spaced.plain member mem_cons_self).room_pos
      exact .cons_cons (by omega) (ih spaced.tail)

theorem fits (spaced : Spaced program struct types (member :: rest))
    (kept : isPackable program struct member (rest.head?.map (memberOffset program struct)) =
      .ok false)
    (loose : program.isMemberPacked struct member = false) :
    Fits program struct member (types member)
      (rest.head?.map (memberOffset program struct)) := by
  obtain ⟨id, typed⟩ := spaced.typed member mem_cons_self
  have plain := spaced.plain member mem_cons_self
  have aligned := spaced.aligned member mem_cons_self
  rw [isPackable_plain typed plain loose] at kept
  intro _
  by_cases scalar : (types member).components = 1
  · have narrow : (types member).width / 8 * widened (types member).components =
        (types member).width / 8 * (types member).components := by
      simp [scalar, widened]
    rw [narrow]
    refine ⟨?_, fun limit found => spaced.next found⟩
    rw [scalar, Nat.mul_one]
    exact aligned
  · simp only [ne_eq, scalar, not_false_eq_true, decide_true, Bool.true_and, Except.ok.injEq,
      Bool.or_eq_false_iff, decide_eq_false_iff_not, Decidable.not_not] at kept
    refine ⟨Nat.dvd_of_mod_eq_zero kept.1, fun limit found => ?_⟩
    have room := kept.2
    have above := spaced.next found
    rw [Option.mem_def.mp found, Option.any_some, decide_eq_false_iff_not] at room
    omega

end Spaced

theorem isMemberPacked_setMemberPacked (program : Program) (struct member other : Nat) :
    (program.setMemberPacked struct member).isMemberPacked struct other =
      (decide (other = member) || program.isMemberPacked struct other) := by
  simp only [Program.isMemberPacked, Program.setMemberPacked,
    Program.memberDecorations_modifyMember, true_and]
  by_cases same : other = member <;> simp [same]

theorem packMembers_keeps_packed (run : packMembers struct order program = .ok () after)
    (packed : program.isMemberPacked struct member = true) :
    after.isMemberPacked struct member = true := by
  let Keeps (p q : Program) := p.isMemberPacked struct member → q.isMemberPacked struct member
  have keeps : Keeps program _ := packMembers_relates Keeps (fun _ => id) (fun f g => g ∘ f) order
    program fun p other _ already => by rw [isMemberPacked_setMemberPacked, already, Bool.or_true]
  rw [run] at keeps
  exact keeps packed

theorem Fits.mono {next : Option Nat} (fits : Fits program struct member type next)
    (laid : Laid program after)
    (packed : program.isMemberPacked struct member = true →
      after.isMemberPacked struct member = true) :
    Fits after struct member type next := by
  intro loose
  rw [(laid.sameMembers struct).memberOffset_eq]
  apply fits
  cases already : program.isMemberPacked struct member with
  | false => rfl
  | true => exact (packed already).symm.trans loose

theorem packMembers_fits (spaced : Spaced program struct types order) :
    ∃ packed, packMembers struct order program = .ok () packed ∧
      AllFit packed struct types order := by
  induction order generalizing program with
  | nil => exact ⟨program, rfl, trivial⟩
  | cons member rest ih =>
    obtain ⟨id, typed⟩ := spaced.typed member mem_cons_self
    have plain := spaced.plain member mem_cons_self
    -- What is decided for the member holds in the end, since nothing is unpacked again.
    have settle {next packed : Program} (step : Decides struct program next)
        (decided : Fits next struct member (types member)
          (rest.head?.map (memberOffset program struct)))
        (run : packMembers struct rest next = .ok () packed)
        (fit : AllFit packed struct types rest) :
        AllFit packed struct types (member :: rest) := by
      have later := (packMembers_decides run).toLaid
      have offsets : memberOffset packed struct = memberOffset program struct :=
        (step.toLaid.trans later |>.sameMembers struct).memberOffset_eq
      refine ⟨?_, fit⟩
      rw [offsets]
      exact decided.mono later (packMembers_keeps_packed run)
    rw [packMembers_cons]
    cases already : program.isMemberPacked struct member with
    | true =>
      obtain ⟨packed, run, fit⟩ := ih spaced.tail
      have decided : Fits program struct member (types member)
          (rest.head?.map (memberOffset program struct)) := by
        intro loose
        rw [already] at loose
        cases loose
      exact ⟨packed, run, settle (.refl struct program) decided run fit⟩
    | false =>
      simp only [Bool.false_eq_true, if_false]
      cases needed : isPackable program struct member
          (rest.head?.map (memberOffset program struct)) with
      | error fault =>
        rw [isPackable_plain typed plain already] at needed
        cases needed
      | ok needs =>
        cases needs with
        | true =>
          have step := decides_setMemberPacked program struct member
          obtain ⟨packed, run, fit⟩ := ih (spaced.tail.congr (step.toLaid.sameMembers struct))
          have decided : Fits (program.setMemberPacked struct member) struct member
              (types member) (rest.head?.map (memberOffset program struct)) := by
            intro loose
            simp [isMemberPacked_setMemberPacked] at loose
          exact ⟨packed, run, settle step decided run fit⟩
        | false =>
          obtain ⟨packed, run, fit⟩ := ih spaced.tail
          exact ⟨packed, run, settle (.refl struct program) (spaced.fits needed already) run fit⟩

theorem isMemberPacked_padMember (program : Program) (struct member padding other : Nat) :
    (padMember program struct member padding).isMemberPacked struct other =
      program.isMemberPacked struct other := by
  simp only [Program.isMemberPacked, padMember, Program.memberDecorations_modifyMember, true_and]
  split
  · rename_i same
    rw [same]
  · rfl

theorem padding_padMember (program : Program) (struct member padding other : Nat) :
    ((padMember program struct member padding).memberDecorations struct other).padding =
      if other = member then padding else (program.memberDecorations struct other).padding := by
  simp only [padMember, Program.memberDecorations_modifyMember, true_and]
  split <;> rfl

theorem nextMultiple_padded (positive : 0 < alignment)
    (aligned : alignment ∣ memberOffset program struct member)
    (below : current ≤ memberOffset program struct member) :
    nextMultiple (current + paddingAfter program struct member current alignment) alignment =
      memberOffset program struct member := by
  have natural : max alignment 1 = alignment := Nat.max_eq_left positive
  unfold paddingAfter
  simp only [natural, alignUp_eq]
  split
  · rw [Nat.add_sub_cancel' below]
    exact Nat.le_antisymm (nextMultiple_le aligned (Nat.le_refl _)) (Nat.le_add_right ..)
  · rename_i near
    rw [Nat.add_zero]
    have reached := Nat.le_of_not_lt near
    exact Nat.le_antisymm (nextMultiple_le aligned below) reached

theorem Spaced.alignment_dvd (spaced : Spaced program struct types (member :: rest))
    (fit : AllFit program struct types (member :: rest)) :
    (memberRoom program struct member (types member)).alignment ∣
      memberOffset program struct member := by
  have aligned := spaced.aligned member mem_cons_self
  cases packed : program.isMemberPacked struct member with
  | true => simpa only [memberRoom, packed, if_true] using aligned
  | false => simpa only [memberRoom, packed, Bool.false_eq_true, if_false] using (fit.1 packed).1

theorem Spaced.ends_before_next (spaced : Spaced program struct types (member :: rest))
    (fit : AllFit program struct types (member :: rest)) {limit : Nat}
    (found : limit ∈ rest.head?.map (memberOffset program struct)) :
    memberOffset program struct member +
      (memberRoom program struct member (types member)).size ≤ limit := by
  cases packed : program.isMemberPacked struct member with
  | true => simpa only [memberRoom, packed, if_true] using spaced.next found
  | false =>
    simpa only [memberRoom, packed, Bool.false_eq_true, if_false] using (fit.1 packed).2 _ found

theorem alignment_pos (plain : IsPlain type) :
    0 < (memberRoom program struct member type).alignment := by
  have wide := IsPlain.le_widened type
  have some := plain.some
  unfold memberRoom
  split
  · exact plain.bytes
  · exact Nat.mul_pos plain.bytes (by omega)

theorem AllFit.laid (fit : AllFit program struct types order) (laid : Laid program after)
    (packed : ∀ member, after.isMemberPacked struct member = program.isMemberPacked struct member) :
    AllFit after struct types order := by
  have offsets := (laid.sameMembers struct).memberOffset_eq
  induction order with
  | nil => trivial
  | cons member rest ih =>
    refine ⟨?_, ih fit.2⟩
    rw [offsets]
    exact fit.1.mono laid (packed member).trans

theorem padMembers_places (spaced : Spaced program struct types order)
    (fit : AllFit program struct types order)
    (below : ∀ offset ∈ order.head?.map (memberOffset program struct), current ≤ offset) :
    ∃ padded, padMembers struct order current program = .ok () padded ∧
      (∀ member, padded.isMemberPacked struct member = program.isMemberPacked struct member) ∧
      (∀ member, member ∉ order → (padded.memberDecorations struct member).padding =
        (program.memberDecorations struct member).padding) ∧
      positions (order.map fun member => memberRoom padded struct member (types member)) current =
        order.map (memberOffset program struct) := by
  induction order generalizing program current with
  | nil => exact ⟨program, rfl, fun _ => rfl, fun _ _ => rfl, rfl⟩
  | cons member rest ih =>
    obtain ⟨id, typed⟩ := spaced.typed member mem_cons_self
    have plain := spaced.plain member mem_cons_self
    have lands := nextMultiple_padded (alignment_pos plain) (spaced.alignment_dvd fit)
      (below _ (by simp))
    rw [padMembers_cons, memberAlignment_plain typed plain]
    generalize chosen : paddingAfter program struct member current
      (memberRoom program struct member (types member)).alignment = padding at lands
    have step := decides_padMember program struct member padding
    have same := step.toLaid.sameMembers struct
    have packed := isMemberPacked_padMember program struct member padding
    -- What the member takes up is settled by its packing and by the room that is left free.
    have room {final : Program}
        (same : final.isMemberPacked struct member = program.isMemberPacked struct member)
        (free : (final.memberDecorations struct member).padding = padding) :
        memberRoom final struct member (types member) =
          { memberRoom program struct member (types member) with padding } := by
      unfold memberRoom
      rw [same, free]
      split <;> rfl
    have placed {final : Program}
        (same : final.isMemberPacked struct member = program.isMemberPacked struct member)
        (free : (final.memberDecorations struct member).padding = padding) (others : List Room) :
        positions (memberRoom final struct member (types member) :: others) current =
          memberOffset program struct member :: positions others
            (memberOffset program struct member +
              (memberRoom program struct member (types member)).size) := by
      rw [room same free, positions]
      simp only [lands]
    cases rest with
    | nil =>
      refine ⟨padMember program struct member padding, by simp [chosen], packed, ?_, ?_⟩
      · intro other absent
        rw [padding_padMember, if_neg (by simpa using absent)]
      · rw [map_singleton, placed (packed member) (by simp [padding_padMember])]
        rfl
    | cons next rest =>
      have typed' : memberType (padMember program struct member padding) struct member =
          .ok (id, types member) := (same.memberType_eq member).trans typed
      have size := memberSize_plain typed' plain
      rw [room (packed member) (by simp [padding_padMember])] at size
      have offsets := same.memberOffset_eq
      obtain ⟨padded, run, kept, free, positioned⟩ :=
        ih (spaced.tail.congr same) (fit.2.laid step.toLaid packed)
          (fun limit found => spaced.ends_before_next fit (by rwa [offsets] at found))
      have absent : member ∉ next :: rest := fun again =>
        Nat.lt_irrefl _ ((pairwise_cons.mp spaced.ascending).1 member again)
      refine ⟨padded, ?_, fun other => (kept other).trans (packed other), ?_, ?_⟩
      · simp only [chosen, isEmpty_cons, Bool.false_eq_true, if_false, size]
        exact run
      · intro other missing
        rw [mem_cons, not_or] at missing
        rw [free other missing.2, padding_padMember, if_neg missing.1]
      · rw [map_cons, placed ((kept member).trans (packed member))
          (by rw [free member absent, padding_padMember, if_pos rfl]), positioned, offsets]
        rfl

theorem packThenPad_places (spaced : Spaced program struct types order) :
    ∃ packed after, packMembers struct order program = .ok () packed ∧
      padMembers struct order 0 packed = .ok () after ∧
      positions (order.map fun member => memberRoom after struct member (types member)) 0 =
        order.map (memberOffset program struct) := by
  obtain ⟨packed, packing, fit⟩ := packMembers_fits spaced
  have same := (packMembers_decides packing).toLaid.sameMembers struct
  have start : ∀ offset ∈ order.head?.map (memberOffset packed struct), 0 ≤ offset :=
    fun offset _ => Nat.zero_le offset
  obtain ⟨after, padding, _, _, placed⟩ := padMembers_places (spaced.congr same) fit start
  rw [same.memberOffset_eq] at placed
  exact ⟨packed, after, packing, padding, placed⟩

/-- The layout of a struct of scalars and vectors succeeds and places every member at its declared
offset, whatever was packed before. -/
theorem alignStruct_places (listed : membersByOffset program struct = .ok order)
    (spaced : Spaced program struct types order) :
    ∃ after, alignStruct struct program = .ok () after ∧
      positions (order.map fun member => memberRoom after struct member (types member)) 0 =
        order.map (memberOffset program struct) := by
  obtain ⟨packed, after, packing, padding, placed⟩ := packThenPad_places spaced
  exact ⟨after, alignStruct_ok.mpr ⟨order, packed, listed, packing, padding⟩, placed⟩

/-- A struct with members in another order than their offsets. The last of them, which was packed
before, comes first. -/
def mixedProgram : Program where
  records :=
    { bound := 10
      items := ⟨[
        (1, .type { base := .float, width := 32 }),
        (2, .type { base := .float, width := 32, components := 4 }),
        (3, .type { base := .float, width := 32, components := 3 }),
        (4, .type { base := .half, width := 16 }),
        (5, .type { base := .struct, width := 0, members := [2, 3, 1, 4], baseId := 5 })]⟩ }
  notes := ⟨[(5,
    { members := [
        { flags := [.offset], offset := 32, packed := true },
        { flags := [.offset] },
        { flags := [.offset], offset := 12 },
        { flags := [.offset], offset := 18 }] })]⟩

def mixedTypes : Nat → ValueType
  | 0 => { base := .float, width := 32, components := 4 }
  | 1 => { base := .float, width := 32, components := 3 }
  | 2 => { base := .float, width := 32 }
  | _ => { base := .half, width := 16 }

theorem alignStruct_places_mixed : ∃ after, alignStruct 5 mixedProgram = .ok () after ∧
      positions ([1, 2, 3, 0].map fun member =>
        memberRoom after 5 member (mixedTypes member)) 0 = [0, 12, 18, 32] := by
  have listed : membersByOffset mixedProgram 5 = .ok [1, 2, 3, 0] := by rfl
  have spaced : Spaced mixedProgram 5 mixedTypes [1, 2, 3, 0] := by decide
  exact alignStruct_places listed spaced

end Layout

end SpirvMetal
