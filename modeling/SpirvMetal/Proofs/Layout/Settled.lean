import Mathlib.Logic.Relation
import SpirvMetal.Proofs.Layout.Fields

/-!
What the layout of a struct depends on besides what is declared: which of its members are packed,
and which members of the structs that are nested in it.
-/

namespace SpirvMetal

open List
open Program

theorem mapM_succeeds {α β : Type} {step : α → Except Fault β} {items : List α} :
    (∃ results, items.mapM step = .ok results) ↔ ∀ item ∈ items, ∃ result, step item = .ok result := by
  induction items with
  | nil => simp [pure, Except.pure]
  | cons first rest ih =>
    simp only [mapM_cons, Except.bind_ok, pure, Except.pure, Except.ok.injEq,
      forall_mem_cons, ← ih]
    constructor
    · rintro ⟨_, result, found, results, others, _⟩
      exact ⟨⟨result, found⟩, results, others⟩
    · rintro ⟨⟨result, found⟩, results, others⟩
      exact ⟨_, result, found, results, others, rfl⟩

/-- The second computation gives a result wherever the first one does. -/
def Follows {α β : Type} (first : Except Fault α) (second : Except Fault β) : Prop :=
  ∀ ⦃a⦄, first = .ok a → ∃ b, second = .ok b

namespace Follows

variable {α α' β β' : Type} {first : Except Fault α} {second : Except Fault α'}
  {next : α → Except Fault β} {next' : α' → Except Fault β'}

theorem refl (first : Except Fault α) : Follows first first := fun a done => ⟨a, done⟩

theorem ok (b : β) : Follows first (.ok b : Except Fault β) := fun _ _ => ⟨b, rfl⟩

theorem bind (begun : Follows first second) (rest : ∀ a b, Follows (next a) (next' b)) :
    Follows (first >>= next) (second >>= next') := by
  intro _ done
  obtain ⟨a, found, done⟩ := Except.bind_ok.mp done
  obtain ⟨b, found'⟩ := begun found
  obtain ⟨result, done⟩ := rest a b done
  exact ⟨result, Except.bind_ok.mpr ⟨b, found', done⟩⟩

theorem same {next' : α → Except Fault β'} (rest : ∀ a, Follows (next a) (next' a)) :
    Follows (first >>= next) (first >>= next') := by
  intro _ done
  obtain ⟨a, found, done⟩ := Except.bind_ok.mp done
  obtain ⟨result, done⟩ := rest a done
  exact ⟨result, Except.bind_ok.mpr ⟨a, found, done⟩⟩

theorem mapM {step step' : α → Except Fault β} {items : List α}
    (each : ∀ item, Follows (step item) (step' item)) :
    Follows (items.mapM step) (items.mapM step') := fun results done =>
  mapM_succeeds.mpr fun item listed =>
    (mapM_succeeds.mp ⟨results, done⟩ item listed).elim (each item)

end Follows

namespace Layout

variable {program before after : Program} {struct member fuel current : Nat} {next : Option Nat}
  {order : List Nat}
variable {type : ValueType} {inner index : Nat} {found : List Nat}

def Nests (program : Program) (struct inner : Nat) : Prop :=
  ∃ member id type, memberType program struct member = .ok (id, type) ∧ type.isStruct = true ∧
    type.baseId = inner

/-- The layout of a member depends on whether another one is packed. -/
inductive Reads (program : Program) : (struct member inner index : Nat) → Prop
  | own (struct member : Nat) : Reads program struct member struct member
  | nested {struct member index inner position : Nat} {id : Id} {type : ValueType} :
      memberType program struct member = .ok (id, type) → type.isStruct = true →
      Reads program type.baseId index inner position → Reads program struct member inner position

/-- What the layout of a member depends on is packed in both programs or in none. -/
def Agree (before after : Program) (struct member : Nat) : Prop :=
  ∀ inner index, Reads before struct member inner index →
    after.isMemberPacked inner index = before.isMemberPacked inner index

theorem Agree.nested {id : Id} (agree : Agree before after struct member)
    (typed : memberType before struct member = .ok (id, type)) (isStruct : type.isStruct = true)
    (index : Nat) : Agree before after type.baseId index :=
  fun inner position reads => agree inner position (.nested typed isStruct reads)

theorem Reads.reached (reads : Reads program struct member inner index) :
    Relation.ReflTransGen (Nests program) struct inner := by
  induction reads with
  | own => exact .refl
  | nested typed isStruct _ ih => exact .head ⟨_, _, _, typed, isStruct, rfl⟩ ih

theorem Reads.eq_of_acyclic (acyclic : ¬ Relation.TransGen (Nests program) struct struct)
    (reads : Reads program struct member struct index) : index = member := by
  cases reads with
  | own => rfl
  | nested typed isStruct reads =>
    exact (acyclic (.head' ⟨_, _, _, typed, isStruct, rfl⟩ reads.reached)).elim

theorem Laid.nests_eq (laid : Laid before after) : Nests after = Nests before := by
  funext struct inner
  simp only [Nests, (laid.sameMembers struct).memberType_eq]

def Aligns (program : Program) (fuel struct : Nat) : Prop :=
  ∀ member found, memberType program struct member = .ok found →
    ∃ alignment, alignmentWithin program fuel struct member = .ok alignment

theorem memberType_ok {id : Id} : memberType program struct member = .ok (id, type) ↔
      ∃ outer, program.getType struct = .ok outer ∧ outer.members[member]? = some id ∧
        program.getType id = .ok type := by
  simp only [memberType, Except.bind_ok]
  constructor
  · rintro ⟨outer, found, typed⟩
    refine ⟨outer, found, ?_⟩
    split at typed
    · rename_i inner listed
      obtain ⟨_, stored, typed⟩ := Except.bind_ok.mp typed
      cases typed
      exact ⟨listed, stored⟩
    · cases typed
  · rintro ⟨outer, found, listed, stored⟩
    exact ⟨outer, found, by simp [listed, stored, bind, Except.bind, pure, Except.pure]⟩

theorem Aligns.nested (aligns : Aligns program fuel struct) (nests : Nests program struct inner) :
    ∃ less < fuel, Aligns program less inner := by
  obtain ⟨member, id, type, typed, isStruct, rfl⟩ := nests
  obtain ⟨alignment, done⟩ := aligns member _ typed
  cases fuel with
  | zero => cases done
  | succ fuel =>
    refine ⟨fuel, Nat.lt_succ_self fuel, fun index ⟨_, _⟩ listed => ?_⟩
    simp only [alignmentWithin, typed, bind, Except.bind, isStruct, if_true] at done
    split at done
    · cases done
    · obtain ⟨outer, stored, listed, _⟩ := memberType_ok.mp listed
      simp only [stored] at done
      split at done
      · cases done
      · rename_i results mapped
        apply mapM_succeeds.mp ⟨results, mapped⟩ index
        exact mem_range.mpr (List.getElem?_eq_some_iff.mp listed).1

theorem Aligns.acyclic (aligns : Aligns program fuel struct) :
    ¬ Relation.TransGen (Nests program) struct struct := by
  have descend {inner fuel : Nat} (path : Relation.TransGen (Nests program) struct inner)
      (aligns : Aligns program fuel struct) : ∃ less < fuel, Aligns program less inner := by
    induction path with
    | single nests => exact aligns.nested nests
    | tail _ nests ih =>
      obtain ⟨less, below, aligns⟩ := ih
      obtain ⟨least, lower, aligns⟩ := aligns.nested nests
      exact ⟨least, Nat.lt_trans lower below, aligns⟩
  intro cycle
  induction fuel using Nat.strongRecOn with
  | ind fuel ih =>
    obtain ⟨less, below, aligns⟩ := descend cycle aligns
    exact ih less below aligns

namespace Laid

variable (laid : Laid before after)

include laid

theorem depth_eq : after.depth = before.depth := by rw [depth, depth, laid.records]

theorem dimensionLength_eq : after.dimensionLength = before.dimensionLength := by
  rw [laid.rest]
  rfl

theorem elementCount_eq : after.elementCount = before.elementCount := by
  rw [laid.rest]
  rfl

theorem memberStride_eq (struct member : Nat) :
    memberStride after struct member = memberStride before struct member := by
  have present (id : Id) (kind : Spirv.Decoration) :
      after.hasDecoration id kind = before.hasDecoration id kind := by
    rw [hasDecoration, hasDecoration, laid.own]
  have value (id : Id) (kind : Spirv.Decoration) :
      after.getDecoration id kind = before.getDecoration id kind := by
    rw [getDecoration, getDecoration, laid.own]
  simp only [memberStride, (laid.sameMembers struct).memberType_eq, present, value]

theorem hasMemberDecoration_eq (struct member : Nat) (kind : Spirv.Decoration) :
    after.hasMemberDecoration struct member kind = before.hasMemberDecoration struct member kind :=
  congrArg (·.has kind) ((laid.sameMembers struct).values member)

theorem overruns_eq (struct member : Nat) (type : ValueType) (next : Option Nat) :
    overruns after struct member type next = overruns before struct member type next := by
  simp only [overruns, laid.memberStride_eq, laid.hasMemberDecoration_eq, laid.elementCount_eq,
    (laid.sameMembers struct).memberOffset_eq]

section

variable (agree : Agree before after struct member)

include agree

theorem alignmentWithin_congr :
    alignmentWithin after fuel struct member = alignmentWithin before fuel struct member := by
  induction fuel generalizing struct member with
  | zero => rfl
  | succ fuel ih =>
    have same := laid.sameMembers struct
    simp only [alignmentWithin, same.memberType_eq]
    cases typed : memberType before struct member with
    | error fault => rfl
    | ok found =>
      obtain ⟨id, type⟩ := found
      cases isStruct : type.isStruct with
      | true =>
        have each : alignmentWithin after fuel type.baseId =
            alignmentWithin before fuel type.baseId :=
          funext fun index => ih (agree.nested typed isStruct index)
        simp only [bind, Except.bind, isStruct, if_true, same.types, each]
      | false =>
        simp only [bind, Except.bind, isStruct, Bool.false_eq_true, if_false,
          agree struct member (.own ..)]

theorem memberAlignment_congr :
    memberAlignment after struct member = memberAlignment before struct member := by
  rw [memberAlignment, memberAlignment, laid.depth_eq, laid.alignmentWithin_congr agree]

theorem sizeWithin_congr :
    sizeWithin after fuel struct member = sizeWithin before fuel struct member := by
  induction fuel generalizing struct member with
  | zero => rfl
  | succ fuel ih =>
    have same := laid.sameMembers struct
    simp only [sizeWithin, same.memberType_eq]
    cases typed : memberType before struct member with
    | error fault => rfl
    | ok found =>
      obtain ⟨id, type⟩ := found
      cases isStruct : type.isStruct with
      | true =>
        have inner := laid.sameMembers type.baseId
        have each : sizeWithin after fuel type.baseId = sizeWithin before fuel type.baseId :=
          funext fun index => ih (agree.nested typed isStruct index)
        simp only [bind, Except.bind, isStruct, if_true, laid.memberStride_eq,
          laid.dimensionLength_eq, laid.memberAlignment_congr agree,
          inner.membersByOffset_eq, inner.memberOffset_eq, each]
      | false =>
        simp only [bind, Except.bind, isStruct, Bool.false_eq_true, if_false,
          laid.memberStride_eq, laid.dimensionLength_eq, agree struct member (.own ..)]

theorem memberSize_congr : memberSize after struct member = memberSize before struct member := by
  rw [memberSize, memberSize, laid.depth_eq, laid.sizeWithin_congr agree]

end

theorem structSize_congr (agree : ∀ member, Agree before after struct member) :
    structSize after struct = structSize before struct := by
  have same := laid.sameMembers struct
  simp only [structSize, same.membersByOffset_eq, same.memberOffset_eq,
    laid.memberSize_congr (agree _)]

theorem isPackable_congr (agree : Agree before after struct member) :
    isPackable after struct member next = isPackable before struct member next := by
  simp only [isPackable, agree struct member (.own ..), (laid.sameMembers struct).memberType_eq]
  cases typed : memberType before struct member with
  | error fault => rfl
  | ok found =>
    obtain ⟨id, type⟩ := found
    have spread : isSpread after struct member type = isSpread before struct member type := by
      cases isStruct : type.isStruct with
      | true =>
        simp only [isSpread, isStruct, laid.memberAlignment_congr agree,
          laid.structSize_congr (agree.nested typed isStruct), laid.memberStride_eq]
      | false => simp only [isSpread, isStruct, laid.memberStride_eq, Bool.false_eq_true, if_false]
    simp only [bind, Except.bind, spread, laid.overruns_eq]

/-! #### Failures

Whether sizes and alignments are found does not depend on what is packed. -/

theorem alignmentWithin_follows : Follows (alignmentWithin before fuel struct member)
    (alignmentWithin after fuel struct member) := by
  induction fuel generalizing struct member with
  | zero => exact .refl _
  | succ fuel ih =>
    have same := laid.sameMembers struct
    simp only [alignmentWithin, same.memberType_eq, same.types]
    refine .same fun found => ?_
    split
    · exact .refl _
    split
    · exact .same fun inner => .bind (.mapM fun index => ih) fun _ _ => .ok _
    · cases after.isMemberPacked struct member <;> exact .ok _

theorem memberAlignment_follows :
    Follows (memberAlignment before struct member) (memberAlignment after struct member) := by
  rw [memberAlignment, memberAlignment, laid.depth_eq]
  exact laid.alignmentWithin_follows

theorem sizeWithin_follows :
    Follows (sizeWithin before fuel struct member) (sizeWithin after fuel struct member) := by
  induction fuel generalizing struct member with
  | zero => exact .refl _
  | succ fuel ih =>
    simp only [sizeWithin, (laid.sameMembers struct).memberType_eq, laid.memberStride_eq,
      laid.dimensionLength_eq]
    refine .same fun found => ?_
    have inner := laid.sameMembers found.2.baseId
    split
    · exact .refl _
    split
    · exact .refl _
    split
    · rw [inner.membersByOffset_eq, inner.memberOffset_eq]
      refine .same fun order => ?_
      split
      · exact .bind ih fun _ _ => .bind (.ok _) fun _ _ =>
          .bind laid.memberAlignment_follows fun _ _ => .ok _
      · exact .same fun _ => .bind laid.memberAlignment_follows fun _ _ => .ok _
    · exact .ok _

theorem memberSize_follows :
    Follows (memberSize before struct member) (memberSize after struct member) := by
  rw [memberSize, memberSize, laid.depth_eq]
  exact laid.sizeWithin_follows

theorem structSize_follows : Follows (structSize before struct) (structSize after struct) := by
  rw [structSize, structSize, (laid.sameMembers struct).membersByOffset_eq]
  refine .same fun order => ?_
  split
  · exact .bind laid.memberSize_follows fun _ _ => .ok _
  · exact .refl _

theorem isSpread_follows :
    Follows (isSpread before struct member type) (isSpread after struct member type) := by
  simp only [isSpread, laid.memberStride_eq]
  split
  · exact .refl _
  split
  · exact .bind laid.memberAlignment_follows fun _ _ =>
      .bind laid.structSize_follows fun _ _ => .same fun _ => .ok _
  · exact .refl _

theorem isPackable_succeeds (loose : before.isMemberPacked struct member = false)
    (kept : isPackable before struct member next = .ok false) :
    ∃ needed, isPackable after struct member next = .ok needed := by
  cases packed : after.isMemberPacked struct member with
  | true => exact ⟨true, by simp [isPackable, packed, pure, Except.pure]⟩
  | false =>
    simp only [isPackable, loose, Bool.false_eq_true, if_false, Except.bind_ok] at kept
    obtain ⟨⟨id, type⟩, typed, spread, measured, kept⟩ := kept
    obtain ⟨wide, measured⟩ := laid.isSpread_follows measured
    simp only [isPackable, packed, Bool.false_eq_true, if_false,
      (laid.sameMembers struct).memberType_eq, typed, bind, Except.bind, measured,
      laid.overruns_eq]
    cases wide with
    | true => exact ⟨true, rfl⟩
    | false =>
      cases spread with
      | true => cases kept
      | false => exact ⟨false, kept⟩

end Laid

def needs (program : Program) (struct : Nat) : (order : List Nat) → Except Fault (List Bool)
  | [] => return []
  | member :: rest => do
    let needed ← isPackable program struct member (rest.head?.map (memberOffset program struct))
    return needed :: (← needs program struct rest)

/-- The room before the members, one after the other. `current` is the end of what comes first. -/
def rooms (program : Program) (struct : Nat) :
    (order : List Nat) → (current : Nat) → Except Fault (List Nat)
  | [], _ => return []
  | member :: rest, current => do
    let alignment ← memberAlignment program struct member
    let room := paddingAfter program struct member current alignment
    if rest.isEmpty then return [room]
    let size ← memberSize program struct member
    return room :: (← rooms program struct rest (memberOffset program struct member + size))

namespace Laid

variable (laid : Laid before after)

include laid

theorem needs_congr (agree : ∀ member ∈ order, Agree before after struct member) :
    needs after struct order = needs before struct order := by
  induction order with
  | nil => rfl
  | cons member rest ih =>
    simp only [needs, (laid.sameMembers struct).memberOffset_eq,
      laid.isPackable_congr (agree member mem_cons_self),
      ih fun other listed => agree other (mem_cons_of_mem member listed)]

theorem rooms_congr (agree : ∀ member ∈ order, Agree before after struct member) :
    rooms after struct order current = rooms before struct order current := by
  induction order generalizing current with
  | nil => rfl
  | cons member rest ih =>
    have here := agree member mem_cons_self
    have offsets := (laid.sameMembers struct).memberOffset_eq
    have later (current : Nat) :
        rooms after struct rest current = rooms before struct rest current :=
      ih fun other listed => agree other (mem_cons_of_mem member listed)
    simp only [rooms, laid.memberAlignment_congr here, laid.memberSize_congr here, paddingAfter,
      offsets, later]

end Laid

/-- The members of a struct are packed and padded as the decisions about them say. -/
structure Consistent (program : Program) (struct : Nat) (order : List Nat) : Prop where
  needs : needs program struct order = .ok (order.map (program.isMemberPacked struct))
  rooms : rooms program struct order 0 =
    .ok (order.map fun member => (program.memberDecorations struct member).padding)

structure SameLayout (before after : Program) : Prop where
  packed : ∀ id member, after.isMemberPacked id member = before.isMemberPacked id member
  padding : ∀ id member, (after.memberDecorations id member).padding =
    (before.memberDecorations id member).padding

theorem SameLayout.agree (same : SameLayout before after) (struct member : Nat) :
    Agree before after struct member := fun inner index _ => same.packed inner index

theorem packMembers_needs (acyclic : ¬ Relation.TransGen (Nests before) struct struct)
    (run : packMembers struct order before = .ok () after) :
    needs after struct order = .ok (order.map (after.isMemberPacked struct)) := by
  induction order generalizing before with
  | nil => rfl
  | cons member rest ih =>
    have decides := packMembers_decides run
    have offsets := (decides.toLaid.sameMembers struct).memberOffset_eq
    -- A member that is left unpacked has not been touched, and neither have nested structs.
    have here : isPackable after struct member (rest.head?.map (memberOffset after struct)) =
        .ok (after.isMemberPacked struct member) := by
      cases packed : after.isMemberPacked struct member with
      | true => simp [isPackable, packed, pure, Except.pure]
      | false =>
        have loose : before.isMemberPacked struct member = false := by
          by_contra already
          rw [packMembers_keeps_packed run (by simpa using already)] at packed
          cases packed
        have agree : Agree before after struct member := by
          intro inner index reads
          by_cases same : inner = struct
          · subst same
            rw [reads.eq_of_acyclic acyclic, packed, loose]
          · rw [isMemberPacked, decides.memberDecorations_eq same, isMemberPacked]
        rw [decides.toLaid.isPackable_congr agree, offsets]
        rw [packMembers_cons, loose] at run
        simp only [Bool.false_eq_true, if_false] at run
        split at run
        · cases run
        · have kept : after.isMemberPacked struct member = true :=
            packMembers_keeps_packed run (by simp [isMemberPacked_setMemberPacked])
          rw [packed] at kept
          cases kept
        · assumption
    have later : needs after struct rest = .ok (rest.map (after.isMemberPacked struct)) := by
      rw [packMembers_cons] at run
      split at run
      · exact ih acyclic run
      · split at run
        · cases run
        · rw [← (decides_setMemberPacked before struct member).toLaid.nests_eq] at acyclic
          exact ih acyclic run
        · exact ih acyclic run
    simp [needs, here, later, bind, Except.bind, pure, Except.pure]

theorem isMemberPacked_pad (program : Program) (struct member padding id index : Nat) :
    (padMember program struct member padding).isMemberPacked id index =
      program.isMemberPacked id index := by
  simp only [isMemberPacked, padMember, memberDecorations_modifyMember]
  split
  · rename_i same
    rw [same.1, same.2]
  · rfl

theorem padMembers_keeps_packed (run : padMembers struct order current before = .ok () after)
    (id index : Nat) : after.isMemberPacked id index = before.isMemberPacked id index := by
  let Keeps (p q : Program) := q.isMemberPacked id index = p.isMemberPacked id index
  have keeps : Keeps before _ := padMembers_relates Keeps (fun _ => rfl) (fun f g => g.trans f)
    order current before fun p member _ padding => isMemberPacked_pad p struct member padding id index
  rwa [run] at keeps

theorem padMembers_keeps_padding (run : padMembers struct order current before = .ok () after)
    (other : index ∉ order) :
    (after.memberDecorations struct index).padding =
      (before.memberDecorations struct index).padding := by
  let Keeps (p q : Program) :=
    (q.memberDecorations struct index).padding = (p.memberDecorations struct index).padding
  have keeps : Keeps before _ := padMembers_relates Keeps (fun _ => rfl) (fun f g => g.trans f)
    order current before fun p member listed padding => by
      have differ : index ≠ member := fun same => other (same ▸ listed)
      exact (padding_padMember ..).trans (if_neg differ)
  rwa [run] at keeps

theorem padMembers_rooms (distinct : order.Nodup)
    (run : padMembers struct order current before = .ok () after) :
    rooms before struct order current =
      .ok (order.map fun member => (after.memberDecorations struct member).padding) := by
  induction order generalizing before current with
  | nil => rfl
  | cons member rest ih =>
    obtain ⟨once, distinct⟩ := nodup_cons.mp distinct
    rw [padMembers_cons] at run
    split at run
    · cases run
    · rename_i alignment aligned
      dsimp only at run
      generalize chosen : paddingAfter before struct member current alignment = padding at run
      have padded := (decides_padMember before struct member padding).toLaid
      have agree (index : Nat) : Agree before (padMember before struct member padding) struct index :=
        fun _ _ _ => isMemberPacked_pad ..
      simp only [rooms, aligned, bind, Except.bind, chosen]
      cases rest with
      | nil =>
        cases run
        simp [padding_padMember, pure, Except.pure]
      | cons next others =>
        simp only [isEmpty_cons, Bool.false_eq_true, if_false] at run ⊢
        rw [padded.memberSize_congr (agree member)] at run
        split at run
        · cases run
        · rename_i size measured
          have free := padMembers_keeps_padding run once
          rw [padding_padMember, if_pos rfl] at free
          have later := ih distinct run
          rw [padded.rooms_congr fun index _ => agree index] at later
          simp [measured, later, free, pure, Except.pure]

def Settled (program : Program) (struct : Nat) : Prop :=
  ∃ again, alignStruct struct program = .ok () again ∧ SameLayout program again

theorem membersByOffset_ok (listed : membersByOffset program struct = .ok order) :
    order.Nodup ∧ ∀ member found, memberType program struct member = .ok found → member ∈ order := by
  obtain ⟨outer, stored, listed⟩ := Except.bind_ok.mp listed
  cases listed
  refine ⟨nodup_sortBy nodup_range, fun member ⟨_, _⟩ typed => ?_⟩
  obtain ⟨_, again, listed, _⟩ := memberType_ok.mp typed
  cases stored.symm.trans again
  exact mem_sortBy.mpr (mem_range.mpr (List.getElem?_eq_some_iff.mp listed).1)

theorem rooms_aligned (done : rooms program struct order current = .ok found)
    (listed : member ∈ order) :
    ∃ alignment, memberAlignment program struct member = .ok alignment := by
  induction order generalizing current found with
  | nil => cases listed
  | cons first rest ih =>
    simp only [rooms, Except.bind_ok] at done
    obtain ⟨alignment, aligned, done⟩ := done
    rcases mem_cons.mp listed with rfl | listed
    · exact ⟨alignment, aligned⟩
    · split at done
      · rename_i empty
        simp [isEmpty_iff.mp empty] at listed
      · simp only [Except.bind_ok] at done
        obtain ⟨_, _, _, done, _⟩ := done
        exact ih done listed

theorem acyclic_of_rooms (listed : membersByOffset program struct = .ok order)
    (done : rooms program struct order current = .ok found) :
    ¬ Relation.TransGen (Nests program) struct struct :=
  Aligns.acyclic fun member found typed =>
    rooms_aligned done ((membersByOffset_ok listed).2 member found typed)

theorem alignStruct_consistent (run : alignStruct struct before = .ok () after) :
    ∃ order, membersByOffset after struct = .ok order ∧ Consistent after struct order := by
  obtain ⟨order, packed, listed, packing, padding⟩ := alignStruct_ok.mp run
  have packs := (packMembers_decides packing).toLaid
  have pads := (padMembers_decides padding).toLaid
  rw [← (packs.sameMembers struct).membersByOffset_eq] at listed
  have roomy := padMembers_rooms (membersByOffset_ok listed).1 padding
  have acyclic := acyclic_of_rooms listed roomy
  rw [packs.nests_eq] at acyclic
  have needed := packMembers_needs acyclic packing
  have agree (member : Nat) : Agree packed after struct member :=
    fun _ _ _ => padMembers_keeps_packed padding ..
  refine ⟨order, (pads.sameMembers struct).membersByOffset_eq.trans listed, ?_, ?_⟩
  · rw [pads.needs_congr fun member _ => agree member, needed]
    exact congrArg Except.ok (map_congr_left fun member _ =>
      (padMembers_keeps_packed padding struct member).symm)
  · rw [pads.rooms_congr fun member _ => agree member, roomy]

theorem packMembers_of_needs
    (needed : needs program struct order = .ok (order.map (program.isMemberPacked struct))) :
    packMembers struct order program = .ok () program := by
  induction order with
  | nil => rfl
  | cons member rest ih =>
    simp only [needs, Except.bind_ok, pure, Except.pure, Except.ok.injEq, map_cons,
      List.cons.injEq] at needed
    obtain ⟨_, here, _, later, rfl, rfl⟩ := needed
    rw [packMembers_cons]
    cases packed : program.isMemberPacked struct member with
    | true => simpa using ih later
    | false => simpa [here, packed] using ih later

theorem padMembers_of_rooms (laid : Laid program before) (same : SameLayout program before)
    (found : rooms program struct order current =
      .ok (order.map fun member => (program.memberDecorations struct member).padding)) :
    ∃ after, padMembers struct order current before = .ok () after ∧ SameLayout program after := by
  induction order generalizing before current with
  | nil => exact ⟨before, rfl, same⟩
  | cons member rest ih =>
    simp only [rooms, Except.bind_ok] at found
    obtain ⟨alignment, aligned, found⟩ := found
    have offsets := (laid.sameMembers struct).memberOffset_eq
    rw [padMembers_cons, laid.memberAlignment_congr (same.agree struct member), aligned]
    have chosen : paddingAfter before struct member current alignment =
        (program.memberDecorations struct member).padding := by
      have unchanged : paddingAfter before struct member current alignment =
          paddingAfter program struct member current alignment := by
        simp only [paddingAfter, offsets]
      rw [unchanged]
      split at found
      · simp_all [pure, Except.pure]
      · simp only [Except.bind_ok, pure, Except.pure, Except.ok.injEq, map_cons,
          List.cons.injEq] at found
        obtain ⟨_, _, _, _, chosen, _⟩ := found
        exact chosen
    simp only [chosen, offsets]
    generalize padded : padMember before struct member _ = next
    have laid : Laid program next := by
      subst padded
      exact laid.trans (decides_padMember ..).toLaid
    have same : SameLayout program next := by
      subst padded
      refine ⟨fun id index => (isMemberPacked_pad ..).trans (same.packed id index),
        fun id index => ?_⟩
      rw [padMember, memberDecorations_modifyMember]
      split
      · rename_i here
        rw [here.1, here.2]
      · exact same.padding id index
    cases rest with
    | nil => exact ⟨next, rfl, same⟩
    | cons following others =>
      simp only [isEmpty_cons, Bool.false_eq_true, if_false, Except.bind_ok, pure,
        Except.pure, Except.ok.injEq, map_cons, List.cons.injEq] at found ⊢
      obtain ⟨size, measured, _, later, _, rfl⟩ := found
      rw [laid.memberSize_congr (same.agree struct member), measured]
      exact ih laid same later

theorem Consistent.settled (listed : membersByOffset program struct = .ok order)
    (consistent : Consistent program struct order) : Settled program struct := by
  obtain ⟨again, padding, same⟩ := padMembers_of_rooms (.refl program)
    ⟨fun _ _ => rfl, fun _ _ => rfl⟩ consistent.rooms
  exact ⟨again, alignStruct_ok.mpr
    ⟨order, program, listed, packMembers_of_needs consistent.needs, padding⟩, same⟩

/-- Aligning a struct a second time succeeds and leaves all members packed and padded as they were
left by the first time, whatever had been packed before. -/
theorem alignStruct_again (run : alignStruct struct before = .ok () after) :
    ∃ again, alignStruct struct after = .ok () again ∧
      (∀ id member, again.isMemberPacked id member = after.isMemberPacked id member) ∧
      ∀ id member, (again.memberDecorations id member).padding =
        (after.memberDecorations id member).padding := by
  obtain ⟨order, listed, consistent⟩ := alignStruct_consistent run
  obtain ⟨again, rerun, same⟩ := consistent.settled listed
  exact ⟨again, rerun, same.packed, same.padding⟩

/-- One member of the struct is packed and another one padded, and they stay so. -/
theorem alignStruct_again_mixed : ∃ after again, alignStruct 5 mixedProgram = .ok () after ∧
      alignStruct 5 after = .ok () again ∧ again.isMemberPacked 5 1 = true ∧
      (again.memberDecorations 5 3).padding = 2 := by
  have run : alignStruct 5 mixedProgram = .ok () _ := rfl
  obtain ⟨again, rerun, packed, padding⟩ := alignStruct_again run
  exact ⟨_, again, run, rerun, packed 5 1, padding 5 3⟩

theorem settled_iff (listed : membersByOffset program struct = .ok order) :
    Settled program struct ↔ Consistent program struct order := by
  constructor
  · rintro ⟨again, run, same⟩
    have laid := (alignStruct_decides run).toLaid
    obtain ⟨order', listed', consistent⟩ := alignStruct_consistent run
    rw [(laid.sameMembers struct).membersByOffset_eq] at listed'
    cases listed.symm.trans listed'
    have needed := consistent.needs
    have free := consistent.rooms
    rw [laid.needs_congr fun member _ => same.agree struct member] at needed
    rw [laid.rooms_congr fun member _ => same.agree struct member] at free
    refine ⟨needed.trans (congrArg Except.ok ?_), free.trans (congrArg Except.ok ?_)⟩
    · exact map_congr_left fun member _ => same.packed struct member
    · exact map_congr_left fun member _ => same.padding struct member
  · exact Consistent.settled listed

theorem packMembers_succeeds (laid : Laid before program)
    (packed : ∀ member, before.isMemberPacked struct member = true →
      program.isMemberPacked struct member = true)
    (needed : needs before struct order = .ok (order.map (before.isMemberPacked struct))) :
    ∃ after, packMembers struct order program = .ok () after := by
  induction order generalizing program with
  | nil => exact ⟨program, rfl⟩
  | cons member rest ih =>
    simp only [needs, Except.bind_ok, pure, Except.pure, Except.ok.injEq, map_cons,
      List.cons.injEq] at needed
    obtain ⟨_, here, _, later, rfl, rfl⟩ := needed
    rw [packMembers_cons]
    cases already : program.isMemberPacked struct member with
    | true => simpa using ih laid packed later
    | false =>
      have loose : before.isMemberPacked struct member = false := by
        by_contra earlier
        rw [packed member (by simpa using earlier)] at already
        cases already
      rw [loose] at here
      obtain ⟨decision, decided⟩ := laid.isPackable_succeeds loose here
      rw [(laid.sameMembers struct).memberOffset_eq]
      simp only [Bool.false_eq_true, if_false, decided]
      cases decision with
      | false => exact ih laid packed later
      | true =>
        refine ih (laid.trans (decides_setMemberPacked ..).toLaid) (fun other earlier => ?_) later
        rw [isMemberPacked_setMemberPacked, packed other earlier, Bool.or_true]

theorem padMembers_succeeds (laid : Laid before program)
    (done : ∃ found, rooms before struct order current = .ok found) (start : Nat) :
    ∃ after, padMembers struct order start program = .ok () after := by
  induction order generalizing program current start with
  | nil => exact ⟨program, rfl⟩
  | cons member rest ih =>
    obtain ⟨found, done⟩ := done
    simp only [rooms, Except.bind_ok] at done
    obtain ⟨_, aligned, done⟩ := done
    obtain ⟨alignment, aligned⟩ := laid.memberAlignment_follows aligned
    rw [padMembers_cons, aligned]
    dsimp only
    split
    · exact ⟨_, rfl⟩
    · rename_i more
      simp only [more, Bool.false_eq_true, if_false, Except.bind_ok] at done
      obtain ⟨_, measured, _, later, _⟩ := done
      have padded : Laid before (padMember program struct member
          (paddingAfter program struct member start alignment)) :=
        laid.trans (decides_padMember ..).toLaid
      obtain ⟨size, measured⟩ := padded.memberSize_follows measured
      simp only [measured]
      exact ih padded ⟨_, later⟩ _

theorem alignStruct_succeeds (laid : Laid before after)
    (packed : ∀ member, before.isMemberPacked struct member = true →
      after.isMemberPacked struct member = true)
    (listed : membersByOffset before struct = .ok order)
    (consistent : Consistent before struct order) :
    ∃ again, alignStruct struct after = .ok () again := by
  obtain ⟨middle, packing⟩ := packMembers_succeeds laid packed consistent.needs
  obtain ⟨again, padding⟩ := padMembers_succeeds
    (laid.trans (packMembers_decides packing).toLaid) ⟨_, consistent.rooms⟩ 0
  rw [← (laid.sameMembers struct).membersByOffset_eq] at listed
  exact ⟨again, alignStruct_ok.mpr ⟨order, middle, listed, packing, padding⟩⟩

end Layout

end SpirvMetal
