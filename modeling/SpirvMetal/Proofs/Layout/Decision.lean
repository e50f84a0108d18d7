import SpirvMetal.Layout.Packing
import SpirvMetal.Proofs.Emit.Frame

/-!
What the layout of a struct changes: whether its members are packed, and the room before them.
-/

namespace SpirvMetal

theorem getD_append_plain (members : List Decorations) (count position : Nat) :
    ((members ++ List.replicate count ({} : Decorations))[position]?).getD {} =
      (members[position]?).getD {} := by
  by_cases present : position < members.length
  · rw [List.getElem?_append_left present]
  · have absent : members.length ≤ position := Nat.le_of_not_lt present
    rw [List.getElem?_append_right absent, List.getElem?_eq_none absent, List.getElem?_replicate]
    split <;> rfl

theorem Notes.member?_modifyMember (notes : Notes) (index other : Nat)
    (change : Decorations → Decorations) :
    ((notes.modifyMember index change).member? other).getD {} =
      if other = index then change ((notes.member? index).getD {})
      else (notes.member? other).getD {} := by
  have extended := getD_append_plain notes.members (index + 1 - notes.members.length) other
  simp only [modifyMember, member?, List.getElem?_modify]
  by_cases same : other = index
  · subst same
    have within : other < (notes.members ++
        List.replicate (other + 1 - notes.members.length) ({} : Decorations)).length := by
      rw [List.length_append, List.length_replicate]
      omega
    rw [List.getElem?_eq_getElem within] at extended ⊢
    simpa using congrArg change extended
  · have differ : ¬ index = other := fun equal => same equal.symm
    simpa [differ, same] using extended

namespace Program

theorem memberDecorations_eq_member? (program : Program) (id member : Nat) :
    program.memberDecorations id member =
      (((program.notes? id).getD {}).member? member).getD {} := by
  unfold memberDecorations memberDecorations?
  cases program.notes? id <;> rfl

theorem decorations_modifyMember (program : Program) (id member other : Nat)
    (change : Decorations → Decorations) :
    (program.modifyMember id member change).decorations other = program.decorations other := by
  unfold decorations decorations? modifyMember
  rw [notes?_modifyNotes]
  split
  · rename_i same
    subst same
    cases program.notes? other <;> rfl
  · rfl

theorem memberDecorations_modifyMember (program : Program) (id member other index : Nat)
    (change : Decorations → Decorations) :
    (program.modifyMember id member change).memberDecorations other index =
      if other = id ∧ index = member then change (program.memberDecorations id member)
      else program.memberDecorations other index := by
  simp only [memberDecorations_eq_member?, modifyMember, notes?_modifyNotes]
  by_cases same : other = id
  · subst same
    simp only [if_true, Option.getD_some, true_and]
    exact Notes.member?_modifyMember ..
  · simp [same]

end Program

/-- What is declared, without the decisions of the layout. -/
def Decorations.declared (d : Decorations) : Decorations := { d with packed := false, padding := 0 }

namespace Layout

/-- Programs that differ at most in the layout of structs. -/
structure Laid (before after : Program) : Prop where
  rest : after = { before with notes := after.notes }
  own : ∀ id, after.decorations id = before.decorations id
  members : ∀ id member,
    (after.memberDecorations id member).declared = (before.memberDecorations id member).declared

/-- Programs that differ at most in the layout of one struct. -/
structure Decides (struct : Id) (before after : Program) : Prop extends Laid before after where
  elsewhere : ∀ id, id ≠ struct → after.notes? id = before.notes? id

variable {struct : Id} {first second third before after program : Program}

theorem Laid.refl (program : Program) : Laid program program := ⟨rfl, fun _ => rfl, fun _ _ => rfl⟩

theorem Laid.trans (left : Laid first second) (right : Laid second third) : Laid first third where
  rest := by
    rw [right.rest, left.rest]
  own id := (right.own id).trans (left.own id)
  members id member := (right.members id member).trans (left.members id member)

theorem Decides.refl (struct : Id) (program : Program) : Decides struct program program :=
  { Laid.refl program with elsewhere := fun _ _ => rfl }

theorem Decides.trans (left : Decides struct first second) (right : Decides struct second third) :
    Decides struct first third :=
  { left.toLaid.trans right.toLaid with
    elsewhere := fun id other => (right.elsewhere id other).trans (left.elsewhere id other) }

theorem decides_modifyMember (program : Program) (struct member : Nat)
    {change : Decorations → Decorations} (kept : ∀ d, (change d).declared = d.declared) :
    Decides struct program (program.modifyMember struct member change) where
  rest := rfl
  own id := by
    simp only [Program.decorations, Program.decorations?, Program.modifyMember,
      Program.notes?_modifyNotes]
    split
    · rename_i same
      subst same
      cases program.notes? id <;> rfl
    · rfl
  members id index := by
    rw [Program.memberDecorations_modifyMember]
    split
    · rename_i same
      rw [kept, same.1, same.2]
    · rfl
  elsewhere id other := by
    simp only [Program.modifyMember, Program.notes?_modifyNotes, other, if_false]

structure SameMembers (struct : Id) (before after : Program) : Prop where
  types : ∀ id, after.getType id = before.getType id
  values : ∀ member, (after.memberDecorations struct member).values =
    (before.memberDecorations struct member).values

namespace SameMembers

variable (same : SameMembers struct before after)

include same

theorem memberType_eq (member : Nat) :
    memberType after struct member = memberType before struct member := by
  simp only [memberType, same.types]

theorem memberOffset_eq : memberOffset after struct = memberOffset before struct := by
  funext member
  exact congrArg (·.get .offset) (same.values member)

theorem memberBuiltin?_eq (member : Nat) :
    after.memberBuiltin? struct member = before.memberBuiltin? struct member :=
  congrArg (·.builtin?) (same.values member)

theorem membersByOffset_eq : membersByOffset after struct = membersByOffset before struct := by
  have order : precedes after struct = precedes before struct := by
    funext member next
    simp only [precedes, same.memberBuiltin?_eq, same.memberOffset_eq]
  simp only [membersByOffset, same.types, order]

end SameMembers

namespace Laid

theorem records (laid : Laid before after) : after.records = before.records := by
  rw [laid.rest]

theorem record?_eq (laid : Laid before after) (id : Id) : after.record? id = before.record? id :=
  congrArg (·.get? id) laid.records

theorem sameMembers (laid : Laid before after) (struct : Id) : SameMembers struct before after where
  types id := by
    rw [Program.getType, Program.getType, Program.expect, Program.expect, laid.record?_eq]
  values member := by
    have declared := congrArg Decorations.values (laid.members struct member)
    exact declared

end Laid

theorem Decides.memberDecorations_eq (decides : Decides struct before after) {other : Id}
    (differ : other ≠ struct) (member : Nat) :
    after.memberDecorations other member = before.memberDecorations other member := by
  rw [Program.memberDecorations_eq_member?, Program.memberDecorations_eq_member?,
    decides.elsewhere other differ]

theorem packMembers_cons (struct member : Nat) (rest : List Nat) (program : Program) :
    packMembers struct (member :: rest) program =
      if program.isMemberPacked struct member then packMembers struct rest program
      else
        match isPackable program struct member (rest.head?.map (memberOffset program struct)) with
        | .error fault => .error fault program
        | .ok true => packMembers struct rest (program.setMemberPacked struct member)
        | .ok false => packMembers struct rest program := by
  simp only [packMembers, bind, EStateM.bind, get, getThe, MonadStateOf.get, run_get]
  cases packed : program.isMemberPacked struct member with
  | true => rfl
  | false =>
    simp only [Bool.not_false, if_true, Bool.false_eq_true, if_false, EStateM.bind]
    cases isPackable program struct member (rest.head?.map (memberOffset program struct)) with
    | error fault => rfl
    | ok needed => cases needed <;> rfl

/-- The room before a member that comes after `current`. -/
def paddingAfter (program : Program) (struct member current alignment : Nat) : Nat :=
  let offset := memberOffset program struct member
  if alignUp current (max alignment 1) < offset then offset - current else 0

def padMember (program : Program) (struct member padding : Nat) : Program :=
  program.modifyMember struct member ({ · with padding })

theorem padMembers_cons (struct member current : Nat) (rest : List Nat) (program : Program) :
    padMembers struct (member :: rest) current program =
      match memberAlignment program struct member with
      | .error fault => .error fault program
      | .ok alignment =>
        let padded := padMember program struct member
          (paddingAfter program struct member current alignment)
        if rest.isEmpty then .ok () padded
        else
          match memberSize padded struct member with
          | .error fault => .error fault padded
          | .ok size =>
            padMembers struct rest (memberOffset program struct member + size) padded := by
  simp only [padMembers, bind, EStateM.bind, get, getThe, MonadStateOf.get, run_get]
  cases memberAlignment program struct member with
  | error fault => rfl
  | ok alignment =>
    cases rest with
    | nil => rfl
    | cons next rest =>
      simp only [ofExcept, pure, EStateM.pure, set, MonadStateOf.set, run_set,
        List.isEmpty_cons, Bool.false_eq_true, if_false, EStateM.bind, padMember, paddingAfter]
      generalize memberSize _ struct member = size
      cases size <;> rfl

theorem decides_setMemberPacked (program : Program) (struct member : Nat) :
    Decides struct program (program.setMemberPacked struct member) :=
  decides_modifyMember program struct member fun _ => rfl

theorem decides_padMember (program : Program) (struct member padding : Nat) :
    Decides struct program (padMember program struct member padding) :=
  decides_modifyMember program struct member fun _ => rfl

/-- The program that an edit leaves behind, whether it succeeds or fails. -/
def left {α : Type} : EStateM.Result Fault Program α → Program
  | .ok _ program => program
  | .error _ program => program

section

variable (relation : Program → Program → Prop) (refl : ∀ program, relation program program)
  (trans : ∀ {first second third}, relation first second → relation second third →
    relation first third)

include refl trans

theorem packMembers_relates (order : List Nat) (program : Program)
    (packs : ∀ program, ∀ member ∈ order,
      relation program (program.setMemberPacked struct member)) :
    relation program (left (packMembers struct order program)) := by
  induction order generalizing program with
  | nil => exact refl program
  | cons member rest ih =>
    obtain ⟨here, later⟩ := forall_and.mp fun program => List.forall_mem_cons.mp (packs program)
    rw [packMembers_cons]
    split
    · exact ih program later
    · split
      · exact refl program
      · exact trans (here program) (ih _ later)
      · exact ih program later

theorem padMembers_relates (order : List Nat) (current : Nat) (program : Program)
    (pads : ∀ program, ∀ member ∈ order, ∀ padding,
      relation program (padMember program struct member padding)) :
    relation program (left (padMembers struct order current program)) := by
  induction order generalizing program current with
  | nil => exact refl program
  | cons member rest ih =>
    obtain ⟨here, later⟩ := forall_and.mp fun program => List.forall_mem_cons.mp (pads program)
    rw [padMembers_cons]
    split
    · exact refl program
    · dsimp only
      split
      · exact here ..
      · split
        · exact here ..
        · exact trans (here ..) (ih _ _ later)

end

theorem packMembers_decides {order : List Nat}
    (run : packMembers struct order before = .ok () after) : Decides struct before after := by
  have decides := packMembers_relates (Decides struct) (.refl struct) .trans order before
    fun program member _ => decides_setMemberPacked program struct member
  rwa [run] at decides

theorem padMembers_decides {order : List Nat} {current : Nat}
    (run : padMembers struct order current before = .ok () after) :
    Decides struct before after := by
  have decides := padMembers_relates (Decides struct) (.refl struct) .trans order current before
    fun program member _ => decides_padMember program struct member
  rwa [run] at decides

theorem alignStruct_ok : alignStruct struct before = .ok () after ↔
      ∃ order packed, membersByOffset before struct = .ok order ∧
        packMembers struct order before = .ok () packed ∧
        padMembers struct order 0 packed = .ok () after := by
  simp only [alignStruct, bind, EStateM.bind, get, getThe, MonadStateOf.get, run_get]
  cases membersByOffset before struct with
  | error fault => simp [ofExcept, throw, throwThe, MonadExceptOf.throw, run_throw]
  | ok order =>
    simp only [ofExcept, pure, EStateM.pure, Except.ok.injEq]
    cases packing : packMembers struct order before with
    | error fault packed => simp [packing]
    | ok _ packed => simp [packing]

theorem alignStruct_decides (run : alignStruct struct before = .ok () after) :
    Decides struct before after := by
  obtain ⟨order, packed, _, packing, padding⟩ := alignStruct_ok.mp run
  exact (packMembers_decides packing).trans (padMembers_decides padding)

end Layout

end SpirvMetal
