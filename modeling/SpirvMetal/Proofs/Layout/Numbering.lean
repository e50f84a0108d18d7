import SpirvMetal.Proofs.Layout.Declared
import SpirvMetal.Proofs.Layout.Settled
import SpirvMetal.Proofs.Prepare.Kept
import SpirvMetal.Proofs.Threading.Uses

/-!
Structs are laid out in the order of their ids, with structs of larger ids still unpacked. A struct
is settled exactly if their packing makes no difference to it.
-/

set_option synthInstance.maxSize 2048

namespace SpirvMetal

open Option
open Layout
open Program

namespace Emit

variable {c c' : Compiler} {u : Unit} {struct : Nat} {structs : List Nat}

theorem markStructs_ascending {fuel : Nat} {pending : List Id}
    (run : markStructs fuel pending c = .ok u c')
    (ascending : List.Pairwise (· < ·) (c.plan.packableStructs : List Nat)) :
    c'.program = c.program ∧ List.Pairwise (· < ·) (c'.plan.packableStructs : List Nat) := by
  induction fuel generalizing c pending with
  | zero => cases run
  | succ fuel ih =>
    cases pending with
    | nil =>
      obtain ⟨_, rfl⟩ := pure_ok.mp run
      exact ⟨rfl, ascending⟩
    | cons id pending =>
      obtain ⟨type, _, run⟩ := read_bind.mp run
      split at run
      · replace run := modify_bind.mp run
        obtain ⟨_, _, run⟩ := lift_bind.mp run
        have kept := ih run (Compiler.pairwise_insertId ascending)
        exact kept
      · exact ih run ascending

/-- What is known of a struct right after its layout was decided: no member was packed before, it is
as one would decide, structs with smaller ids are final, and those with larger ids are not packed
yet. -/
structure Seen (final : Program) (struct : Nat) (order : List Nat) (seen : Program) : Prop where
  laid : Laid seen final
  listed : membersByOffset seen struct = .ok order
  consistent : Consistent seen struct order
  below : ∀ id ≤ struct, ∀ index, final.memberDecorations id index = seen.memberDecorations id index
  beyond : ∀ id, struct < id → ∀ index, seen.isMemberPacked id index = false
  aligned : ∃ unpacked, alignStruct struct unpacked = .ok () seen ∧
    ∀ index, unpacked.isMemberPacked struct index = false

theorem alignStructs_seen (ascending : structs.Pairwise (· < ·)) (loose : c.program.Loose)
    (run : structs.forM (fun struct => edit (alignStruct struct)) c = .ok u c')
    (member : struct ∈ structs) : ∃ order seen, Seen c'.program struct order seen := by
  obtain ⟨front, back, rfl⟩ := List.append_of_mem member
  obtain ⟨_, later, front_struct⟩ := List.pairwise_append.mp ascending
  obtain ⟨struct_back, _⟩ := List.pairwise_cons.mp later
  have run : (front.forM (fun struct => edit (alignStruct struct)) >>= fun _ =>
      (struct :: back).forM fun struct => edit (alignStruct struct)) c = .ok u c' :=
    run ▸ congrFun List.forM_append.symm c
  obtain ⟨_, start, earlier, run⟩ := bind_ok.mp run
  obtain ⟨_, middle, step, run⟩ := bind_ok.mp run
  obtain ⟨program, aligned, rfl⟩ := edit_ok.mp step
  obtain ⟨order, listed, consistent⟩ := alignStruct_consistent aligned
  have unpacked {id : Nat} (from_struct : struct ≤ id) (index : Nat) :
      start.program.isMemberPacked id index = false := by
    have other : id ∉ front := fun found => by
      have := front_struct id found struct List.mem_cons_self
      omega
    exact ((alignStructs_keep other earlier).isMemberPacked_eq index).trans (loose.members id index)
  refine ⟨order, program, (alignStructs_laid run).1, listed, consistent, fun id small => ?_,
    fun id large index => ?_, start.program, aligned, unpacked (Nat.le_refl struct)⟩
  · have other : id ∉ back := fun found => by
      have := struct_back id found
      omega
    exact (alignStructs_keep other run).members
  · have kept := (alignStruct_decides aligned).memberDecorations_eq (Nat.ne_of_gt large) index
    rw [isMemberPacked, kept]
    exact unpacked (Nat.le_of_lt large) index

end Emit

theorem Assoc.find?_map {κ α : Type} [DecidableEq κ] (map : Assoc κ α) (change : κ → α → α)
    (key : κ) :
    (Assoc.mk (map.entries.map fun entry => (entry.1, change entry.1 entry.2))).find? key =
      (map.find? key).map (change key) := by
  obtain ⟨entries⟩ := map
  simp only [find?]
  induction entries with
  | nil => rfl
  | cons entry rest ih =>
    simp only [List.map_cons, read]
    split
    · rename_i same
      rw [same]
      rfl
    · exact ih

def Notes.unpacked (notes : Notes) : Notes :=
  { notes with members := notes.members.map ({ · with packed := false }) }

def Program.unpackedBeyond (program : Program) (limit : Nat) : Program :=
  { program with
    notes := ⟨program.notes.entries.map fun (id, notes) =>
      (id, if limit < id then notes.unpacked else notes)⟩ }

theorem Program.notes?_unpackedBeyond (program : Program) (limit id : Nat) :
    (program.unpackedBeyond limit).notes? id =
      (program.notes? id).map fun notes => if limit < id then notes.unpacked else notes :=
  Assoc.find?_map program.notes (fun id notes => if limit < id then notes.unpacked else notes) id

namespace Layout

theorem memberDecorations_unpackedBeyond (program : Program) (limit id index : Nat) :
    (program.unpackedBeyond limit).memberDecorations id index =
      if limit < id then { program.memberDecorations id index with packed := false }
      else program.memberDecorations id index := by
  rw [memberDecorations, memberDecorations?, notes?_unpackedBeyond,
    memberDecorations, memberDecorations?]
  cases program.notes? id with
  | none => split <;> rfl
  | some notes =>
    split
    · simp only [map_some, bind_some, Notes.unpacked, Notes.member?,
        List.getElem?_map]
      cases notes.members[index]? <;> rfl
    · rfl

theorem laid_unpackedBeyond (program : Program) (limit : Nat) :
    Laid program (program.unpackedBeyond limit) where
  rest := rfl
  own id := by
    rw [decorations, decorations?, notes?_unpackedBeyond, decorations, decorations?]
    cases program.notes? id with
    | none => rfl
    | some notes =>
      simp only [map_some, getD_some]
      split <;> rfl
  members id index := by
    rw [memberDecorations_unpackedBeyond]
    split <;> rfl

end Layout

namespace Emit

variable {final start : Program} {struct : Nat} {order : List Nat}

namespace Seen

variable (seen : Seen final struct order start)

include seen

theorem packed_eq {id : Nat} (small : id ≤ struct) (index : Nat) :
    final.isMemberPacked id index = start.isMemberPacked id index := by
  rw [isMemberPacked, seen.below id small, isMemberPacked]

theorem listed_final : membersByOffset final struct = .ok order :=
  (seen.laid.sameMembers struct).membersByOffset_eq.trans seen.listed

theorem decided : needs (final.unpackedBeyond struct) struct order =
        .ok (order.map (final.isMemberPacked struct)) ∧
      rooms (final.unpackedBeyond struct) struct order 0 =
        .ok (order.map fun member => (final.memberDecorations struct member).padding) := by
  have laid := seen.laid.trans (laid_unpackedBeyond final struct)
  have agree (member : Nat) : Agree start (final.unpackedBeyond struct) struct member := by
    intro inner index _
    rw [isMemberPacked, memberDecorations_unpackedBeyond]
    split
    · rename_i large
      exact (seen.beyond inner large index).symm
    · rename_i small
      exact seen.packed_eq (Nat.le_of_not_lt small) index
  rw [laid.needs_congr fun member _ => agree member, laid.rooms_congr fun member _ => agree member,
    seen.consistent.needs, seen.consistent.rooms]
  refine ⟨congrArg Except.ok ?_, congrArg Except.ok ?_⟩
  · exact List.map_congr_left fun member _ => (seen.packed_eq (Nat.le_refl struct) member).symm
  · exact List.map_congr_left fun member _ => by rw [seen.below struct (Nat.le_refl struct)]

theorem settled_iff_decisions : Settled final struct ↔
      needs final struct order = needs (final.unpackedBeyond struct) struct order ∧
        rooms final struct order 0 = rooms (final.unpackedBeyond struct) struct order 0 := by
  rw [settled_iff seen.listed_final, seen.decided.1, seen.decided.2]
  exact ⟨fun consistent => ⟨consistent.needs, consistent.rooms⟩,
    fun ⟨needed, free⟩ => ⟨needed, free⟩⟩

theorem settled_of_unpacked
    (unpacked : ∀ inner, Relation.TransGen (Nests final) struct inner → struct < inner →
      ∀ member, final.isMemberPacked inner member = false) : Settled final struct := by
  have agree (member : Nat) : Agree start final struct member := by
    intro inner index reads
    rcases Nat.lt_or_ge struct inner with large | small
    · have path := reads.reached
      rw [← seen.laid.nests_eq, Relation.reflTransGen_iff_eq_or_transGen] at path
      rcases path with same | path
      · omega
      · rw [unpacked inner path large index, seen.beyond inner large index]
    · exact seen.packed_eq small index
  refine (settled_iff seen.listed_final).mpr ⟨?_, ?_⟩
  · rw [seen.laid.needs_congr fun member _ => agree member, seen.consistent.needs]
    exact congrArg Except.ok (List.map_congr_left fun member _ =>
      (seen.packed_eq (Nat.le_refl struct) member).symm)
  · rw [seen.laid.rooms_congr fun member _ => agree member, seen.consistent.rooms]
    exact congrArg Except.ok (List.map_congr_left fun member _ => by
      rw [seen.below struct (Nat.le_refl struct)])

theorem succeeds_again : ∃ again, alignStruct struct final = .ok () again :=
  alignStruct_succeeds seen.laid
    (fun member packed => (seen.packed_eq (Nat.le_refl struct) member).trans packed) seen.listed
    seen.consistent

end Seen

theorem layoutStructs_seen {c c' : Compiler} {u : Unit} (loose : c.program.Loose)
    (unmarked : c.plan.packableStructs = []) (run : layoutStructs c = .ok u c')
    (member : struct ∈ c'.plan.packableStructs) :
    ∃ order start, Seen c'.program struct order start := by
  replace run := get_bind.mp run
  obtain ⟨buffers, filtered, filtering, run⟩ := bind_ok.mp run
  obtain rfl : c = filtered := Keeps.keeps filtering
  obtain ⟨_, marked, marking, run⟩ := bind_ok.mp run
  replace run := get_bind.mp run
  simp only [forIn_eq_forM, bind_pure_unit] at run
  have ascending : List.Pairwise (· < ·) (c.plan.packableStructs : List Nat) :=
    unmarked ▸ List.Pairwise.nil
  obtain ⟨same, ascending⟩ := markStructs_ascending marking ascending
  rw [(alignStructs_laid run).2] at member
  exact alignStructs_seen ascending (same ▸ loose) run member

/-- Deciding the layout of a struct again succeeds and touches no other struct. It changes nothing
exactly if the decisions are the same with the nested structs of larger ids unpacked; so it changes
nothing where those are not packed, and always where nested structs have smaller ids. -/
theorem layoutStructs_settled_iff {m : Spirv.Module} {options : Options} {program : Program}
    {surveyed threaded laid : Compiler} (loaded : Program.ofModule m = .ok program)
    (surveying : survey (Compiler.new program options) = .ok () surveyed)
    (threading : threadGlobals surveyed = .ok () threaded)
    (laying : layoutStructs threaded = .ok () laid) :
    ∀ struct ∈ laid.plan.packableStructs, ∃ order again,
      membersByOffset laid.program struct = .ok order ∧
      alignStruct struct laid.program = .ok () again ∧ Decides struct laid.program again ∧
      (SameLayout laid.program again ↔ needs laid.program struct order =
            needs (laid.program.unpackedBeyond struct) struct order ∧
          rooms laid.program struct order 0 =
            rooms (laid.program.unpackedBeyond struct) struct order 0) ∧
      ((∀ inner, Relation.TransGen (Nests laid.program) struct inner → struct < inner →
          ∀ member, laid.program.isMemberPacked inner member = false) →
        SameLayout laid.program again) := by
  intro struct member
  obtain ⟨loose, unmarked⟩ := loose_before_layout loaded surveying threading
  obtain ⟨order, start, seen⟩ := layoutStructs_seen loose unmarked laying member
  obtain ⟨again, run⟩ := seen.succeeds_again
  have settled : Settled laid.program struct ↔ SameLayout laid.program again := by
    constructor
    · rintro ⟨other, rerun, same⟩
      cases run.symm.trans rerun
      exact same
    · exact fun same => ⟨again, run, same⟩
  exact ⟨order, again, seen.listed_final, run, alignStruct_decides run,
    settled.symm.trans seen.settled_iff_decisions,
    fun unpacked => settled.mp (seen.settled_of_unpacked unpacked)⟩

/-- A buffer with a scalar and, from an offset on, a struct of a vector and a scalar. -/
def nestingBuffer (inner outer offset : Nat) : Spirv.Module where
  entryPoints := [.entry .glCompute 10 []]
  annotations := [⟨.decorate, none, none, [.idRef outer, .decoration .block]⟩,
    .onMember inner 0 .offset [0], .onMember inner 1 .offset [12], .onMember outer 0 .offset [0],
    .onMember outer 1 .offset [offset]]
  globals := [⟨.typeVoid, none, some 3, []⟩, ⟨.typeFloat, none, some 1, [.literal 32]⟩,
    ⟨.typeVector, none, some 2, [.idRef 1, .literal 3]⟩,
    ⟨.typeStruct, none, some inner, [.idRef 2, .idRef 1]⟩,
    ⟨.typeStruct, none, some outer, [.idRef 1, .idRef inner]⟩, .pointer 8 .storageBuffer outer,
    .variable 9 8 .storageBuffer,
    ⟨.typeFunction, none, some 11, [.idRef 3]⟩]
  functions := [.ofBody 3 10 11 12 []]

/-- The states after the survey, after threading and after the layout. -/
def laidOut? (m : Spirv.Module) : Option (Program × Compiler × Compiler × Compiler) :=
  match Program.ofModule m with
  | .error _ => none
  | .ok program =>
    match survey (Compiler.new program {}) with
    | .error _ _ => none
    | .ok _ surveyed =>
      match threadGlobals surveyed with
      | .error _ _ => none
      | .ok _ threaded =>
        match layoutStructs threaded with
        | .error _ _ => none
        | .ok _ laid => some (program, surveyed, threaded, laid)

theorem laidOut?_some {m : Spirv.Module} {program : Program} {surveyed threaded laid : Compiler}
    (found : laidOut? m = some (program, surveyed, threaded, laid)) :
    Program.ofModule m = .ok program ∧ survey (Compiler.new program {}) = .ok () surveyed ∧
      threadGlobals surveyed = .ok () threaded ∧ layoutStructs threaded = .ok () laid := by
  unfold laidOut? at found
  split at found
  · cases found
  · split at found
    · cases found
    · split at found
      · cases found
      · split at found
        · cases found
        · cases found
          exact ⟨‹_›, ‹_›, ‹_›, ‹_›⟩

/-- The nested struct comes first: it is packed, and the struct around it leaves room for it. -/
theorem layoutStructs_settled_iff_inner_first : ∃ program surveyed threaded laid again,
      Program.ofModule (nestingBuffer 5 7 16) = .ok program ∧
      survey (Compiler.new program {}) = .ok () surveyed ∧
      threadGlobals surveyed = .ok () threaded ∧ layoutStructs threaded = .ok () laid ∧
      7 ∈ laid.plan.packableStructs ∧ laid.program.isMemberPacked 5 0 = true ∧
      (laid.program.memberDecorations 7 1).padding = 12 ∧
      alignStruct 7 laid.program = .ok () again ∧ SameLayout laid.program again := by
  have computed : (laidOut? (nestingBuffer 5 7 16)).any (fun (_, _, _, laid) =>
      7 ∈ laid.plan.packableStructs ∧ laid.program.isMemberPacked 5 0 = true ∧
      (laid.program.memberDecorations 7 1).padding = 12 ∧
      membersByOffset laid.program 7 = .ok [0, 1] ∧
      needs laid.program 7 [0, 1] = .ok [false, false] ∧
      needs (laid.program.unpackedBeyond 7) 7 [0, 1] = .ok [false, false] ∧
      rooms laid.program 7 [0, 1] 0 = .ok [0, 12] ∧
      rooms (laid.program.unpackedBeyond 7) 7 [0, 1] 0 = .ok [0, 12]) = true := by
    decide +kernel
  obtain ⟨⟨program, surveyed, threaded, laid⟩, found, facts⟩ := (Option.any_eq_true _ _).mp computed
  obtain ⟨marked, packed, padding, listed, needed, needed', free, free'⟩ := of_decide_eq_true facts
  obtain ⟨loaded, surveying, threading, laying⟩ := laidOut?_some found
  obtain ⟨order, again, ordered, run, _, settled, _⟩ :=
    layoutStructs_settled_iff loaded surveying threading laying 7 marked
  cases listed.symm.trans ordered
  exact ⟨program, surveyed, threaded, laid, again, loaded, surveying, threading, laying, marked,
    packed, padding, run, settled.mpr ⟨needed.trans needed'.symm, free.trans free'.symm⟩⟩

/-- The struct around a packed one has the smaller id. It was laid out for a vector that is not
packed, which would have been moved to its offset without any room left free. -/
theorem outer_struct_unsettled : ∃ program surveyed threaded laid again,
      Program.ofModule (nestingBuffer 7 5 16) = .ok program ∧
      survey (Compiler.new program {}) = .ok () surveyed ∧
      threadGlobals surveyed = .ok () threaded ∧ layoutStructs threaded = .ok () laid ∧
      5 ∈ laid.plan.packableStructs ∧ alignStruct 5 laid.program = .ok () again ∧
      (laid.program.memberDecorations 5 1).padding = 0 ∧
      (again.memberDecorations 5 1).padding = 12 := by
  have computed : (laidOut? (nestingBuffer 7 5 16)).any (fun (_, _, _, laid) =>
      5 ∈ laid.plan.packableStructs ∧ (laid.program.memberDecorations 5 1).padding = 0 ∧
      (match alignStruct 5 laid.program with
        | .ok _ again => (again.memberDecorations 5 1).padding == 12
        | .error _ _ => false) = true) = true := by
    decide +kernel
  obtain ⟨⟨program, surveyed, threaded, laid⟩, found, facts⟩ := (Option.any_eq_true _ _).mp computed
  obtain ⟨marked, before, after⟩ := of_decide_eq_true facts
  obtain ⟨loaded, surveying, threading, laying⟩ := laidOut?_some found
  cases run : alignStruct 5 laid.program with
  | error fault again =>
    simp [run] at after
  | ok _ again =>
    simp only [run, beq_iff_eq] at after
    exact ⟨program, surveyed, threaded, laid, again, loaded, surveying, threading, laying, marked,
      run, before, after⟩

/-- A struct that lists itself is loaded, and the search for its size does not end. -/
theorem buffer_lists_itself : (bufferOf [(7, 0)]).results.Nodup ∧ ∃ program type,
      Program.ofModule (bufferOf [(7, 0)]) = .ok program ∧ program.typeAt? 7 = some type ∧
      type.members = [7] ∧ ∀ fuel, sizeWithin program fuel 7 0 = .error .aborted := by
  have computed : Except.passes (Program.ofModule (bufferOf [(7, 0)])) (fun program =>
      program.typeAt? 7 = some { base := .struct, width := 0, baseId := 7, members := [7] }) =
      true := by decide +kernel
  obtain ⟨program, loaded, stored⟩ := Except.of_passes computed
  have found := of_decide_eq_true stored
  have typed := Program.getType_ok.mpr found
  have member : memberType program 7 0 = .ok (7, _) := memberType_ok.mpr ⟨_, typed, rfl, typed⟩
  refine ⟨by decide, program, _, loaded, found, rfl, fun fuel => ?_⟩
  induction fuel with
  | zero => rfl
  | succ fuel ih =>
    simp [sizeWithin, member, bind, Except.bind, sizeless, ValueType.isOpaque,
      BaseType.isOpaque, ValueType.outer?, ValueType.isStruct, membersByOffset, typed, pure,
      Except.pure, sortBy, insertBy, List.range_succ, ih]

end Emit

end SpirvMetal
