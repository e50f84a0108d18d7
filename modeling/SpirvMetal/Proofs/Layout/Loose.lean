import SpirvMetal.Metal.Name
import SpirvMetal.Proofs.Layout.Decision
import SpirvMetal.Proofs.Program.Loaded

/-!
Programs in which no member is packed. Loaded programs are such; names, decorations and new records
do not pack anything.
-/

namespace SpirvMetal

open Spirv (Decoration)

namespace Program

variable {program after : Program}

structure Loose (program : Program) : Prop where
  members : ∀ id member, program.isMemberPacked id member = false

namespace Loose

theorem foldl {α : Type} {step : Program → α → Program}
    (kept : ∀ program item, program.Loose → (step program item).Loose) (items : List α)
    (loose : program.Loose) : (items.foldl step program).Loose := by
  induction items generalizing program with
  | nil => exact loose
  | cons item rest ih => exact ih (kept program item loose)

variable (loose : program.Loose)

include loose

theorem note (id member : Nat) :
    ((((program.notes? id).getD {}).member? member).getD {}).packed = false := by
  rw [← memberDecorations_eq_member?]
  exact loose.members id member

theorem of_notes (same : after.notes = program.notes) : after.Loose where
  members id member := by
    rw [isMemberPacked, memberDecorations_eq_member?, notes?, same]
    exact loose.note id member

theorem modifyNotes {id : Id} {change : Notes → Notes}
    (kept : ∀ member, (((change ((program.notes? id).getD {})).member? member).getD {}).packed =
      false) :
    (program.modifyNotes id change).Loose where
  members other member := by
    rw [isMemberPacked, memberDecorations_eq_member?, notes?_modifyNotes]
    split
    · exact kept member
    · rw [← memberDecorations_eq_member?]
      exact loose.members other member

theorem modifyOwn (id : Id) (change : Decorations → Decorations) :
    (program.modifyOwn id change).Loose := loose.modifyNotes (loose.note id)

theorem modifyMember {change : Decorations → Decorations}
    (kept : ∀ d, d.packed = false → (change d).packed = false) (id member : Nat) :
    (program.modifyMember id member change).Loose := by
  refine loose.modifyNotes fun other => ?_
  rw [Notes.member?_modifyMember]
  split
  · exact kept _ (loose.note id member)
  · exact loose.note id other

theorem setName (id : Id) (name : String) :
    (program.setName id name).Loose := loose.modifyOwn id ({ · with name })

theorem setDecoration (id : Id) (decoration : Decoration) (value : Nat) :
    (program.setDecoration id decoration value).Loose := loose.modifyOwn id (·.set decoration value)

theorem setMemberName (id member : Nat) (name : String) :
    (program.setMemberName id member name).Loose :=
  loose.modifyMember (by intro _ unpacked; exact unpacked) id member

theorem setMemberDecoration (id member : Nat) (decoration : Decoration)
    (value : Nat) : (program.setMemberDecoration id member decoration value).Loose :=
  loose.modifyMember (by intro _ unpacked; exact unpacked) id member

theorem modifyFunction {id : Id} {change : Function → Function}
    (changed : program.modifyFunction id change = .ok after) : after.Loose := by
  obtain ⟨_, _, notes, _⟩ := modifyFunction_ok changed
  exact loose.of_notes notes

theorem legalizeName (taken : List String) (id : Id) :
    (program.legalizeName taken id).Loose := by
  unfold Program.legalizeName
  dsimp only
  split
  · exact loose
  · exact loose.setName ..

theorem legalizeStruct (entry : Id × ValueType) :
    (program.legalizeStruct entry).Loose := by
  refine legalizeName (foldl (fun program member loose => ?_) _ loose) ..
  unfold legalizeMember
  dsimp only
  split
  · exact loose
  · exact loose.setMemberName ..

theorem legalizeNames {entry : Id}
    (named : program.legalizeNames entry = .ok after) : after.Loose := by
  have names (taken : List String) (ids : List Id) {program : Program} (loose : program.Loose) :
      (ids.foldl (·.legalizeName taken ·) program).Loose :=
    foldl (fun _ id loose => loose.legalizeName taken id) ids loose
  simp only [Program.legalizeNames, Except.bind_ok] at named
  obtain ⟨point, _, named⟩ := named
  rw [← Except.ok.inj named]
  have structs (entries : List (Id × ValueType)) {program : Program} (loose : program.Loose) :
      (entries.foldl (·.legalizeStruct ·) program).Loose :=
    foldl (fun _ entry loose => loose.legalizeStruct entry) entries loose
  refine setName ?_ ..
  exact (structs _ (names _ _ (names _ _ loose))).of_notes rfl

end Loose

theorem Annotates.loose (annotates : program.Annotates after) (loose : program.Loose) :
    after.Loose := by
  cases annotates with
  | same notes => exact loose.of_notes notes
  | own id change => exact loose.modifyOwn id change
  | member id member kept =>
    exact loose.modifyMember (fun d unpacked => (kept d).trans unpacked) id member

theorem Loads.loose {declarations : List Spirv.Instruction} {ids : List Id}
    (loads : Loads declarations program ids after) (loose : program.Loose) : after.Loose := by
  induction loads with
  | refl program => exact loose
  | note _ annotates _ ih => exact ih (annotates.loose loose)
  | store _ _ notes _ ih => exact ih (loose.of_notes notes)

theorem markBuiltin_notes {id : Id} (marked : program.markBuiltin id = .ok after) :
    after.notes = program.notes := by
  obtain ⟨⟨_, type⟩, _, marked⟩ := Except.bind_ok.mp marked
  obtain ⟨found, stored, rfl⟩ := modify_ok.mp marked
  rfl

theorem ofModule_loose {m : Spirv.Module} (loaded : ofModule m = .ok program) : program.Loose := by
  obtain ⟨defined, ⟨ids, _, loads⟩, marking⟩ := ofModule_loads loaded
  have start : (empty (max (m.bound.getD 0) m.leastBound)).Loose := ⟨fun _ _ => rfl⟩
  exact foldlM_keeps (fun _ _ _ loose marked => loose.of_notes (markBuiltin_notes marked))
    (loads.loose start) marking

end Program

end SpirvMetal
