import SpirvMetal.Proofs.Layout.Fields
import SpirvMetal.Proofs.Passes.Text
import SpirvMetal.Proofs.Program.Growth
import SpirvMetal.Proofs.Program.Samples

/-!
Structs of buffers in the text of a compilation.
-/

namespace SpirvMetal

open Program

namespace Layout

variable {before after program : Program} {struct : Id} {types : Nat → ValueType}
  {order : List Nat}

structure SameStruct (struct : Id) (before after : Program) : Prop where
  types : ∀ id, after.getType id = before.getType id
  members : ∀ index, after.memberDecorations struct index = before.memberDecorations struct index

namespace SameStruct

theorem symm (same : SameStruct struct before after) : SameStruct struct after before :=
  ⟨fun id => (same.types id).symm, fun index => (same.members index).symm⟩

theorem trans {middle : Program} (left : SameStruct struct before middle)
    (right : SameStruct struct middle after) : SameStruct struct before after :=
  ⟨fun id => (right.types id).trans (left.types id),
    fun index => (right.members index).trans (left.members index)⟩

theorem of_alike (alike : before.Alike after) : SameStruct struct before after :=
  ⟨alike.getType_eq, alike.memberDecorations_eq struct⟩

variable (same : SameStruct struct before after)

include same

theorem sameMembers : SameMembers struct before after :=
  ⟨same.types, fun index => by rw [same.members]⟩

theorem isMemberPacked_eq (index : Nat) :
    after.isMemberPacked struct index = before.isMemberPacked struct index := by
  rw [Program.isMemberPacked, Program.isMemberPacked, same.members]

theorem placed (placed : Placed before struct types order) : Placed after struct types order := by
  have rooms : (fun index => memberRoom after struct index (types index)) =
      fun index => memberRoom before struct index (types index) := by
    funext index
    simp only [memberRoom, same.members, same.isMemberPacked_eq]
  unfold Placed
  rw [rooms, same.sameMembers.memberOffset_eq]
  exact placed

theorem fieldsOf_eq (members : List Nat) :
    fieldsOf after struct types members = fieldsOf before struct types members := by
  have each : memberFields after struct = memberFields before struct := by
    funext index type
    simp only [memberFields, same.members, same.isMemberPacked_eq]
  simp only [fieldsOf, each]

theorem plainMemberName_eq (index : Nat) :
    after.plainMemberName struct index = before.plainMemberName struct index := by
  rw [Program.plainMemberName, Program.plainMemberName, Program.memberName, Program.memberName,
    same.members]

theorem text_eq : Field.text after struct = Field.text before struct := by
  funext field
  cases field <;> simp only [Field.text, same.plainMemberName_eq]

end SameStruct

/-- Types, the lengths and strides of arrays, and the members of structs are as they were. -/
structure Echoes (before after : Program) : Prop where
  types : ∀ id, after.getType id = before.getType id
  lengths : after.dimensionLength = before.dimensionLength
  strided : ∀ id, after.hasDecoration id .arrayStride = before.hasDecoration id .arrayStride
  strides : ∀ id, after.getDecoration id .arrayStride = before.getDecoration id .arrayStride
  members : ∀ id index, after.memberDecorations id index = before.memberDecorations id index

namespace Echoes

theorem refl (program : Program) : Echoes program program :=
  ⟨fun _ => rfl, rfl, fun _ => rfl, fun _ => rfl, fun _ _ => rfl⟩

theorem trans {middle : Program} (left : Echoes before middle) (right : Echoes middle after) :
    Echoes before after where
  types id := (right.types id).trans (left.types id)
  lengths := right.lengths.trans left.lengths
  strided id := (right.strided id).trans (left.strided id)
  strides id := (right.strides id).trans (left.strides id)
  members id index := (right.members id index).trans (left.members id index)

theorem of_modifyFunction {id : Id} {change : Function → Function}
    (changed : before.modifyFunction id change = .ok after) : Echoes before after := by
  obtain ⟨_, _, notes, _⟩ := modifyFunction_ok changed
  have own (other : Id) : after.decorations other = before.decorations other := by
    rw [Program.decorations, Program.decorations?, Program.notes?, notes]
    rfl
  constructor
  · exact expect_modifyFunction changed fun _ => rfl
  · exact dimensionLength_congr (find_modifyFunction changed fun _ => rfl)
  · exact fun other => by rw [Program.hasDecoration, own, Program.hasDecoration]
  · exact fun other => by rw [Program.getDecoration, own, Program.getDecoration]
  · intro struct index
    rw [memberDecorations_eq_member?, memberDecorations_eq_member?, Program.notes?,
      notes, Program.notes?]

theorem sameStruct (echoes : Echoes before after) (struct : Id) : SameStruct struct before after :=
  ⟨echoes.types, echoes.members struct⟩

end Echoes

theorem Laid.symm (laid : Laid before after) : Laid after before where
  rest := by rw [laid.rest]
  own id := (laid.own id).symm
  members id index := (laid.members id index).symm

end Layout

structure Compiler.Echoes (before after : Compiler) : Prop where
  program : Layout.Echoes before.program after.program
  plan : after.plan = before.plan

instance : Std.Refl Compiler.Echoes := ⟨fun _ => ⟨.refl _, rfl⟩⟩

instance : IsTrans Compiler Compiler.Echoes :=
  ⟨fun _ _ _ first second =>
    ⟨first.program.trans second.program, second.plan.trans first.plan⟩⟩

namespace Emit

open Layout

variable {c c' : Compiler} {u : Unit} {struct : Id} {structs : List Id}
  {types : Nat → ValueType} {order : List Nat}
variable {α : Type} {type : ValueType}

theorem edit_ok {step : Edit α} {a : α} : edit step c = .ok a c' ↔
      ∃ program, step c.program = .ok a program ∧ { c with program } = c' := by
  unfold edit
  cases step c.program <;> simp

theorem alignStructs_keep (other : struct ∉ structs)
    (run : structs.forM (fun struct => edit (alignStruct struct)) c = .ok u c') :
    SameStruct struct c.program c'.program := by
  induction structs generalizing c with
  | nil =>
    obtain ⟨-, rfl⟩ := pure_ok.mp run
    exact ⟨fun _ => rfl, fun _ => rfl⟩
  | cons first rest ih =>
    obtain ⟨_, middle, step, run⟩ := bind_ok.mp run
    obtain ⟨program, aligned, rfl⟩ := edit_ok.mp step
    have decides := alignStruct_decides aligned
    have differ : struct ≠ first := fun same => other (by simp [same])
    have step : SameStruct struct c.program program :=
      ⟨(decides.toLaid.sameMembers struct).types, decides.memberDecorations_eq differ⟩
    exact step.trans (ih (fun member => other (by simp [member])) run)

theorem alignStructs_laid
    (run : structs.forM (fun struct => edit (alignStruct struct)) c = .ok u c') :
    Laid c.program c'.program ∧ c'.plan = c.plan := by
  induction structs generalizing c with
  | nil =>
    obtain ⟨-, rfl⟩ := pure_ok.mp run
    exact ⟨.refl _, rfl⟩
  | cons first rest ih =>
    obtain ⟨_, middle, step, run⟩ := bind_ok.mp run
    obtain ⟨program, aligned, rfl⟩ := edit_ok.mp step
    obtain ⟨laid, plan⟩ := ih run
    exact ⟨(alignStruct_decides aligned).toLaid.trans laid, plan⟩

theorem alignStructs_place (member : struct ∈ structs)
    (listed : membersByOffset c'.program struct = .ok order)
    (spaced : Spaced c'.program struct types order)
    (run : structs.forM (fun struct => edit (alignStruct struct)) c = .ok u c') :
    Placed c'.program struct types order := by
  induction structs generalizing c with
  | nil => cases member
  | cons first rest ih =>
    have laid := (alignStructs_laid run).1.symm
    obtain ⟨_, middle, step, later⟩ := bind_ok.mp run
    obtain ⟨program, aligned, rfl⟩ := edit_ok.mp step
    -- a struct that is listed again is decided again; only the last decision counts
    by_cases again : struct ∈ rest
    · exact ih again later
    · obtain rfl : struct = first := by simpa [again] using member
      have same := laid.sameMembers struct
      rw [← same.membersByOffset_eq] at listed
      obtain ⟨packed, after, packing, padding, placed⟩ :=
        packThenPad_places (spaced.congr same)
      cases aligned.symm.trans
        (alignStruct_ok.mpr ⟨order, packed, listed, packing, padding⟩)
      have offsets := ((alignStruct_decides aligned).toLaid.sameMembers struct).memberOffset_eq
      rw [← offsets] at placed
      exact (alignStructs_keep again later).placed placed

theorem layoutStructs_place (run : layoutStructs c = .ok u c')
    (member : struct ∈ c'.plan.packableStructs)
    (listed : membersByOffset c'.program struct = .ok order)
    (spaced : Spaced c'.program struct types order) : Placed c'.program struct types order := by
  replace run := get_bind.mp run
  obtain ⟨buffers, _, filtered, run⟩ := bind_ok.mp run
  obtain ⟨_, marked, marking, run⟩ := bind_ok.mp run
  replace run := get_bind.mp run
  simp only [forIn_eq_forM, bind_pure_unit] at run
  rw [(alignStructs_laid run).2] at member
  exact alignStructs_place member listed spaced run

instance entryFixups_echoes : Keeps Compiler.Echoes entryFixups := by
  have appended (fixups : List Fixup) : Keeps Compiler.Echoes
      (modifyEntry fun f => { f with fixupsIn := f.fixupsIn ++ fixups }) :=
    ⟨fun done => by
      replace done := get_bind.mp done
      obtain ⟨program, changed, rfl⟩ := updateProgram_ok.mp done
      exact ⟨.of_modifyFunction changed, rfl⟩⟩
  unfold entryFixups
  infer_instance

theorem prepare_places (run : prepare c = .ok u c') (member : struct ∈ c'.plan.packableStructs)
    (listed : membersByOffset c'.program struct = .ok order)
    (spaced : Spaced c'.program struct types order) : Placed c'.program struct types order := by
  obtain ⟨_, surveyed, surveying, run⟩ := bind_ok.mp run
  obtain ⟨_, threaded, threading, run⟩ := bind_ok.mp run
  obtain ⟨_, laid, laying, run⟩ := bind_ok.mp run
  have kept : Compiler.Echoes laid c' := Keeps.keeps run
  have same := kept.program.sameStruct struct
  rw [kept.plan] at member
  rw [same.sameMembers.membersByOffset_eq] at listed
  have spaced := spaced.congr same.symm.sameMembers
  exact same.placed (layoutStructs_place laying member listed spaced)

theorem foldlM_within (relation : Compiler → Compiler → Prop) [Std.Refl relation]
    [IsTrans Compiler relation] {β : Type} {step : β → α → Emit β}
    [∀ b a, Keeps relation (step b a)] {list : List α} {a : α} {b b' : β}
    (run : list.foldlM step b c = .ok b' c') (member : a ∈ list) :
    ∃ now next before after, relation c before ∧ step now a before = .ok next after ∧
      relation after c' := by
  induction list generalizing b c with
  | nil => cases member
  | cons first rest ih =>
    obtain ⟨next, middle, firstRun, restRun⟩ := bind_ok.mp run
    rcases List.mem_cons.mp member with rfl | member
    · exact ⟨b, next, c, middle, Std.Refl.refl c, firstRun, Keeps.keeps restRun⟩
    · obtain ⟨now, next, before, after, earlier, run, later⟩ := ih restRun member
      exact ⟨now, next, before, after, trans (Keeps.keeps firstRun) earlier, run, later⟩

theorem constantsAndStructs_within (relation : Compiler → Compiler → Prop)
    [Always.AllowsFunctions relation] {id : Id} {record : Record}
    (run : constantsAndStructs c = .ok u c') (found : c.program.record? id = some record) :
    ∃ now next before after, relation c before ∧ constantOrStruct now id before = .ok next after ∧
      relation after c' := by
  replace run := get_bind.mp run
  obtain ⟨constantsOpen, listed, listing, spacing⟩ := bind_ok.mp run
  have member : id ∈ c.program.records.toList.map (·.1) := Assoc.mem_keys found
  obtain ⟨now, next, before, after, earlier, printing, last⟩ :=
    foldlM_within relation listing member
  exact ⟨now, next, before, after, earlier, printing, trans last (Keeps.keeps spacing)⟩

theorem isDeclaredStruct_eq (reached : c.Advances c') (type : ValueType) :
    c'.isDeclaredStruct struct type = c.isDeclaredStruct struct type := by
  have interfaces : c'.plan.interfaceStructs = c.plan.interfaceStructs :=
    settled_eq (·.interfaceStructs) (fun _ => rfl) reached.plan
  simp only [Compiler.isDeclaredStruct, interfaces, reached.program.isBuiltinBlock_eq,
    reached.program.decorated struct .block rfl, reached.program.decorated struct .bufferBlock rfl]

theorem constantOrStruct_runs {constantsOpen left : Bool}
    (run : constantOrStruct constantsOpen struct c = .ok left c')
    (found : c.program.typeAt? struct = some type)
    (declared : c.isDeclaredStruct struct type = true) : RunsOn (Emit.struct struct) c c' := by
  have other : c.program.constantAt? struct = none := by
    simp [Program.constantAt?, Program.typeAt?_some.mp found, Record.asConstant?]
  replace run := get_bind.mp run
  simp only [other, found, declared, if_true] at run
  split at run
  · obtain ⟨_, spaced, spacing, run⟩ := bind_ok.mp run
    obtain ⟨_, printed, printing, run⟩ := bind_ok.mp run
    obtain ⟨-, rfl⟩ := pure_ok.mp run
    exact ⟨spaced, printed, advances spacing, printing, .refl printed⟩
  · obtain ⟨_, printed, printing, run⟩ := bind_ok.mp run
    obtain ⟨-, rfl⟩ := pure_ok.mp run
    exact ⟨c, printed, .refl c, printing, .refl printed⟩

theorem pass_runs_struct (run : pass c = .ok u c') (found : c'.program.typeAt? struct = some type)
    (declared : c'.isDeclaredStruct struct type = true) :
    ∃ before after, c'.program.Alike before.program ∧ struct ∉ before.plan.interfaceStructs ∧
      Emit.struct struct before = .ok () after ∧ after.Advances c' := by
  have all : c.Advances c' := advances run
  obtain ⟨headed, filled, titled, run, later⟩ := (pass_parts run).1
  rw [all.program.typeAt?_eq, ← titled.program.typeAt?_eq] at found
  obtain ⟨now, next, here, done, earlier, printing, last⟩ :=
    constantsAndStructs_within Compiler.Advances run (Program.typeAt?_some.mp found)
  have reached := titled.trans earlier
  rw [← earlier.program.typeAt?_eq] at found
  rw [isDeclaredStruct_eq all, ← isDeclaredStruct_eq reached] at declared
  obtain ⟨before, after, opened, printing, rest⟩ := constantOrStruct_runs printing found declared
  rw [← isDeclaredStruct_eq opened] at declared
  simp only [Compiler.isDeclaredStruct, Bool.and_eq_true, decide_eq_true_eq] at declared
  exact ⟨before, after, all.program.symm.trans (reached.trans opened).program, declared.1.2,
    printing, rest.trans (last.trans later)⟩

theorem pass_prints_struct (run : pass c = .ok u c') (found : c'.program.typeAt? struct = some type)
    (declared : c'.isDeclaredStruct struct type = true)
    (listed : membersByOffset c'.program struct = .ok order)
    (spaced : Spaced c'.program struct types order)
    (declares : ∀ index ∈ order, Declares c'.program struct types index) :
    ∃ name, declarationLines name
        ((fieldsOf c'.program struct types (List.range type.members.length)).map
          (Field.text c'.program struct)) <:+: c'.pass.lines.toList.map (·.text) := by
  obtain ⟨before, after, alike, ordinary, printing, later⟩ := pass_runs_struct run found declared
  have same : SameStruct struct c'.program before.program := .of_alike alike
  have stored : before.program.getType struct = .ok type := by
    rw [alike.getType_eq]
    exact Program.getType_ok.mpr found
  have inside (index : Nat) : index ∈ List.range type.members.length → index ∈ order :=
    (mem_membersByOffset (Program.getType_ok.mpr found) listed rfl).mpr
  have spaced' := spaced.congr same.sameMembers
  have declares' (index : Nat) (member : index ∈ order) :
      Declares before.program struct types index :=
    { declares index member with
      plain := (same.sameMembers.memberBuiltin?_eq index).trans (declares index member).plain }
  have printed := struct_prints ordinary stored
    (fun index member => spaced'.typed index (inside index member))
    (fun index member => spaced.plain index (inside index member))
    (fun index member => declares' index (inside index member)) printing
  rw [same.fieldsOf_eq, same.text_eq] at printed
  obtain ⟨rest, lines⟩ := later.lines
  refine ⟨before.program.plainName struct, ?_⟩
  rw [← lines, List.map_append, printed.lines]
  exact List.infix_append _ _ _

/-- A struct in a buffer is printed so that Metal puts its members where they should be, exactly if
the offsets of the members ascend. -/
theorem compile_declares_offsets_iff {program : Program} {options : Options} {text : String}
    {stop : Compiler} (compiled : compile (Compiler.new program options) = .ok text stop) :
    stop.output = text ∧ ∀ struct ∈ stop.plan.packableStructs, ∀ type types order,
        stop.program.typeAt? struct = some type → stop.isDeclaredStruct struct type = true →
        membersByOffset stop.program struct = .ok order →
        Spaced stop.program struct types order →
        (∀ index ∈ order, Declares stop.program struct types index) →
        let members := List.range type.members.length
        let fields := fieldsOf stop.program struct types members
        let offset := memberOffset stop.program struct
        (∃ name, declarationLines name (fields.map (Field.text stop.program struct)) <:+:
          stop.pass.lines.toList.map (·.text)) ∧
        (membersFrom fields 0 = members.map (fun index => (index, offset index)) ↔
          members.Pairwise fun index next => offset index < offset next) := by
  obtain ⟨ready, start, prepared, writes, same⟩ := compile_last compiled
  refine ⟨same, fun struct member type types order found declared listed spaced declares => ?_⟩
  have printed := pass_prints_struct writes.written found declared listed spaced declares
  refine ⟨printed, ?_⟩
  have all : start.Advances stop := advances writes.written
  have same : SameStruct struct ready.program stop.program :=
    .of_alike (writes.program.trans all.program)
  have preparing : prepare (Compiler.new program options) = .ok () ready := by
    rcases prepared with preparing | ⟨done, _⟩
    · exact preparing
    · cases done
  have marks : stop.plan.packableStructs = ready.plan.packableStructs :=
    settled_eq (·.packableStructs) (fun _ => rfl) (all.plan.trans writes.plan)
  have marked : struct ∈ ready.plan.packableStructs := marks ▸ member
  have placed := prepare_places preparing marked (same.sameMembers.membersByOffset_eq ▸ listed)
    (spaced.congr same.symm.sameMembers)
  exact membersFrom_iff (Program.getType_ok.mpr found) listed spaced
    (fun index member => (declares index member).plain)
    (fun index member => (declares index member).bytes) (same.placed placed)

/-- A buffer of float scalars and vectors; for each member the number of its components and its
offset. -/
def bufferOf (members : List (Nat × Nat)) : Spirv.Module where
  entryPoints := [.entry .glCompute 10 []]
  annotations := ⟨.decorate, none, none, [.idRef 7, .decoration .block]⟩ ::
    members.zipIdx.map fun ((_, offset), index) =>
      .onMember 7 index .offset [offset]
  globals := [⟨.typeVoid, none, some 5, []⟩, ⟨.typeFloat, none, some 1, [.literal 32]⟩,
    ⟨.typeVector, none, some 2, [.idRef 1, .literal 2]⟩,
    ⟨.typeVector, none, some 3, [.idRef 1, .literal 3]⟩,
    ⟨.typeVector, none, some 4, [.idRef 1, .literal 4]⟩,
    ⟨.typeStruct, none, some 7, members.map fun (components, _) => .idRef components⟩,
    .pointer 8 .storageBuffer 7, .variable 9 8 .storageBuffer,
    ⟨.typeFunction, none, some 11, [.idRef 5]⟩]
  functions := [.ofBody 5 10 11 12 []]

def floatsOf (members : List (Nat × Nat)) (index : Nat) : ValueType :=
  let components := ((members[index]?).getD (0, 0)).1
  { base := .float, width := 32, components, baseId := components
    parent := if components = 1 then none else some 1 }

instance [DecidableEq α] (result : Except Fault α) (a : α) : Decidable (result = .ok a) :=
  match result with
  | .ok found => decidable_of_iff (found = a) (by simp)
  | .error _ => isFalse (by simp)

/-- The fields of the buffer with a scalar at 0, vectors at 4 and 24, and another vector at 32. -/
def packedFields : List Field :=
  [.member 0 false .float 1, .member 1 true .float 3, .padding 2 8, .member 2 false .float 2,
    .member 3 false .float 4]

theorem compile_declares_offsets_iff_packed : ∃ program text stop name,
      Program.ofModule (bufferOf [(1, 0), (3, 4), (2, 24), (4, 32)]) = .ok program ∧
      compile (Compiler.new program {}) = .ok text stop ∧ 7 ∈ stop.plan.packableStructs ∧
      declarationLines name (packedFields.map (Field.text stop.program 7)) <:+:
        stop.pass.lines.toList.map (·.text) ∧
      membersFrom packedFields 0 = [(0, 0), (1, 4), (2, 24), (3, 32)] := by
  generalize shape : [(1, 0), (3, 4), (2, 24), (4, 32)] = members
  have computed : (compiled? (bufferOf members) {}).any (fun stop =>
      7 ∈ stop.plan.packableStructs ∧
      (stop.program.typeAt? 7).any (fun type =>
        type.members.length = 4 ∧ stop.isDeclaredStruct 7 type) ∧
      membersByOffset stop.program 7 = .ok [0, 1, 2, 3] ∧
      Spaced stop.program 7 (floatsOf members) [0, 1, 2, 3] ∧
      (∀ index ∈ [0, 1, 2, 3], Declares stop.program 7 (floatsOf members) index) ∧
      fieldsOf stop.program 7 (floatsOf members) (List.range 4) = packedFields ∧
      (List.range 4).Pairwise (fun index next =>
        memberOffset stop.program 7 index < memberOffset stop.program 7 next) ∧
      (List.range 4).map (fun index => (index, memberOffset stop.program 7 index)) =
        [(0, 0), (1, 4), (2, 24), (3, 32)]) = true := by
    subst shape
    decide +kernel
  obtain ⟨program, text, stop, loaded, compiled, marked, typed, listed, spaced, declares, fields,
    ascending, offsets⟩ := compiled?_decide computed
  obtain ⟨type, stored, typed⟩ := (Option.any_eq_true _ _).mp typed
  obtain ⟨count, declared⟩ := of_decide_eq_true typed
  obtain ⟨_, printed⟩ := compile_declares_offsets_iff compiled
  obtain ⟨⟨name, printed⟩, placed⟩ :=
    printed 7 marked type (floatsOf members) _ stored declared listed spaced declares
  rw [count, fields] at printed placed
  rw [offsets] at placed
  exact ⟨program, text, stop, name, loaded, compiled, marked, printed, placed.mpr ascending⟩

/-- The first of these members comes last by its offset. The room before it is computed there and
printed here, so that no member lies where it should. -/
theorem unordered_members_misplaced : ∃ program text stop fields,
      Program.ofModule (bufferOf [(4, 32), (1, 0), (2, 8)]) = .ok program ∧
      compile (Compiler.new program {}) = .ok text stop ∧ 7 ∈ stop.plan.packableStructs ∧
      Spaced stop.program 7 (floatsOf [(4, 32), (1, 0), (2, 8)]) [1, 2, 0] ∧
      fieldsOf stop.program 7 (floatsOf [(4, 32), (1, 0), (2, 8)]) [0, 1, 2] = fields ∧
      declarationLines "_7" ["char _m0_pad[16];", "float4 _m0;", "float _m1;", "float2 _m2;"] <:+:
        stop.pass.lines.toList.map (·.text) ∧
      [0, 1, 2].map (memberOffset stop.program 7) = [32, 0, 8] ∧
      membersFrom fields 0 = [(0, 16), (1, 32), (2, 40)] := by
  generalize shape : [(4, 32), (1, 0), (2, 8)] = members
  have computed : (compiled? (bufferOf members) {}).any (fun stop =>
      7 ∈ stop.plan.packableStructs ∧ Spaced stop.program 7 (floatsOf members) [1, 2, 0] ∧
      fieldsOf stop.program 7 (floatsOf members) [0, 1, 2] =
        [.padding 0 16, .member 0 false .float 4, .member 1 false .float 1,
          .member 2 false .float 2] ∧
      declarationLines "_7" ["char _m0_pad[16];", "float4 _m0;", "float _m1;", "float2 _m2;"] <:+:
        stop.pass.lines.toList.map (·.text) ∧
      [0, 1, 2].map (memberOffset stop.program 7) = [32, 0, 8]) = true := by
    subst shape
    decide +kernel
  obtain ⟨program, text, stop, loaded, compiled, marked, spaced, fields, printed,
    offsets⟩ := compiled?_decide computed
  exact ⟨program, text, stop, _, loaded, compiled, marked, spaced, fields, printed, offsets,
    by decide⟩

end Emit

end SpirvMetal
