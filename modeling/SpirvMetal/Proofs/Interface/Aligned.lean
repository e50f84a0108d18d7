import SpirvMetal.Proofs.Interface.Planned
import SpirvMetal.Proofs.Layout.Declared
import SpirvMetal.Proofs.Program.Loaded
import SpirvMetal.Proofs.Threading.Uses

/-!
The interface struct of an entry point. The planned members are sorted once and then bound by
position; each part of a matrix or an array of numbers is moved once.
-/

namespace SpirvMetal

open List
open Spirv (StorageClass)

namespace Fixup

def member? : Fixup → Option (Id × Nat)
  | .copyInToLocal _ _ _ block member
  | .copyLocalToOut _ _ _ block member _
  | .padOutput _ block member _ => some (block, member)
  | _ => none

/-- The variable and the index, where a column or an element of a variable is moved. -/
def part? : Fixup → Option (Id × Nat)
  | .copyInToLocal var none (some index) _ _
  | .copyLocalToOut var none (some index) _ _ _ => some (var, index)
  | _ => none

/-- Members are read when the function is entered, and written when it returns. -/
def reads : Fixup → Bool
  | .copyInToLocal .. => true
  | _ => false

end Fixup

def MemberBinding.fixup? (storage : StorageClass) (block index : Nat) : MemberBinding → Option Fixup
  | .alias _ | .blockBuiltin _ _ => none
  | .padded var components => some (.padOutput var block index components)
  | .copy var member element components =>
    if storage = .input then some (.copyInToLocal var member element block index)
    else some (.copyLocalToOut var member element block index components)

theorem MemberBinding.part?_fixup? (storage : StorageClass) (block index : Nat)
    (binding : MemberBinding) :
    (binding.fixup? storage block index).bind (·.part?) = binding.part? := by
  cases binding with
  | «alias» | blockBuiltin | padded => rfl
  | copy var member element components =>
    cases member <;> cases element <;> by_cases input : storage = .input <;>
      simp [fixup?, part?, Fixup.part?, input]

theorem MemberBinding.member?_fixup? {storage : StorageClass} {block index : Nat}
    {binding : MemberBinding} {fixup : Fixup}
    (moved : binding.fixup? storage block index = some fixup) :
    fixup.member? = some (block, index) := by
  cases binding with
  | «alias» | blockBuiltin => cases moved
  | padded =>
    cases moved
    rfl
  | copy =>
    simp only [fixup?] at moved
    split at moved <;> cases moved <;> rfl

def fixupsOf (storage : StorageClass) (block : Id) (items : List (PlannedMember × Nat)) :
    List Fixup :=
  items.filterMap fun (member, index) => member.binding.fixup? storage block index

def Function.moves (function : Function) (reads : Bool) : List Fixup :=
  (if reads then function.fixupsIn else function.fixupsOut).filter (·.member?.isSome)

def Compiler.moves (c : Compiler) (reads : Bool) : List Fixup :=
  (c.program.functionAt? c.plan.entry).elim [] (·.moves reads)

namespace Program

variable {program : Program} {id : Id}

theorem Bounded.functionAt?_none (bounded : program.Bounded) (fresh : program.bound ≤ id) :
    program.functionAt? id = none := by
  cases found : program.functionAt? id with
  | none => rfl
  | some function => exact absurd (bounded.function_below found) (Nat.not_lt.mpr fresh)

theorem standIn?_modifyMember (program : Program) (id member other : Nat)
    (change : Decorations → Decorations) :
    (program.modifyMember id member change).standIn? other = program.standIn? other := by
  rw [standIn?, standIn?, decorations_modifyMember]

theorem standIn?_setStandIn (program : Program) (id other : Id) (text : String) :
    (program.setStandIn id text).standIn? other =
      if other = id then some text else program.standIn? other := by
  simp only [standIn?, setStandIn, decorations_modifyOwn]
  split <;> rfl

theorem memberDecorations_modifyOwn (program : Program) (id other member : Nat)
    (change : Decorations → Decorations) :
    (program.modifyOwn id change).memberDecorations other member =
      program.memberDecorations other member := by
  rw [memberDecorations_eq, memberDecorations_eq, memberNotes_modifyOwn]

end Program

namespace Emit

variable {c c' : Compiler} {u : Unit} {storage : StorageClass} {struct block : Id}
variable {whole : Id → String} {inBlock : Id → Nat → String} {item : PlannedMember × Nat}
  {items : List (PlannedMember × Nat)} {members : List PlannedMember} {program : Program} {var : Id}
  {vars : List Id} {lists : List (List PlannedMember)} {type : ValueType}

/-- A step that stores nothing but fixups for members. -/
structure Connects (added : List Fixup) (before after : Compiler) : Prop where
  entry : after.plan.entry = before.plan.entry
  types : ∀ id, after.program.typeAt? id = before.program.typeAt? id
  vars : ∀ id, after.program.variableAt? id = before.program.variableAt? id
  moves : ∀ reads, after.moves reads =
    before.moves reads ++ added.filter fun fixup => fixup.reads = reads

namespace Connects

variable {first second third : Compiler} {added more : List Fixup}

theorem of_records (same : c'.program.records = c.program.records)
    (entry : c'.plan.entry = c.plan.entry) : Connects [] c c' := by
  have record?_eq (id : Id) : c'.program.record? id = c.program.record? id :=
    congrArg (·.get? id) same
  refine ⟨entry, fun id => ?_, fun id => ?_, fun reads => ?_⟩
  · simp only [Program.typeAt?, record?_eq]
  · simp only [Program.variableAt?, record?_eq]
  · simp [Compiler.moves, Program.functionAt?, record?_eq, entry]

theorem trans (left : Connects added first second) (right : Connects more second third) :
    Connects (added ++ more) first third where
  entry := right.entry.trans left.entry
  types id := (right.types id).trans (left.types id)
  vars id := (right.vars id).trans (left.vars id)
  moves reads := by rw [right.moves, left.moves, filter_append, append_assoc]

end Connects

theorem modifyEntry_connects {change : Function → Function} {added : List Fixup}
    (adds : ∀ function reads, (change function).moves reads =
      function.moves reads ++ added.filter fun fixup => fixup.reads = reads)
    (run : modifyEntry change c = .ok u c') :
    Connects added c c' ∧ c'.program.notes = c.program.notes := by
  replace run := get_bind.mp run
  obtain ⟨program, changed, rfl⟩ := updateProgram_ok.mp run
  obtain ⟨found, stored, notes, _, _, records⟩ := Program.modifyFunction_ok changed
  refine ⟨⟨rfl, Program.find_modifyFunction changed fun _ => rfl,
    Program.find_modifyFunction changed fun _ => rfl, fun reads => ?_⟩, notes⟩
  have changed : program.functionAt? c.plan.entry = some (change found) := by
    rw [Program.functionAt?, records, if_pos rfl]
    rfl
  simp only [Compiler.moves, stored, changed, Option.elim_some]
  exact adds found reads

theorem moves_addLocal (function : Function) (id : Id) (reads : Bool) :
    (function.addLocal id).moves reads = function.moves reads := by
  unfold Function.addLocal
  split <;> rfl

/-- What binding a member does: the fixup that moves it is added, or it gets its text. -/
structure Binds (storage : StorageClass) (block index : Nat) (text : String)
    (binding : MemberBinding) (before after : Compiler) : Prop
    extends Connects (binding.fixup? storage block index).toList before after where
  standIns : ∀ id, after.program.standIn? id =
    if binding = .alias id then some text else before.program.standIn? id
  members : ∀ id member, after.program.memberDecorations id member =
    if binding = .blockBuiltin id member then
      { before.program.memberDecorations id member with standIn := some text }
    else before.program.memberDecorations id member

theorem told_eq {before after : Program} (same : after.notes = before.notes) :
    after.standIn? = before.standIn? ∧ after.memberDecorations = before.memberDecorations := by
  simp only [funext_iff, Program.standIn?, Program.decorations, Program.decorations?,
    Program.memberDecorations, Program.memberDecorations?, Program.notes?, same, implies_true,
    and_self]

namespace Binds

variable {first second third : Compiler} {index : Nat} {text : String} {binding : MemberBinding}

theorem of_connects (connects : Connects (binding.fixup? storage block index).toList first second)
    (same : second.program.notes = first.program.notes)
    (moved : (binding.fixup? storage block index).isSome = true) :
    Binds storage block index text binding first second := by
  refine { connects with standIns := fun id => ?_, members := fun id member => ?_ }
  · rw [if_neg (by rintro rfl; cases moved), (told_eq same).1]
  · rw [if_neg (by rintro rfl; cases moved), (told_eq same).2]

theorem thenConnects (binds : Binds storage block index text binding first second)
    (connects : Connects [] second third)
    (same : third.program.notes = second.program.notes) :
    Binds storage block index text binding first third := by
  have both := binds.toConnects.trans connects
  rw [append_nil] at both
  refine { both with standIns := fun id => ?_, members := fun id member => ?_ }
  · rw [← binds.standIns, (told_eq same).1]
  · rw [← binds.members, (told_eq same).2]

end Binds

theorem bindMember_binds {index : Nat} {text : String} {binding : MemberBinding}
    (run : bindMember storage block index text binding c = .ok u c') :
    Binds storage block index text binding c c' := by
  cases binding with
  | «alias» var =>
    replace run := modify_bind.mp run
    obtain ⟨found, _, run⟩ := read_bind.mp run
    have named : Binds storage block index text (.alias var) c
        { c with program := c.program.setStandIn var text } := by
      refine { Connects.of_records rfl rfl with
        standIns := fun id => ?_, members := fun id member => ?_ }
      · rw [Program.standIn?_setStandIn]
        simp only [MemberBinding.alias.injEq, eq_comm]
      · rw [if_neg (by simp)]
        exact Program.memberDecorations_modifyOwn ..
    split at run
    · have silent (f : Function) (reads : Bool) :
          Function.moves { f with fixupsIn := f.fixupsIn ++ [.initializeOutput var] } reads =
            f.moves reads ++ [].filter fun fixup : Fixup => fixup.reads = reads := by
        cases reads <;> simp [Function.moves, Fixup.member?]
      obtain ⟨connects, notes⟩ := modifyEntry_connects silent run
      exact named.thenConnects connects notes
    · obtain ⟨_, rfl⟩ := pure_ok.mp run
      exact named
  | padded var components =>
    have pads (f : Function) (reads : Bool) : Function.moves { f.addLocal var with
          fixupsOut := f.fixupsOut ++ [.padOutput var block index components] } reads =
        f.moves reads ++ [Fixup.padOutput var block index components].filter
          fun fixup => fixup.reads = reads := by
      have moved := moves_addLocal f var reads
      cases reads <;> simp_all [Function.moves, Fixup.member?, Fixup.reads]
    obtain ⟨connects, notes⟩ := modifyEntry_connects pads run
    exact .of_connects connects notes rfl
  | blockBuiltin id member =>
    have named (c : Compiler) (plan : Plan) (entry : plan.entry = c.plan.entry) :
        Binds storage block index text (.blockBuiltin id member) c
          { c with plan, program := c.program.setMemberStandIn id member text } := by
      have connects : Connects [] c
          { c with plan, program := c.program.setMemberStandIn id member text } :=
        .of_records rfl entry
      refine { connects with standIns := fun other => ?_, members := fun other position => ?_ }
      · rw [if_neg (by simp)]
        exact Program.standIn?_modifyMember ..
      · refine (Program.memberDecorations_modifyMember ..).trans ?_
        simp only [MemberBinding.blockBuiltin.injEq, eq_comm]
        split
        · rename_i same
          rw [same.1, same.2]
        · rfl
    replace run := get_bind.mp run
    split at run
    · replace run := modify_bind.mp run
      obtain rfl := modifyProgram_ok.mp run
      exact named c _ rfl
    · obtain rfl := modifyProgram_ok.mp run
      exact named c c.plan rfl
  | copy var member element components =>
    have copies (f : Function) (reads : Bool) : Function.moves
          (let f := f.addLocal var
          if storage = .input then
            { f with fixupsIn := f.fixupsIn ++ [.copyInToLocal var member element block index] }
          else
            { f with fixupsOut := f.fixupsOut ++
                [.copyLocalToOut var member element block index components] }) reads =
        f.moves reads ++ ((MemberBinding.copy var member element components).fixup? storage block
          index).toList.filter fun fixup => fixup.reads = reads := by
      rw [← moves_addLocal f var]
      by_cases input : storage = .input <;> cases reads <;>
        simp [input, MemberBinding.fixup?, Function.moves, Fixup.member?, Fixup.reads]
    obtain ⟨connects, notes⟩ := modifyEntry_connects copies run
    refine .of_connects connects notes ?_
    simp only [MemberBinding.fixup?]
    split <;> rfl

def placeMember (storage : StorageClass) (struct block : Id) (item : PlannedMember × Nat) :
    Emit Unit := do
  modifyProgram (·.modifyMember struct item.2 fun _ => item.1.decorations)
  bindMember storage block item.2 s!"{interfaceName storage}.{item.1.decorations.name}"
    item.1.binding

/-- The text of a member is known from what it is bound to, and the struct itself is no block that
is bound. -/
structure Named (storage : StorageClass) (struct : Id) (whole : Id → String)
    (inBlock : Id → Nat → String) (member : PlannedMember) : Prop where
  whole : ∀ var, member.binding = .alias var →
    s!"{interfaceName storage}.{member.decorations.name}" = whole var
  inBlock : ∀ id index, member.binding = .blockBuiltin id index → id ≠ struct ∧
    s!"{interfaceName storage}.{member.decorations.name}" = inBlock id index

structure Places (storage : StorageClass) (struct block : Id) (whole : Id → String)
    (inBlock : Id → Nat → String) (items : List (PlannedMember × Nat)) (before after : Compiler) :
    Prop extends Connects (fixupsOf storage block items) before after where
  decorated : ∀ item ∈ items, after.program.memberDecorations struct item.2 = item.1.decorations
  untouched : ∀ index, index ∉ items.map (·.2) →
    after.program.memberDecorations struct index = before.program.memberDecorations struct index
  aliases : ∀ var, before.program.standIn? var = some (whole var) ∨
    (∃ item ∈ items, item.1.binding = .alias var) → after.program.standIn? var = some (whole var)
  builtins : ∀ id index, id ≠ struct → before.program.memberStandIn? id index =
      some (inBlock id index) ∨ (∃ item ∈ items, item.1.binding = .blockBuiltin id index) →
    after.program.memberStandIn? id index = some (inBlock id index)

theorem placeMember_places (named : Named storage struct whole inBlock item.1)
    (run : placeMember storage struct block item c = .ok u c') :
    Places storage struct block whole inBlock [item] c c' := by
  replace run := modify_bind.mp run
  have binds := bindMember_binds run
  have elsewhere (index : Nat) : item.1.binding ≠ .blockBuiltin struct index :=
    fun bound => (named.inBlock struct index bound).1 rfl
  have placed : Connects [] c { c with
      program := c.program.modifyMember struct item.2 fun _ => item.1.decorations } :=
    .of_records rfl rfl
  have connects := placed.trans binds.toConnects
  have listed : [] ++ (item.1.binding.fixup? storage block item.2).toList =
      fixupsOf storage block [item] := by
    cases found : item.1.binding.fixup? storage block item.2 <;> simp [fixupsOf, found]
  rw [listed] at connects
  refine { connects with
    decorated := fun other inside => ?_, untouched := fun index outside => ?_,
    aliases := fun var known => ?_, builtins := fun id index differ known => ?_ }
  · obtain rfl := mem_singleton.mp inside
    rw [binds.members, if_neg (elsewhere other.2), Program.memberDecorations_modifyMember]
    simp
  · have differ : index ≠ item.2 := by simpa using outside
    rw [binds.members, if_neg (elsewhere index), Program.memberDecorations_modifyMember]
    simp [differ]
  · rw [binds.standIns]
    split
    · rename_i bound
      rw [named.whole var bound]
    · rename_i other
      rw [Program.standIn?_modifyMember]
      rcases known with known | ⟨_, inside, bound⟩
      · exact known
      · obtain rfl := mem_singleton.mp inside
        exact (other bound).elim
  · rw [Program.memberStandIn?, binds.members]
    split
    · rename_i bound
      rw [(named.inBlock id index bound).2]
    · rename_i other
      rw [Program.memberDecorations_modifyMember, if_neg fun same => differ same.1]
      rcases known with known | ⟨_, inside, bound⟩
      · exact known
      · obtain rfl := mem_singleton.mp inside
        exact (other bound).elim

theorem known_or_later {told known : Prop} {binds : PlannedMember × Nat → Prop}
    (listed : told ∨ ∃ other ∈ item :: items, binds other)
    (here : told ∨ (∃ other ∈ [item], binds other) → known) :
    known ∨ ∃ other ∈ items, binds other := by
  rcases listed with before | ⟨other, inside, bound⟩
  · exact .inl (here (.inl before))
  · rcases mem_cons.mp inside with rfl | inside
    · exact .inl (here (.inr ⟨_, mem_cons_self, bound⟩))
    · exact .inr ⟨other, inside, bound⟩

theorem Places.cons {first second third : Compiler}
    (here : Places storage struct block whole inBlock [item] first second)
    (later : Places storage struct block whole inBlock items second third)
    (fresh : item.2 ∉ items.map (·.2)) :
    Places storage struct block whole inBlock (item :: items) first third := by
  have connects := here.toConnects.trans later.toConnects
  have listed : fixupsOf storage block [item] ++ fixupsOf storage block items =
      fixupsOf storage block (item :: items) := by
    rw [fixupsOf, fixupsOf, fixupsOf, ← filterMap_append, singleton_append]
  rw [listed] at connects
  refine { connects with
    decorated := fun other inside => ?_, untouched := fun index outside => ?_,
    aliases := fun var known => ?_, builtins := fun id index differ known => ?_ }
  · rcases mem_cons.mp inside with rfl | inside
    · rw [later.untouched _ fresh]
      exact here.decorated _ mem_cons_self
    · exact later.decorated other inside
  · obtain ⟨differ, absent⟩ : index ≠ item.2 ∧ index ∉ items.map (·.2) := by
      simpa [not_or] using outside
    rw [later.untouched index absent, here.untouched index (by simpa using differ)]
  · exact later.aliases var (known_or_later known (here.aliases var))
  · exact later.builtins id index differ (known_or_later known (here.builtins id index differ))

theorem placeMembers_places (distinct : (items.map (·.2)).Nodup)
    (named : ∀ item ∈ items, Named storage struct whole inBlock item.1)
    (run : items.forM (placeMember storage struct block) c = .ok u c') :
    Places storage struct block whole inBlock items c c' := by
  induction items generalizing c with
  | nil =>
    obtain ⟨_, rfl⟩ := pure_ok.mp run
    have same : Connects [] c c := .of_records rfl rfl
    exact { same with
      decorated := by simp
      untouched := fun _ _ => rfl
      aliases := fun _ known => known.resolve_right (by simp)
      builtins := fun _ _ _ known => known.resolve_right (by simp) }
  | cons item rest ih =>
    obtain ⟨_, middle, placed, run⟩ := bind_ok.mp run
    obtain ⟨fresh, distinct⟩ := nodup_cons.mp distinct
    have here := placeMember_places (named item mem_cons_self) placed
    exact here.cons
      (ih distinct (fun other inside => named other (mem_cons_of_mem item inside)) run) fresh

/-- All that is stored at a position belongs to one member. -/
structure Aligned (storage : StorageClass) (before after : Compiler) (struct block : Id)
    (members : List PlannedMember) : Prop where
  types : ∃ type, after.program.dataType block = .ok (struct, type) ∧
    type.members = members.map (·.type)
  decorations : ∀ {index member}, members[index]? = some member →
    after.program.memberDecorations struct index = member.decorations
  aliases : ∀ member ∈ members, ∀ var, member.binding = .alias var →
    after.program.standIn? var = some s!"{interfaceName storage}.{member.decorations.name}"
  builtins : ∀ member ∈ members, ∀ id index, member.binding = .blockBuiltin id index →
    after.program.memberStandIn? id index =
      some s!"{interfaceName storage}.{member.decorations.name}"
  fixups : ∀ reads, after.moves reads = before.moves reads ++
    (fixupsOf storage block members.zipIdx).filter fun fixup => fixup.reads = reads

theorem buildStruct_steps (run : buildStruct storage members c = .ok block c') :
    block = c.program.bound + 2 ∧ ∃ declared ready, declared.program.records =
        (c.program.addInterfaceStruct storage (members.map (·.type))).2.records ∧
      declared.plan.entry = c.plan.entry ∧ Connects [] declared ready ∧
      members.zipIdx.forM (placeMember storage c.program.bound block) ready = .ok () c' := by
  have looped (struct var : Id) :
      (forIn members.zipIdx PUnit.unit fun x _ => do
        modifyProgram fun program => program.modifyMember struct x.2 fun _ => x.1.decorations
        bindMember storage var x.2 s!"{interfaceName storage}.{x.1.decorations.name}" x.1.binding
        pure (ForInStep.yield PUnit.unit)) =
      members.zipIdx.forM (placeMember storage struct var) := by
    rw [← forIn_eq_forM]
    simp only [placeMember, bind_assoc]
  unfold buildStruct at run
  replace run := get_bind.mp run
  have first : (c.program.addInterfaceStruct storage (members.map (·.type))).1 =
      c.program.bound := rfl
  generalize c.program.addInterfaceStruct storage (members.map (·.type)) = added at run first ⊢
  obtain ⟨struct, program⟩ := added
  dsimp only at run first
  subst first
  simp only [looped] at run
  obtain ⟨_, declared, grown, run⟩ := bind_ok.mp run
  obtain ⟨_, noted, noting, run⟩ := bind_ok.mp run
  obtain ⟨ready, connects, run⟩ : ∃ ready, Connects [] noted ready ∧
      (do
        members.zipIdx.forM (placeMember storage c.program.bound (c.program.bound + 2))
        pure (c.program.bound + 2)) ready = .ok block c' := by
    split at run
    · split at run
      · have silent (f : Function) (reads : Bool) : Function.moves { f with
              fixupsIn := f.fixupsIn ++ [.bindCapturedOutput (c.program.bound + 2)] } reads =
            f.moves reads ++ [].filter fun fixup : Fixup => fixup.reads = reads := by
          cases reads <;> simp [Function.moves, Fixup.member?]
        obtain ⟨_, ready, changed, run⟩ := bind_ok.mp run
        exact ⟨ready, (modifyEntry_connects silent changed).1, run⟩
      · have silent (f : Function) (reads : Bool) :
            (f.addLocal (c.program.bound + 2)).moves reads =
            f.moves reads ++ [].filter fun fixup : Fixup => fixup.reads = reads := by
          simp [moves_addLocal]
        obtain ⟨_, ready, changed, run⟩ := bind_ok.mp run
        exact ⟨ready, (modifyEntry_connects silent changed).1, run⟩
    · exact ⟨noted, .of_records rfl rfl, run⟩
  obtain ⟨_, _, looped, run⟩ := bind_ok.mp run
  obtain ⟨rfl, rfl⟩ := pure_ok.mp run
  have grown := set_ok.mp grown
  have noting := modify_ok.mp noting
  refine ⟨rfl, noted, ready, ?_, ?_, connects, looped⟩
  · rw [← noting, ← grown]
    rfl
  · rw [← noting, ← grown]

theorem record?_addInterfaceStruct (program : Program) (storage : StorageClass) (members : List Id)
    (id : Id) :
    (program.addInterfaceStruct storage members).2.record? id = let block : ValueType :=
        { base := .struct, width := 0, storage, baseId := program.bound, members }
      if id = program.bound + 2 then some (.variable { type := program.bound + 1, storage })
      else if id = program.bound + 1 then some (.type (block.pointerTo program.bound storage))
      else if id = program.bound then some (.type block) else program.record? id := by
  refine (Program.record?_set ..).trans ?_
  rw [Program.record?_set, Program.record?_set]
  rfl

theorem functionAt?_addInterfaceStruct (bounded : program.Bounded) (storage : StorageClass)
    (members : List Id) (id : Id) :
    (program.addInterfaceStruct storage members).2.functionAt? id = program.functionAt? id := by
  have free (offset : Nat) : program.functionAt? (program.bound + offset) = none :=
    bounded.functionAt?_none (Nat.le_add_right ..)
  simp only [Program.functionAt?] at free ⊢
  rw [record?_addInterfaceStruct]
  dsimp only
  split
  · rename_i same
    rw [same, free 2]
    rfl
  · split
    · rename_i same
      rw [same, free 1]
      rfl
    · split
      · rename_i same
        rw [same]
        exact (free 0).symm
      · rfl

theorem buildStruct_aligned (bounded : c.program.Bounded)
    (named : ∀ member ∈ members, Named storage c.program.bound whole inBlock member)
    (run : buildStruct storage members c = .ok block c') :
    Aligned storage c c' c.program.bound block members := by
  obtain ⟨rfl, declared, ready, records, entry, connects, run⟩ := buildStruct_steps run
  have places := placeMembers_places (by rw [zipIdx_map_snd]; exact nodup_range')
    (fun item listed => named _ (fst_mem_of_mem_zipIdx listed)) run
  have both := connects.trans places.toConnects
  have stored (id : Id) : declared.program.record? id =
      (c.program.addInterfaceStruct storage (members.map (·.type))).2.record? id :=
    congrArg (·.get? id) records
  have bound {member : PlannedMember} (listed : member ∈ members) :
      ∃ item ∈ members.zipIdx, item.1 = member := by
    obtain ⟨index, found⟩ := List.getElem?_of_mem listed
    exact ⟨(member, index), mk_mem_zipIdx_iff_getElem?.mpr found, rfl⟩
  refine ⟨?_, fun {index member} found => ?_, fun member listed var aliased => ?_,
    fun member listed id index aliased => ?_, fun reads => ?_⟩
  · have var : c'.program.getVariable (c.program.bound + 2) =
        .ok { type := c.program.bound + 1, storage } := by
      rw [Program.getVariable_ok, both.vars, Program.variableAt?, stored,
        record?_addInterfaceStruct]
      simp [Record.asVariable?]
    have typed (id : Id) : c'.program.typeAt? id =
        ((c.program.addInterfaceStruct storage (members.map (·.type))).2.record? id).bind
          Record.asType? := by
      rw [both.types, Program.typeAt?, stored]
    have pointer := typed (c.program.bound + 1)
    have block := typed c.program.bound
    rw [record?_addInterfaceStruct] at pointer block
    simp only [Nat.add_left_cancel_iff, Nat.reduceEqDiff, if_false, if_true, Nat.left_eq_add,
      Option.bind_some, Record.asType?] at pointer block
    refine ⟨_, Except.bind_ok.mpr ⟨_, var, Except.bind_ok.mpr
      ⟨_, Program.getType_ok.mpr pointer, Except.bind_ok.mpr
        ⟨_, Program.getType_ok.mpr block, rfl⟩⟩⟩, rfl⟩
  · exact places.decorated (member, index) (mk_mem_zipIdx_iff_getElem?.mpr found)
  · obtain ⟨item, inside, rfl⟩ := bound listed
    rw [places.aliases var (.inr ⟨item, inside, aliased⟩), (named item.1 listed).whole var aliased]
  · obtain ⟨item, inside, rfl⟩ := bound listed
    obtain ⟨differ, text⟩ := (named item.1 listed).inBlock id index aliased
    rw [places.builtins id index differ (.inr ⟨item, inside, aliased⟩), text]
  · rw [both.moves, nil_append]
    simp only [Compiler.moves, entry]
    rw [Program.functionAt?, stored, ← Program.functionAt?, functionAt?_addInterfaceStruct bounded]

theorem decorations_planned (plans : c.Plans c') :
    c'.program.decorations = c.program.decorations := by
  funext id
  simp only [Program.decorations, Program.decorations?, Program.notes?, plans.notes]

theorem wholeName_planned (plans : c.Plans c') (var : Id) :
    c'.program.wholeName var = c.program.wholeName var := by
  unfold Program.wholeName Program.builtin? Program.plainName Program.name
  rw [decorations_planned plans]

variable {planned : Compiler}

theorem before_total (a b : PlannedMember) : a.before b = true ∨ b.before a = true := by
  unfold PlannedMember.before
  cases a.isBuiltin <;> cases b.isBuiltin <;> simp <;> omega

theorem before_trans (a b d : PlannedMember) (first : a.before b = true)
    (second : b.before d = true) : a.before d = true := by
  unfold PlannedMember.before at first second ⊢
  cases aBuiltin : a.isBuiltin <;> cases bBuiltin : b.isBuiltin <;> cases dBuiltin : d.isBuiltin <;>
    simp_all <;> omega

theorem before_cases {a b : PlannedMember} (ordered : a.before b = true) :
    (a.isBuiltin = true → b.isBuiltin = true) ∧
      (a.isBuiltin = b.isBuiltin → a.location ≤ b.location) := by
  unfold PlannedMember.before at ordered
  split at ordered
  · rename_i same
    exact ⟨fun builtin => same ▸ builtin, fun _ => of_decide_eq_true ordered⟩
  · rename_i differ
    exact ⟨fun _ => ordered, fun same => (differ same).elim⟩

theorem stageVariables_nodup (bounded : c.program.Bounded)
    (found : c.stageVariables storage = .ok vars) : vars.Nodup := by
  obtain ⟨point, _, found⟩ := Except.bind_ok.mp found
  obtain ⟨selected, selecting, found⟩ := Except.bind_ok.mp found
  cases found
  have listed (entries : List (Id × Record)) :
      ((entries.filterMap fun entry => entry.2.asVariable?.map (entry.1, ·)).map (·.1)).Sublist
        (entries.map (·.1)) := by
    induction entries with
    | nil => exact .slnil
    | cons entry rest ih =>
      obtain ⟨id, record⟩ := entry
      cases selected : record.asVariable? with
      | none =>
        rw [filterMap_cons_none (by simp [selected])]
        exact ih.cons id
      | some var =>
        rw [filterMap_cons_some (b := (id, var)) (by simp [selected])]
        exact ih.cons_cons id
  exact bounded.distinct.sublist (((filterM_sublist selecting).map _).trans (listed _))

theorem filter_flatten {κ β : Type} [DecidableEq κ] {key : β → κ} {post : κ → List β → Prop}
    {keys : List κ} {parts : List (List β)} {a : κ}
    (own : List.Forall₂ (fun a part => (∀ x ∈ part, key x = a) ∧ post a part) keys parts)
    (distinct : keys.Nodup) (listed : a ∈ keys) :
    ∃ part, post a part ∧ parts.flatten.filter (fun x => key x = a) = part := by
  induction own with
  | nil => cases listed
  | @cons first part keys parts here later ih =>
    obtain ⟨fresh, distinct⟩ := nodup_cons.mp distinct
    rw [flatten_cons, filter_append]
    rcases mem_cons.mp listed with rfl | listed
    · refine ⟨part, here.2, ?_⟩
      have all : part.filter (fun x => key x = a) = part :=
        filter_eq_self.mpr fun x inside => decide_eq_true (here.1 x inside)
      have none : parts.flatten.filter (fun x => key x = a) = [] := by
        refine filter_eq_nil_iff.mpr fun x inside same => fresh ?_
        obtain ⟨other, listed, inside⟩ := mem_flatten.mp inside
        obtain ⟨b, known, owns, _⟩ := exists_of_forall₂ later listed
        rwa [← of_decide_eq_true same, owns x inside]
      rw [all, none, append_nil]
    · obtain ⟨found, known, same⟩ := ih distinct listed
      refine ⟨found, known, ?_⟩
      have none : part.filter (fun x => key x = a) = [] := by
        refine filter_eq_nil_iff.mpr fun x inside same => fresh ?_
        rwa [← here.1 x inside, of_decide_eq_true same]
      rw [none, same, nil_append]

def IsComposite (type : ValueType) : Prop :=
  type.isMatrix = true ∨ ∃ dimension, type.dimensions = [dimension]

theorem part?_own (plan : IsPlanFor program var members) :
    ∀ part ∈ members.filterMap (·.binding.part?), part.1 = var := by
  intro ⟨other, index⟩ listed
  obtain ⟨member, inside, part⟩ := mem_filterMap.mp listed
  refine (plan.each member inside).own other ?_
  unfold MemberBinding.part? at part
  split at part
  · rename_i bound
    cases part
    rw [bound]
    rfl
  · cases part

theorem splits_iff (composite : IsComposite type) : program.splits var type = true ↔
      program.builtin? var = none ∧ type.base.isNumeric = true := by
  have parts : (type.isMatrix || type.isArray) = true := by
    rcases composite with matrix | ⟨dimension, one⟩
    · rw [matrix]
      rfl
    · simp [ValueType.isArray, one]
  simp [Program.splits, parts]

theorem parts_fixupsOf (storage : StorageClass) (block : Id) (members : List PlannedMember) :
    (fixupsOf storage block members.zipIdx).filterMap (·.part?) =
      members.filterMap (·.binding.part?) := by
  have indexed (members : List PlannedMember) (first : Nat) :
      (fixupsOf storage block (members.zipIdx first)).filterMap (·.part?) =
        members.filterMap (·.binding.part?) := by
    simp only [fixupsOf, filterMap_filterMap, MemberBinding.part?_fixup?]
    induction members generalizing first with
    | nil => rfl
    | cons member rest ih =>
      rw [zipIdx_cons]
      cases found : member.binding.part? <;> simp [found, ih]
  exact indexed members 0

section

variable (each : List.Forall₂ (fun var members => ∃ middle : Compiler, c.Plans middle ∧
  middle.Plans planned ∧ IsPlanFor middle.program var members) vars lists)

include each

theorem parts_of_plans (bounded : c.program.Bounded) (distinct : vars.Nodup) {data : Id}
    (listed : var ∈ vars) (typed : c.program.dataType var = .ok (data, type)) :
    (lists.flatten.filterMap (·.binding.part?)).filter (fun part => part.1 = var) =
      if c.program.splits var type then (List.range (c.program.partCount type)).map (var, ·)
      else [] := by
  have own : List.Forall₂ (fun var parts => (∀ part ∈ parts, part.1 = var) ∧
      ∀ {data type}, c.program.dataType var = .ok (data, type) →
        parts = if c.program.splits var type then
          (List.range (c.program.partCount type)).map (var, ·) else []) vars
        (lists.map fun members => members.filterMap (·.binding.part?)) := by
    rw [forall₂_map_right_iff]
    refine each.imp fun var members ⟨middle, plans, _, plan⟩ => ⟨part?_own plan, ?_⟩
    intro data type typed
    have splits : middle.program.splits var type = c.program.splits var type := by
      unfold Program.splits Program.builtin?
      rw [decorations_planned plans]
    have count : middle.program.partCount type = c.program.partCount type := by
      unfold Program.partCount
      split
      · rfl
      · exact (plans.addsTypes bounded).dimensionLength_eq _
    rw [plan.parts (plans.program.dataType_ok bounded typed), splits, count]
  obtain ⟨part, known, same⟩ := filter_flatten own distinct listed
  rw [filterMap_flatten, same, known typed]

theorem location_of_part {member : PlannedMember} (listed : member ∈ lists.flatten)
    {var index : Nat}
    (part : member.binding.part? = some (var, index))
    (located : c.program.hasDecoration var .location = true) :
    member.location = c.program.getDecoration var .location + index := by
  obtain ⟨members, listed, inside⟩ := mem_flatten.mp listed
  obtain ⟨other, _, middle, plans, _, plan⟩ := exists_of_forall₂ each listed
  obtain rfl : var = other := part?_own plan (var, index) (mem_filterMap.mpr ⟨_, inside, part⟩)
  have same := decorations_planned plans
  have found := plan.located (by rwa [Program.hasDecoration, same]) member inside part
  rwa [Program.getDecoration, same] at found

theorem named_of_plans (bounded : c.program.Bounded) :
    ∀ member ∈ lists.flatten, Named storage planned.program.bound
      (fun var => s!"{interfaceName storage}.{c.program.wholeName var}")
      (fun id index => s!"{interfaceName storage}.{c.program.inBlockName id index}") member := by
  intro member listed
  obtain ⟨members, listed, inside⟩ := mem_flatten.mp listed
  obtain ⟨var, _, middle, before, after, plan⟩ := exists_of_forall₂ each listed
  have known := plan.each member inside
  refine ⟨fun other aliased => ?_, fun id index aliased => ?_⟩
  · rw [known.whole other aliased, wholeName_planned before]
  · obtain ⟨name, data, type, typed, rfl⟩ := known.block id index aliased
    have found := Program.getType_ok.mp (Program.getType_of_dataType typed)
    have below := ((before.program.bounded bounded).type_below found).2
    refine ⟨Nat.ne_of_lt (Nat.lt_of_lt_of_le below after.program.bound), ?_⟩
    rw [name, Program.inBlockName, qualifiedMemberName_eq before.notes]

end

theorem interface_aligned (bounded : c.program.Bounded)
    (run : interface storage c = .ok (some block) c') :
    ∃ vars lists planned struct members, c.stageVariables storage = .ok vars ∧ vars.Nodup ∧
      vars.mapM (planVariable storage) c = .ok lists planned ∧
      members.Perm lists.flatten ∧
      members.Pairwise (fun a b => (a.isBuiltin = true → b.isBuiltin = true) ∧
        (a.isBuiltin = b.isBuiltin → a.location ≤ b.location)) ∧
      (∀ builtin location,
        members.filter (fun member => member.isBuiltin = builtin ∧ member.location = location) =
          lists.flatten.filter
            (fun member => member.isBuiltin = builtin ∧ member.location = location)) ∧
      Aligned storage c c' struct block members ∧
      ∀ var ∈ vars, ∀ data type, c.program.dataType var = .ok (data, type) → IsComposite type →
        ((((fixupsOf storage block members.zipIdx).filterMap (·.part?)).filter
            (fun part => part.1 = var)).Perm
          ((List.range (c.program.partCount type)).map (var, ·)) ↔
          c.program.partCount type = 0 ∨
            c.program.builtin? var = none ∧ type.base.isNumeric = true) ∧
        (c.program.hasDecoration var .location = true →
          ∀ fixup ∈ fixupsOf storage block members.zipIdx, ∀ index position,
            fixup.part? = some (var, index) → fixup.member? = some (block, position) →
              c'.program.getMemberDecoration struct position .location =
                c.program.getDecoration var .location + index) := by
  obtain ⟨vars, found, run⟩ := read_bind.mp run
  obtain ⟨lists, planned, planning, run⟩ := bind_ok.mp run
  split at run
  · obtain ⟨absent, _⟩ := pure_ok.mp run
    cases absent
  · obtain ⟨block, _, building, run⟩ := bind_ok.mp run
    obtain ⟨same, rfl⟩ := pure_ok.mp run
    cases same
    have distinct := stageVariables_nodup bounded found
    have plans : c.Plans planned := Keeps.keeps planning
    have each : List.Forall₂ (fun var members => ∃ middle : Compiler, c.Plans middle ∧
        middle.Plans planned ∧ IsPlanFor middle.program var members) vars lists :=
      mapM_ok_of_always (fun var _ {_ _ _} => planVariable_ok) planning
    have sorted := sortBy_perm PlannedMember.before lists.flatten
    have aligned := buildStruct_aligned (plans.program.bounded bounded)
      (fun member listed => named_of_plans each bounded member (sorted.mem_iff.mp listed)) building
    have moves (reads : Bool) : planned.moves reads = c.moves reads := by
      rw [Compiler.moves, plans.entry, (plans.addsTypes bounded).functionAt?_eq]
      rfl
    refine ⟨vars, lists, planned, planned.program.bound, _, found, distinct, planning, sorted,
      (pairwise_sortBy before_total before_trans _).imp before_cases, fun builtin location => ?_,
      { aligned with fixups := fun reads => (aligned.fixups reads).trans (by rw [moves]) },
      fun var listed data type typed composite => ⟨?_, fun located => ?_⟩⟩
    · refine filter_sortBy (fun a b first second => ?_) _
      obtain ⟨builtinA, locationA⟩ := of_decide_eq_true first
      obtain ⟨builtinB, locationB⟩ := of_decide_eq_true second
      simp [PlannedMember.before, builtinA, builtinB, locationA, locationB]
    · have parts := ((sorted.filterMap (·.binding.part?)).filter fun part => part.1 = var)
      rw [parts_of_plans each bounded distinct listed typed] at parts
      rw [parts_fixupsOf, parts.congr_left, ← splits_iff composite]
      cases splits : c.program.splits var type with
      | true => simp
      | false => simp [List.nil_perm]
    · intro fixup moved index position part member
      obtain ⟨⟨planned, _⟩, inside, bound⟩ := List.mem_filterMap.mp moved
      dsimp only at bound
      cases (MemberBinding.member?_fixup? bound).symm.trans member
      have same := MemberBinding.part?_fixup? storage block position planned.binding
      rw [bound, Option.bind_some, part] at same
      have stands := List.mk_mem_zipIdx_iff_getElem?.mp inside
      rw [Program.getMemberDecoration, aligned.decorations stands]
      have listed := sorted.mem_iff.mp (List.mem_of_getElem? stands)
      exact location_of_part each listed same.symm located

/-- A fragment shader that reads one element of an array of two at location 1. -/
def arrayInput (element : Nat) : Spirv.Module where
  entryPoints := [.entry .fragment 10 [9]]
  annotations := [⟨.decorate, none, none, [.idRef 9, .decoration .location, .literal 1]⟩]
  globals := [⟨.typeVoid, none, some 5, []⟩, ⟨.typeFloat, none, some 3, [.literal 32]⟩,
    ⟨.typeInt, none, some 6, [.literal 32, .literal 0]⟩,
    ⟨.constant, some 6, some 20, [.literal 2]⟩,
    ⟨.constant, some 6, some 22, [.literal 1]⟩,
    ⟨.typeStruct, none, some 7, [.idRef 3]⟩,
    ⟨.typeArray, none, some 21, [.idRef element, .idRef 20]⟩, .pointer 8 .input 21,
    .pointer 24 .input element, .variable 9 8 .input,
    ⟨.typeFunction, none, some 11, [.idRef 5]⟩]
  functions := [.ofBody 5 10 11 12 [⟨.accessChain, some 24, some 25, [.idRef 9, .idRef 22]⟩,
    ⟨.load, some element, some 26, [.idRef 25]⟩]]

def arrayInputType (base : BaseType) (width element : Nat) (members : List Id) : ValueType :=
  { base, width, dimensions := [.literal 2], parent := some element, baseId := element, members }

/-- The input struct of a module whose variables are all in use, with the state before and after. -/
def staged? (m : Spirv.Module) : Option (Compiler × Id × Compiler) :=
  match Program.ofModule m with
  | .error _ => none
  | .ok program =>
    let c := Compiler.new program {}
    let c := { c with plan := { c.plan with activeVariables := program.vars.map (·.1) } }
    match interface .input c with
    | .ok (some block) c' => some (c, block, c')
    | _ => none

theorem staged?_some {m : Spirv.Module} (found : staged? m = some (c, block, c')) :
    c.program.Bounded ∧ interface .input c = .ok (some block) c' := by
  unfold staged? at found
  split at found
  · cases found
  · rename_i program loaded
    dsimp only at found
    split at found
    · rename_i block c' run
      cases found
      exact ⟨Program.ofModule_bounded loaded, run⟩
    · cases found

/-- Two numbers at location 1 become members at locations 1 and 2. -/
theorem interface_aligned_numbers : ∃ c c' block struct members,
      c.program.Bounded ∧ interface .input c = .ok (some block) c' ∧
      c.program.getDecoration 9 .location = 1 ∧
      Aligned .input c c' struct block members ∧
      (((fixupsOf .input block members.zipIdx).filterMap (·.part?)).filter
        (fun part => part.1 = 9)).Perm [(9, 0), (9, 1)] ∧
      ∀ fixup ∈ fixupsOf .input block members.zipIdx, ∀ position,
        fixup.part? = some (9, 1) → fixup.member? = some (block, position) →
          c'.program.getMemberDecoration struct position .location = 2 := by
  have computed : (staged? (arrayInput 3)).any (fun (c, _, _) =>
      c.stageVariables .input = .ok [9] ∧
      c.program.dataType 9 = .ok (21, arrayInputType .float 32 3 []) ∧
      c.program.builtin? 9 = none ∧ c.program.hasDecoration 9 .location = true ∧
      c.program.getDecoration 9 .location = 1) = true := by
    decide +kernel
  obtain ⟨⟨c, block, c'⟩, found, facts⟩ := (Option.any_eq_true _ _).mp computed
  obtain ⟨staged, typed, plain, located, first⟩ := of_decide_eq_true facts
  obtain ⟨bounded, run⟩ := staged?_some found
  obtain ⟨vars, lists, planned, struct, members, selected, -, -, -, -, -, aligned, parts⟩ :=
    interface_aligned bounded run
  cases staged.symm.trans selected
  obtain ⟨split, locations⟩ := parts 9 List.mem_cons_self 21 _ typed (.inr ⟨.literal 2, rfl⟩)
  refine ⟨c, c', block, struct, members, bounded, run, first, aligned,
    split.mpr (.inr ⟨plain, rfl⟩), fun fixup moved position part member => ?_⟩
  rw [locations located fixup moved 1 position part member, first]

/-- Two structs at location 1: one member is read, and copied into the array as if it were a
struct. -/
theorem structs_moved_once : ∃ program text stop block,
      Program.ofModule (arrayInput 7) = .ok program ∧
      compile (Compiler.new program {}) = .ok text stop ∧ stop.plan.stageIn = some block ∧
      stop.program.dataType 9 = .ok (21, arrayInputType .struct 0 7 [3]) ∧
      stop.program.hasDecoration 9 .location = true ∧
      stop.moves true = [.copyInToLocal 9 (some 0) none block 0] ∧
      ¬ (((stop.moves true).filterMap (·.part?)).filter (fun part => part.1 = 9)).Perm
        [(9, 0), (9, 1)] ∧
      "_9._m0 = in.m_7_m0;" ∈ stop.pass.lines.toList.map (·.text) := by
  have computed : (compiled? (arrayInput 7) {}).any (fun stop =>
      stop.plan.stageIn.any (fun block =>
        stop.program.dataType 9 = .ok (21, arrayInputType .struct 0 7 [3]) ∧
        stop.program.hasDecoration 9 .location = true ∧
        stop.moves true = [.copyInToLocal 9 (some 0) none block 0] ∧
        ¬ (((stop.moves true).filterMap (·.part?)).filter (fun part => part.1 = 9)).Perm
          [(9, 0), (9, 1)] ∧
        "_9._m0 = in.m_7_m0;" ∈ stop.pass.lines.toList.map (·.text))) = true := by
    decide +kernel
  obtain ⟨stop, found, facts⟩ := (Option.any_eq_true _ _).mp computed
  obtain ⟨block, staged, facts⟩ := (Option.any_eq_true _ _).mp facts
  obtain ⟨program, text, loaded, compiled⟩ := compiled?_some found
  exact ⟨program, text, stop, block, loaded, compiled, staged, of_decide_eq_true facts⟩

/-- Two structs with a number each, and room for one number. -/
theorem struct_elements_merged : ∃ program text stop,
      Program.ofModule (arrayInput 7) = .ok program ∧
      compile (Compiler.new program {}) = .ok text stop ∧ ∃ block ∈ stop.plan.stageIn,
        ((stop.program.dataType block).map (·.2.members)).toOption = some [3] :=
  compiled?_decide (by decide +kernel)

end Emit

end SpirvMetal
