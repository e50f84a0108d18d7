import Mathlib.Order.Monotone.Basic
import SpirvMetal.Proofs.Prepare.Kept
import SpirvMetal.Proofs.Program.Samples

/-!
Lookup tables lie outside of all functions, in constant memory.
-/

namespace SpirvMetal

open Option
open List
open Spirv (Op)

namespace Program

variable {program after : Program} {functions : List Id} {inst : Instruction} {sources : IdMap Id}
  {insts : List Instruction}
variable {id table pointer var source : Id} {steps : Nat}

/-- A pointer leads into a variable: it is the variable, or chosen or copied from such a pointer. -/
inductive LeadsInto (program : Program) (insts : List Instruction) (var : Id) : Id → Prop
  | here (declared : (program.variableAt? var).isSome = true) : LeadsInto program insts var var
  | derived {inst : Instruction} {pointer source : Id} (member : inst ∈ insts)
      (derives : inst.op ∈ [Op.accessChain, .inBoundsAccessChain, .ptrAccessChain, .copyObject])
      (result : inst.word? 1 = some pointer) (origin : inst.word? 2 = some source)
      (leads : LeadsInto program insts var source) : LeadsInto program insts var pointer

/-- An instruction writes through a pointer, or may do so in a function that it calls. -/
inductive WritesThrough (program : Program) (inst : Instruction) (pointer : Id) : Prop
  | store (op : inst.op = .store) (target : inst.word? 0 = some pointer)
  | copy (op : inst.op = .copyMemory) (target : inst.word? 0 = some pointer)
  | atomic (op : inst.op.isAtomic = true) (writes : inst.op ≠ .atomicLoad)
      (target : inst.atomicPointer? = some pointer)
  | argument {type : ValueType} (op : inst.op = .functionCall) (passed : pointer ∈ inst.words.drop 3)
      (typed : program.expressionType pointer = .ok type) (points : type.pointer = true)

/-- Every derived value has one source and an id of its own, below the bound. -/
structure Derives (program : Program) (insts : List Instruction) : Prop where
  fresh : ∀ inst ∈ insts, ∀ derived ∈ inst.derivation?,
    derived.1 < program.bound ∧ program.variableAt? derived.1 = none
  unique : ∀ first ∈ insts, ∀ second ∈ insts, ∀ derived ∈ first.derivation?,
    ∀ again ∈ second.derivation?, again.1 = derived.1 → again.2 = derived.2

theorem mem_writeTargets (writes : program.WritesThrough inst pointer)
    (other : inst.op ≠ .copyMemory) : pointer ∈ program.writeTargets inst := by
  cases writes with
  | store op target => simp [writeTargets, op, target]
  | copy op => exact absurd op other
  | atomic op writes target =>
    unfold writeTargets
    split
    · simp_all [Spirv.Op.isAtomic]
    · simp_all [Spirv.Op.isAtomic]
    · simp [op, writes, target]
  | argument op passed typed points => simpa [writeTargets, op, typed, points] using passed

theorem traceWithin_succ (found : program.traceWithin sources steps id = some var) :
    program.traceWithin sources (steps + 1) id = some var := by
  induction steps generalizing id with
  | zero => cases found
  | succ steps ih =>
    rw [traceWithin] at found ⊢
    split
    · rename_i isVariable
      rwa [if_pos isVariable] at found
    · rename_i derived
      rw [if_neg derived] at found
      obtain ⟨source, known, found⟩ := bind_eq_some_iff.mp found
      exact bind_eq_some_iff.mpr ⟨source, known, ih found⟩

theorem traceWithin_mono {more : Nat} (le : steps ≤ more)
    (found : program.traceWithin sources steps id = some var) :
    program.traceWithin sources more id = some var := by
  induction le with
  | refl => exact found
  | step _ ih => exact traceWithin_succ ih

/-- The ids with a source that are followed back to a variable within some steps. -/
def traced (program : Program) (sources : IdMap Id) (steps : Nat) : List Id :=
  sources.keys.filter fun id => (program.traceWithin sources (steps + 1) id).isSome

theorem traced_sublist {more : Nat} (le : steps ≤ more) :
    (program.traced sources steps).Sublist (program.traced sources more) := by
  refine monotone_filter_right _ fun id found => ?_
  obtain ⟨var, found⟩ := isSome_iff_exists.mp found
  exact isSome_iff_exists.mpr ⟨var, traceWithin_mono (Nat.succ_le_succ le) found⟩

theorem mem_traced (known : sources.find? id = some source) :
    id ∈ program.traced sources steps ↔
      (program.traceWithin sources (steps + 1) id).isSome = true := by
  simp [traced, Assoc.mem_keys known]

theorem traced_stable (same : program.traced sources steps = program.traced sources (steps + 1)) :
    program.traced sources (steps + 1) = program.traced sources (steps + 2) := by
  refine filter_congr fun id _ => ?_
  have next (steps : Nat) : program.traceWithin sources (steps + 1) id =
      if (program.variableAt? id).isSome then some id
      else (sources.find? id).bind (program.traceWithin sources steps) := rfl
  rw [next (steps + 1), next (steps + 2)]
  split
  · rfl
  · cases sources.find? id with
    | none => rfl
    | some source =>
      rw [bind_some, bind_some]
      cases further : sources.find? source with
      | none => simp [traceWithin, further]
      | some _ => rw [Bool.eq_iff_iff, ← mem_traced further, ← mem_traced further, same]

theorem traceVariable_of_traceWithin (found : program.traceWithin sources steps id = some var) :
    program.traceVariable sources id = some var := by
  have more : program.traceWithin sources (steps + sources.size + 1) id = some var :=
    traceWithin_mono (by omega) found
  cases known : sources.find? id with
  | none => simpa [traceVariable, traceWithin, known] using more
  | some _ =>
    have grows : Monotone fun steps => (program.traced sources steps).length :=
      fun _ _ le => (traced_sublist le).length_le
    have settled := @Nat.stabilises_of_monotone _ sources.size _ grows
      (fun _ => (length_filter_le ..).trans_eq (length_map ..))
      (fun _ same => congrArg List.length
        (traced_stable ((traced_sublist (Nat.le_succ _)).eq_of_length same)))
      (Nat.le_add_left sources.size steps)
    have same := (traced_sublist (Nat.le_add_left ..)).eq_of_length settled.symm
    have held := (mem_traced known).mpr (isSome_of_eq_some more)
    rw [← same, mem_traced known] at held
    obtain ⟨other, held⟩ := isSome_iff_exists.mp held
    have agree := traceWithin_mono (Nat.succ_le_succ (Nat.le_add_left _ steps)) held
    rw [more] at agree
    rw [traceVariable, held, agree]

/-- The value that is met after some steps from a value to its source. -/
def origin? (sources : IdMap Id) : (steps : Nat) → Id → Option Id
  | 0, id => some id
  | steps + 1, id => (sources.find? id).bind (origin? sources steps)

/-- The chain meets a variable after some steps, and none before. -/
structure FirstMet (program : Program) (sources : IdMap Id) (id var : Id) (steps : Nat) : Prop where
  met : origin? sources steps id = some var
  declared : (program.variableAt? var).isSome = true
  first : ∀ earlier < steps, ∀ other, origin? sources earlier id = some other →
    program.variableAt? other = none

theorem traceWithin_of_firstMet (met : program.FirstMet sources id var steps) :
    program.traceWithin sources (steps + 1) id = some var := by
  induction steps generalizing id with
  | zero =>
    obtain rfl := Option.some.inj met.met
    rw [traceWithin, if_pos met.declared]
  | succ steps ih =>
    obtain ⟨source, known, further⟩ := bind_eq_some_iff.mp met.met
    have derived := met.first 0 (Nat.succ_pos steps) id rfl
    rw [traceWithin, derived, if_neg (by simp), known, bind_some]
    refine ih ⟨further, met.declared, fun earlier lt other reached => ?_⟩
    refine met.first (earlier + 1) (Nat.succ_lt_succ lt) other ?_
    rw [origin?, known, bind_some, reached]

theorem firstMet_of_traceWithin (found : program.traceWithin sources steps id = some var) :
    ∃ steps, program.FirstMet sources id var steps := by
  induction steps generalizing id with
  | zero => cases found
  | succ steps ih =>
    rw [traceWithin] at found
    split at found
    · rename_i isVariable
      obtain rfl := Option.some.inj found
      exact ⟨0, rfl, isVariable, fun _ lt => absurd lt (Nat.not_lt_zero _)⟩
    · rename_i derived
      obtain ⟨source, known, found⟩ := bind_eq_some_iff.mp found
      obtain ⟨further, met⟩ := ih found
      refine ⟨further + 1, by rw [origin?, known, bind_some, met.met], met.declared, ?_⟩
      intro earlier lt other reached
      cases earlier with
      | zero =>
        obtain rfl := Option.some.inj reached
        simpa using derived
      | succ earlier =>
        rw [origin?, known, bind_some] at reached
        exact met.first earlier (Nat.lt_of_succ_lt_succ lt) other reached

/-- Following sources finds the first variable of the chain, however long the chain is, and nothing
exactly if the chain meets no variable: it ends at a value without a source, or it is a cycle. -/
theorem traceVariable_exact (program : Program) (sources : IdMap Id) (id : Id) :
    (∀ var, program.traceVariable sources id = some var ↔
      ∃ steps, program.FirstMet sources id var steps) ∧
    (program.traceVariable sources id = none ↔
      ∀ steps other, origin? sources steps id = some other → program.variableAt? other = none) := by
  have found (var : Id) : program.traceVariable sources id = some var ↔
      ∃ steps, program.FirstMet sources id var steps := by
    refine ⟨firstMet_of_traceWithin, ?_⟩
    rintro ⟨_, met⟩
    exact traceVariable_of_traceWithin (traceWithin_of_firstMet met)
  refine ⟨found, fun none steps => ?_,
    fun never => eq_none_iff_forall_ne_some.mpr fun var traced => ?_⟩
  · -- the first variable on the way would have been found
    induction steps using Nat.strong_induction_on with
    | _ steps ih =>
      intro other reached
      by_contra isVariable
      have met : program.FirstMet sources id other steps :=
        ⟨reached, isSome_iff_ne_none.mpr isVariable, ih⟩
      rw [(found other).mpr ⟨steps, met⟩] at none
      cases none
  · obtain ⟨steps, met⟩ := (found var).mp traced
    have absent := never steps var met.met
    simpa [absent] using met.declared

theorem find?_foldl_insert {pairs : List (Id × Id)}
    (only : ∀ other, (id, other) ∈ pairs → other = source)
    (known : sources.find? id = some source ∨ (id, source) ∈ pairs) :
    (pairs.foldl (fun sources pair => sources.insert pair.1 pair.2) sources).find? id =
      some source := by
  induction pairs generalizing sources with
  | nil => simpa using known
  | cons pair rest ih =>
    refine ih (fun other member => only other (by simp [member])) ?_
    rw [Assoc.find?_insert]
    grind

theorem LeadsInto.derivation
    (derives : inst.op ∈ [Op.accessChain, .inBoundsAccessChain, .ptrAccessChain, .copyObject])
    (result : inst.word? 1 = some pointer) (origin : inst.word? 2 = some source) :
    inst.derivation? = some (pointer, source) := by
  have derives : inst.op.derivesValue = true := by
    simp only [mem_cons, not_mem_nil, or_false] at derives
    rcases derives with op | op | op | op <;> rw [op] <;> rfl
  simp [Instruction.derivation?, derives, result, origin]

theorem LeadsInto.lt_bound (bounded : program.Bounded) (derives : program.Derives insts)
    (leads : program.LeadsInto insts table pointer) : pointer < program.bound := by
  cases leads with
  | here declared =>
    obtain ⟨var, stored⟩ := isSome_iff_exists.mp declared
    exact bounded.variable_below stored
  | derived member chosen result origin =>
    exact (derives.fresh _ member _ (derivation chosen result origin)).1

theorem traceVariable_of_leadsInto (derives : program.Derives insts)
    (growth : Extends Function.given program after) (bounded : program.Bounded)
    (read : after.instructionsOf functions = .ok insts)
    (traces : after.valueSources functions = .ok sources)
    (leads : program.LeadsInto insts table pointer) :
    after.traceVariable sources pointer = some table := by
  rw [valueSources, read] at traces
  obtain rfl := Except.ok.inj traces
  suffices ∃ steps, after.traceWithin _ steps pointer = some table by
    obtain ⟨steps, found⟩ := this
    exact traceVariable_of_traceWithin found
  induction leads with
  | here declared =>
    obtain ⟨var, stored⟩ := isSome_iff_exists.mp declared
    have kept := growth.variableAt?_eq (bounded.variable_below stored)
    exact ⟨1, by simp [traceWithin, kept, stored]⟩
  | @derived inst pointer source member chosen result origin _ ih =>
    obtain ⟨steps, found⟩ := ih
    have derivation := LeadsInto.derivation chosen result origin
    obtain ⟨below, fresh⟩ := derives.fresh inst member _ derivation
    refine ⟨steps + 1, ?_⟩
    rw [traceWithin, growth.variableAt?_eq below, fresh]
    refine bind_eq_some_iff.mpr ⟨source, find?_foldl_insert (fun other listed => ?_)
      (.inr (mem_filterMap.mpr ⟨inst, member, derivation⟩)), found⟩
    obtain ⟨second, held, also⟩ := mem_filterMap.mp listed
    exact derives.unique inst member second held _ derivation _ also rfl

theorem Extends.instructionsOf_ok (growth : Extends Function.given program after)
    (bounded : program.Bounded) (read : program.instructionsOf functions = .ok insts) :
    after.instructionsOf functions = .ok insts := by
  obtain ⟨bodies, reads, same⟩ := Except.bind_ok.mp read
  obtain rfl := Except.ok.inj same
  suffices ∃ now, functions.mapM after.getFunction = .ok now ∧
      now.flatMap (·.instructions) = bodies.flatMap (·.instructions) by
    obtain ⟨now, reads, same⟩ := this
    exact Except.bind_ok.mpr ⟨now, reads, congrArg Except.ok same⟩
  simp only [Except.mapM_ok] at reads ⊢
  clear read same
  induction reads with
  | nil => exact ⟨[], .nil, rfl⟩
  | cons getting _ ih =>
    obtain ⟨rest, reads, same⟩ := ih
    have stored := getFunction_ok.mp getting
    have kept := growth.functionAt?_eq (bounded.function_below stored)
    rw [stored] at kept
    obtain ⟨now, stored, kept⟩ := map_eq_some_iff.mp kept
    refine ⟨now :: rest, .cons (getFunction_ok.mpr stored) reads, ?_⟩
    rw [flatMap_cons, flatMap_cons, same]
    exact congrArg (·.instructions ++ _) kept

theorem Extends.expressionType_ok (growth : Extends Function.given program after)
    (bounded : program.Bounded) (below : id < program.bound)
    (results : after.resultTypes.find? id = program.resultTypes.find? id) {type : ValueType}
    (typed : program.expressionType id = .ok type) : after.expressionType id = .ok type := by
  have same : after.typeOf? id = program.typeOf? id := by
    have kept := growth.records id below
    unfold typeOf?
    rw [results]
    cases before : program.record? id with
    | none => simp_all
    | some record =>
      obtain ⟨now, stored, same⟩ := map_eq_some_iff.mp (by rw [before] at kept; exact kept)
      cases record <;> cases now <;> simp_all [Record.mapFunction]
  rw [expressionType, same]
  unfold expressionType at typed
  split at typed
  · have stored := getType_ok.mp typed
    exact getType_ok.mpr ((growth.typeAt?_eq (bounded.type_below stored).1).trans stored)
  · cases typed

end Program

namespace Compiler

variable {scope : Scope} {c c' : Compiler}

theorem Change.tables (change : Change scope c c') :
    (∀ id ∈ c.plan.written, id ∈ c'.plan.written) ∧ ∀ table ∈ c'.plan.lookupTables,
      table ∈ c.plan.lookupTables ∨ table ∉ c.plan.written ∧ scope.plans := by
  cases change with
  | plan fixed _ =>
    have written := congrArg Plan.written fixed
    have tables := congrArg Plan.lookupTables fixed
    exact ⟨fun _ noted => written ▸ noted, fun _ listed => .inl (tables ▸ listed)⟩
  | writes grows => exact ⟨grows, fun _ => .inl⟩
  | tabulates unwritten allowed =>
    refine ⟨fun _ => id, fun table listed => (mem_addNew.mp listed).imp_right ?_⟩
    rintro rfl
    exact ⟨unwritten, allowed⟩
  | _ => exact ⟨fun _ => id, fun _ => .inl⟩

theorem Prepares.tables (prepares : Prepares scope c c') :
    (∀ id ∈ c.plan.written, id ∈ c'.plan.written) ∧ ∀ table ∈ c'.plan.lookupTables,
      table ∈ c.plan.lookupTables ∨ table ∉ c.plan.written ∧ scope.plans := by
  induction prepares with
  | refl => exact ⟨fun _ => id, fun _ => .inl⟩
  | tail _ change ih =>
    obtain ⟨grows, chosen⟩ := change.tables
    refine ⟨fun id noted => grows id (ih.1 id noted), fun table listed => ?_⟩
    rcases chosen table listed with earlier | ⟨unwritten, allowed⟩
    · exact ih.2 table earlier
    · exact .inr ⟨fun noted => unwritten (ih.1 table noted), allowed⟩

theorem Prepares.callGraph (prepares : Prepares scope c c') :
    c'.plan.callGraph = c.plan.callGraph := by
  refine prepares.keeps (·.plan.callGraph = c.plan.callGraph) (fun _ _ change same => ?_) rfl
  rw [← same]
  cases change with
  | plan fixed _ =>
    have graphs := congrArg Plan.callGraph fixed
    exact graphs
  | _ => rfl

end Compiler

namespace Emit

open Compiler (Change Prepares Since)
open Preparing (AnyType)

variable {c c' : Compiler} {u : Unit}

/-- Between the names and the interfaces, what is written is noted; tables are chosen after that. -/
theorem prepare_tables (bounded : c.program.Bounded) (structs : c.plan.interfaceStructs = [])
    (tables : c.plan.lookupTables = []) (done : prepare c = .ok u c') :
    ∃ noted written, Since c.program noted ∧
      noted.program.writtenVariables c'.plan.callGraph.order = .ok written ∧
      ∀ table ∈ c'.plan.lookupTables, table ∉ written := by
  obtain ⟨_, surveyed, done, rest⟩ := bind_ok.mp done
  rw [Preparing.survey_eq] at done
  obtain ⟨⟨point, named⟩, reached, reaching, done⟩ := bind_ok.mp done
  obtain ⟨graph, activeVariables, -, naming, -, -, rfl⟩ := Preparing.reaching_ok reaching
  obtain ⟨activeBuiltins, _, done⟩ := lift_bind.mp done
  replace done := modify_bind.mp (get_bind.mp (modify_bind.mp done))
  obtain ⟨_, sampled, sampling, done⟩ := bind_ok.mp done
  obtain ⟨_, supplied, supplying, done⟩ := bind_ok.mp done
  obtain ⟨_, closed, closing, done⟩ := bind_ok.mp done
  have naming : Change (AnyType False False) c _ := .legalizes naming
  have renamed := (Since.start bounded structs).change naming
  obtain ⟨start, early, since, none⟩ : ∃ start : Compiler,
      (do noteAllSampling; implicitInputs; closeStorageImages : Emit Unit) start = .ok () closed ∧
      Since c.program start ∧ start.plan.lookupTables = [] :=
    ⟨_, bind_ok.mpr ⟨_, _, sampling, bind_ok.mpr ⟨_, _, supplying, closing⟩⟩,
      { renamed with }, tables⟩
  have prepares : Prepares ⟨False, False, False⟩ start closed := Keeps.keeps early
  obtain ⟨_, noted, noting, done⟩ := bind_ok.mp done
  obtain ⟨written, known, noting⟩ := lift_bind.mp (get_bind.mp noting)
  have noting := modify_ok.mp noting
  have later : Prepares (AnyType True True) noted surveyed := by
    have stageOut : Always (Prepares (AnyType True True)) (interface .output) :=
      Preparing.interfaceAny .output (.inr rfl)
    have stageIn : Always (Prepares (AnyType True True)) (interface .input) :=
      Preparing.interfaceAny .input (.inl rfl)
    refine Always.keeps ?_ done
    repeat' first
      | infer_instance
      | exact Preparing.modifyPlan (fun _ => rfl) fun _ => rfl
      | refine Always.andThen ?_ fun _ => ?_
      | split
  have fixups : Prepares (AnyType True True) surveyed c' := Keeps.keeps rest
  have whole : Prepares (AnyType True True) noted c' := later.trans fixups
  subst noting
  refine ⟨closed, written, prepares.keeps _ (fun _ _ change since => since.change change) since, ?_,
    fun table listed noted => ?_⟩
  · rw [whole.callGraph]
    exact known
  · rcases whole.tables.2 table listed with earlier | ⟨unwritten, -⟩
    · rcases prepares.tables.2 table earlier with first | ⟨-, never⟩
      · simp [none] at first
      · exact never
    · exact unwritten (mem_foldl_addNew.mpr (.inl noted))

/-- Of the instructions that write through pointers, only copies of memory write to lookup tables. -/
theorem tables_written_by_copies {m : Spirv.Module} {program : Program} {options : Options}
    {insts : List Instruction} (loaded : Program.ofModule m = .ok program)
    (prepared : prepare (Compiler.new program options) = .ok () c)
    (read : program.instructionsOf c.plan.callGraph.order = .ok insts)
    (derives : program.Derives insts) :
    ∀ table ∈ c.plan.lookupTables, ∀ inst ∈ insts, ∀ pointer, program.WritesThrough inst pointer →
      program.LeadsInto insts table pointer → inst.op = .copyMemory := by
  intro table kept inst member pointer writes leads
  have bounded := Program.ofModule_bounded loaded
  obtain ⟨noted, written, since, known, unwritten⟩ := prepare_tables bounded rfl rfl prepared
  have reads := since.program.instructionsOf_ok bounded read
  obtain ⟨sources, traces, known⟩ := Except.bind_ok.mp known
  obtain ⟨_, again, known⟩ := Except.bind_ok.mp known
  obtain rfl := Except.ok.inj (reads.symm.trans again)
  obtain rfl := Except.ok.inj known
  have below := leads.lt_bound bounded derives
  have still : noted.program.WritesThrough inst pointer := by
    cases writes with
    | argument op passed typed points =>
      exact .argument op passed (since.program.expressionType_ok bounded below
        (since.resultTypes pointer below) typed) points
    | store op target => exact .store op target
    | copy op target => exact .copy op target
    | atomic op writing target => exact .atomic op writing target
  by_contra other
  exact unwritten table kept (List.mem_filterMap.mpr ⟨pointer,
    List.mem_flatMap.mpr ⟨inst, member, Program.mem_writeTargets still other⟩,
    Program.traceVariable_of_leadsInto derives since.program bounded reads traces leads⟩)

/-- Two tables: an element of one is stored to, and then copied to the other. -/
def copiedTable : Spirv.Module where
  entryPoints := [.entry .glCompute 20 []]
  globals := [⟨.typeVoid, none, some 2, []⟩, ⟨.typeInt, none, some 3, [.literal 32, .literal 1]⟩,
    ⟨.typeFunction, none, some 5, [.idRef 2]⟩,
    ⟨.constant, some 3, some 6, [.literal 0]⟩,
    ⟨.constant, some 3, some 7, [.literal 2]⟩,
    ⟨.typeArray, none, some 8, [.idRef 3, .idRef 7]⟩,
    ⟨.constantComposite, some 8, some 9, [.idRef 6, .idRef 7]⟩, .pointer 10 .privateScope 8,
    ⟨.varDecl, some 10, some 11, [.storageClass .privateScope, .idRef 9]⟩,
    ⟨.varDecl, some 10, some 12, [.storageClass .privateScope, .idRef 9]⟩,
    .pointer 13 .privateScope 3]
  functions := [.ofBody 2 20 5 21 [⟨.accessChain, some 13, some 30, [.idRef 11, .idRef 6]⟩,
    ⟨.accessChain, some 13, some 31, [.idRef 12, .idRef 6]⟩,
    ⟨.store, none, none, [.idRef 31, .idRef 7]⟩, ⟨.copyMemory, none, none, [.idRef 30, .idRef 31]⟩]]

theorem copiedTable_prepared : ∃ program c insts, Program.ofModule copiedTable = .ok program ∧
      prepare (Compiler.new program {}) = .ok () c ∧
      program.instructionsOf c.plan.callGraph.order = .ok insts ∧ c.plan.lookupTables = [11] ∧
      c.plan.written = [12] ∧ program.Derives insts ∧
      ∃ inst ∈ insts, program.WritesThrough inst 30 ∧ program.LeadsInto insts 11 30 := by
  have computed : Except.passes (Program.ofModule copiedTable) (fun program =>
      runPasses (prepare (Compiler.new program {})) fun _ c =>
        Except.passes (program.instructionsOf c.plan.callGraph.order) fun insts =>
          c.plan.lookupTables = [11] ∧ c.plan.written = [12] ∧
          ((∀ inst ∈ insts, ∀ derived ∈ inst.derivation?,
            derived.1 < program.bound ∧ program.variableAt? derived.1 = none) ∧
          ∀ first ∈ insts, ∀ second ∈ insts, ∀ derived ∈ first.derivation?,
            ∀ again ∈ second.derivation?, again.1 = derived.1 → again.2 = derived.2) ∧
          (∃ inst ∈ insts, inst.op = .copyMemory ∧ inst.word? 0 = some 30) ∧
          (∃ inst ∈ insts, inst.op = .accessChain ∧ inst.word? 1 = some 30 ∧
            inst.word? 2 = some 11) ∧ (program.variableAt? 11).isSome = true) = true := by
    decide +kernel
  obtain ⟨program, loaded, computed⟩ := Except.of_passes computed
  obtain ⟨_, c, prepared, computed⟩ := of_runPasses computed
  obtain ⟨insts, read, computed⟩ := Except.of_passes computed
  obtain ⟨tables, written, ⟨fresh, unique⟩, ⟨copy, copied, op, target⟩,
    ⟨chain, chained, derives, result, origin⟩, declared⟩ := of_decide_eq_true computed
  exact ⟨program, c, insts, loaded, prepared, read, tables, written, ⟨fresh, unique⟩, copy, copied,
    .copy op target, .derived chained (by simp [derives]) result origin (.here declared)⟩

theorem tables_written_by_copies_copiedTable :
    ∃ program c insts, Program.ofModule copiedTable = .ok program ∧
      prepare (Compiler.new program {}) = .ok () c ∧
      program.instructionsOf c.plan.callGraph.order = .ok insts ∧ c.plan.lookupTables = [11] ∧
      c.plan.written = [12] ∧ ∀ inst ∈ insts, ∀ pointer, program.WritesThrough inst pointer →
        program.LeadsInto insts 11 pointer → inst.op = .copyMemory := by
  obtain ⟨program, c, insts, loaded, prepared, read, tables, written, derives, -⟩ :=
    copiedTable_prepared
  refine ⟨program, c, insts, loaded, prepared, read, tables, written, ?_⟩
  exact tables_written_by_copies loaded prepared read derives 11 (by simp [tables])

/-- The table that is copied to stays in constant memory. -/
theorem copied_table_constant : ∃ program c insts, Program.ofModule copiedTable = .ok program ∧
      prepare (Compiler.new program {}) = .ok () c ∧
      program.instructionsOf c.plan.callGraph.order = .ok insts ∧ c.plan.lookupTables = [11] ∧
      ∃ inst ∈ insts, program.WritesThrough inst 30 ∧ program.LeadsInto insts 11 30 := by
  obtain ⟨program, c, insts, loaded, prepared, read, tables, -, -, writes⟩ := copiedTable_prepared
  exact ⟨program, c, insts, loaded, prepared, read, tables, writes⟩

end Emit

end SpirvMetal
