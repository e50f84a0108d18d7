import SpirvMetal.Program.Load
import SpirvMetal.Proofs.Program.Samples
import SpirvMetal.Proofs.Threading.CallGraph

/-!
Builtins of active variables. An instruction makes all variables active that it refers to, but only
the builtins of the first one.
-/

namespace SpirvMetal

open Spirv (StorageClass BuiltIn)

variable {storage : StorageClass} {builtin : BuiltIn}

theorem ActiveBuiltins.isActive_foldl {used : List (StorageClass × BuiltIn)}
    {active : ActiveBuiltins} (staged : storage = .input ∨ storage = .output) :
    (used.foldl (fun active entry => active.add entry.1 entry.2) active).isActive builtin storage =
        true ↔ (storage, builtin) ∈ used ∨ active.isActive builtin storage = true := by
  induction used generalizing active with
  | nil => simp
  | cons entry rest ih =>
    have added : (active.add entry.1 entry.2).isActive builtin storage = true ↔
        active.isActive builtin storage = true ∨ (storage, builtin) = entry := by
      rw [Prod.ext_iff]
      unfold add
      rcases staged with rfl | rfl <;> split <;> simp_all [isActive, mem_addNew] <;> grind
    rw [List.foldl_cons, ih, added, List.mem_cons]
    tauto

namespace Program

variable {program : Program} {inst : Instruction}

/-- An instruction uses the builtin of its first reference, or one of a block there: a chain the one
that it selects, anything else all of them. -/
def UsesBuiltin (program : Program) (inst : Instruction) (storage : StorageClass)
    (builtin : BuiltIn) : Prop :=
  ∃ base rest var, inst.references = base :: rest ∧ program.variableAt? base = some var ∧
    var.builtin = true ∧ var.storage = storage ∧
    (program.builtin? base = some builtin ∨ program.builtin? base = none ∧
      ∃ data block member, program.dataType base = .ok (data, block) ∧
        (if inst.op = .accessChain ∨ inst.op = .inBoundsAccessChain then
          rest.head?.bind program.constantWord? = some member
        else member < block.members.length) ∧
        program.memberBuiltin? block.baseId member = some builtin)

theorem mem_usedBuiltins {used : List (StorageClass × BuiltIn)}
    (found : program.usedBuiltins inst = .ok used) :
    (storage, builtin) ∈ used ↔ program.UsesBuiltin inst storage builtin := by
  unfold usedBuiltins at found
  unfold UsesBuiltin
  cases first : inst.references with
  | nil =>
    rw [first] at found
    cases found
    simp
  | cons base rest =>
    simp only [first] at found
    cases stored : program.variableAt? base with
    | none =>
      simp only [stored] at found
      cases found
      simp [stored]
    | some var =>
      simp only [stored] at found
      split at found
      · cases found
        simp_all
      · cases own : program.builtin? base with
        | some builtin =>
          simp only [own] at found
          cases found
          grind
        | none =>
          simp only [own] at found
          obtain ⟨⟨data, block⟩, typed, found⟩ := Except.bind_ok.mp found
          dsimp only at found
          split at found <;> cases found <;> grind

theorem mem_flatten_usedBuiltins {insts : List Instruction}
    {used : List (List (StorageClass × BuiltIn))}
    (each : List.Forall₂ (fun inst list => program.usedBuiltins inst = .ok list) insts used) :
    (storage, builtin) ∈ used.flatten ↔ ∃ inst ∈ insts, program.UsesBuiltin inst storage builtin := by
  induction each with
  | nil => simp
  | cons here _ ih => simp [mem_usedBuiltins here, ih, -List.mem_flatten]

theorem activeBuiltins_ok {entry : Id} {builtins : ActiveBuiltins}
    (found : program.activeBuiltins entry = .ok builtins) :
    ∃ insts, program.reachedInstructions entry = .ok insts ∧
      ∀ storage builtin, storage = .input ∨ storage = .output →
        (builtins.isActive builtin storage = true ↔
          ∃ inst ∈ insts, program.UsesBuiltin inst storage builtin) := by
  obtain ⟨insts, reached, found⟩ := Except.bind_ok.mp found
  obtain ⟨used, each, found⟩ := Except.bind_ok.mp found
  cases found
  refine ⟨insts, reached, fun storage builtin staged => (ActiveBuiltins.isActive_foldl staged).trans ?_⟩
  have inactive : ({} : ActiveBuiltins).isActive builtin storage = false := by
    rcases staged with rfl | rfl <;> rfl
  rw [inactive, mem_flatten_usedBuiltins (Except.mapM_ok.mp each), Bool.false_eq_true, or_false]

/-- Every builtin of an active variable of a stage is active exactly if each one that an instruction
refers to is used by some instruction through its first reference. Loads, stores, chains and atomic
instructions refer to a variable first. Copies of memory, calls of functions and extended
instructions, such as interpolations, refer to the variable that they read behind another id. -/
theorem active_builtins_agree_iff {entry : Id} {active : List Id} {builtins : ActiveBuiltins}
    (listed : program.activeVariables entry = .ok active)
    (found : program.activeBuiltins entry = .ok builtins) :
    ∃ insts, program.reachedInstructions entry = .ok insts ∧
      ((∀ id ∈ active, ∀ var builtin, program.variableAt? id = some var →
        program.builtin? id = some builtin → var.storage = .input ∨ var.storage = .output →
        builtins.isActive builtin var.storage = true) ↔
      ∀ inst ∈ insts, ∀ id ∈ inst.references, ∀ var builtin, program.variableAt? id = some var →
        program.builtin? id = some builtin → var.storage = .input ∨ var.storage = .output →
        ∃ other ∈ insts, program.UsesBuiltin other var.storage builtin) := by
  obtain ⟨insts, reached, uses⟩ := activeBuiltins_ok found
  obtain ⟨_, again, listed⟩ := Except.bind_ok.mp listed
  cases Except.ok.inj (reached.symm.trans again)
  cases listed
  refine ⟨insts, reached, fun agree inst member id refers var builtin stored decorated staged => ?_,
    fun known id member var builtin stored decorated staged => ?_⟩
  · refine (uses var.storage builtin staged).mp (agree id ?_ var builtin stored decorated staged)
    have isGlobal : program.isGlobalVariable id = true := by
      rcases staged with staged | staged <;> simp [isGlobalVariable, stored, staged]
    simp only [mem_foldl_addNew, List.mem_filter, List.mem_flatMap]
    exact .inl ⟨⟨inst, member, refers⟩, isGlobal⟩
  · simp only [mem_foldl_addNew, List.mem_filter, List.mem_flatMap, List.not_mem_nil,
      or_false] at member
    obtain ⟨⟨inst, reached, refers⟩, -⟩ := member
    exact (uses var.storage builtin staged).mpr
      (known inst reached id refers var builtin stored decorated staged)

/-- A fragment shader with the coordinates of its fragment at 9 and a local at 12. -/
def readsPosition (inst : Spirv.Instruction) : Spirv.Module where
  entryPoints := [.entry .fragment 20 []]
  annotations := [⟨.decorate, none, none, [.idRef 9, .decoration .builtIn, .builtIn .fragCoord]⟩]
  globals := [⟨.typeVoid, none, some 2, []⟩, ⟨.typeFunction, none, some 3, [.idRef 2]⟩,
    ⟨.typeFloat, none, some 4, [.literal 32]⟩, ⟨.typeVector, none, some 5, [.idRef 4, .literal 4]⟩,
    .pointer 6 .input 5, .pointer 7 .function 5, .variable 9 6 .input]
  functions := [.ofBody 2 20 3 21 [.variable 12 7 .function, inst]]

theorem of_analysis {m : Spirv.Module} {facts : Program → List Id → ActiveBuiltins → Prop}
    [∀ program active builtins, Decidable (facts program active builtins)]
    (passes : Except.passes (do
      let program ← ofModule m
      return (program, ← program.activeVariables 20, ← program.activeBuiltins 20))
      (fun found => facts found.1 found.2.1 found.2.2) = true) :
    ∃ program active builtins, ofModule m = .ok program ∧
      program.activeVariables 20 = .ok active ∧ program.activeBuiltins 20 = .ok builtins ∧
      facts program active builtins := by
  obtain ⟨_, done, checked⟩ := Except.of_passes passes
  simp only [Except.bind_ok] at done
  obtain ⟨program, loaded, active, listed, builtins, found, done⟩ := done
  cases done
  exact ⟨program, active, builtins, loaded, listed, found, of_decide_eq_true checked⟩

theorem active_builtins_agree_iff_load : ∃ program active builtins,
    ofModule (readsPosition ⟨.load, some 5, some 13, [.idRef 9]⟩) = .ok program ∧
      program.activeVariables 20 = .ok active ∧ program.activeBuiltins 20 = .ok builtins ∧
      active = [9] ∧ ∃ insts, program.reachedInstructions 20 = .ok insts ∧
        ∃ inst ∈ insts, program.UsesBuiltin inst .input .fragCoord := by
  obtain ⟨program, _, builtins, loaded, listed, found, rfl, decorated, stored, isActive, run⟩ :
      ∃ program active builtins,
        ofModule (readsPosition ⟨.load, some 5, some 13, [.idRef 9]⟩) = .ok program ∧
        program.activeVariables 20 = .ok active ∧ program.activeBuiltins 20 = .ok builtins ∧
        active = [9] ∧ program.builtin? 9 = some .fragCoord ∧
        program.variableAt? 9 = some { type := 6, storage := .input, builtin := true } ∧
        builtins.isActive .fragCoord .input = true ∧
        Except.passes (program.reachedInstructions 20) (·.any (9 ∈ ·.references)) :=
    of_analysis (by decide +kernel)
  obtain ⟨insts, reached, agree⟩ := active_builtins_agree_iff listed found
  obtain ⟨_, again, refers⟩ := Except.of_passes run
  cases reached.symm.trans again
  obtain ⟨inst, listed', refers⟩ := List.any_eq_true.mp refers
  refine ⟨program, [9], builtins, loaded, listed, found, rfl, insts, reached, ?_⟩
  refine agree.mp (fun id member var builtin stored' decorated' _ => ?_) inst listed' 9
    (of_decide_eq_true refers) _ _ stored decorated (.inl rfl)
  cases List.mem_singleton.mp member
  cases stored.symm.trans stored'
  cases decorated.symm.trans decorated'
  exact isActive

/-- A copy refers to the coordinates second, so they are active without their builtin. -/
theorem copied_builtin_inactive : ∃ program active builtins,
    ofModule (readsPosition ⟨.copyMemory, none, none, [.idRef 12, .idRef 9]⟩) = .ok program ∧
      program.activeVariables 20 = .ok active ∧ program.activeBuiltins 20 = .ok builtins ∧
      9 ∈ active ∧ (program.variableAt? 9).map (·.storage) = some .input ∧
      program.builtin? 9 = some .fragCoord ∧ builtins.isActive .fragCoord .input = false :=
  of_analysis (by decide +kernel)

end Program

end SpirvMetal
