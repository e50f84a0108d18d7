import SpirvMetal.Proofs.Prepare.Changes

/-!
The steps of the preparation make changes that are listed, whether they succeed or fail.
-/

set_option synthInstance.maxSize 8192

namespace SpirvMetal

open Spirv (BuiltIn StorageClass)
open Compiler (Change Prepares Scope)

namespace Emit

variable {α : Type} {scope : Scope} {relation : Compiler → Compiler → Prop} {c : Compiler}

namespace Always

variable {β : Type} {list : List α} {step : Emit α}

/-- A loop where each round may rely on what holds before the first one and is not lost. -/
theorem forIn_while [Std.Refl relation] [IsTrans Compiler relation]
    {step : α → β → Emit (ForInStep β)} {holds : Compiler → Prop}
    (lasts : ∀ c c', relation c c' → holds c → holds c')
    (each : ∀ a ∈ list, ∀ b c, holds c → relation c (leaves (step a b) c)) {start : β}
    (begun : holds c) : relation c (leaves (ForIn.forIn list start step) c) := by
  induction list generalizing c start with
  | nil => exact Std.Refl.refl c
  | cons a rest ih =>
    have first := each a List.mem_cons_self start c begun
    rw [List.forIn_cons]
    refine thenFrom first fun next middle run => ?_
    rw [leaves_ok run] at first
    cases next with
    | done _ => exact Std.Refl.refl middle
    | yield b =>
      exact ih (fun other member => each other (List.mem_cons_of_mem a member))
        (lasts _ _ first begun)

theorem updateProgram [Std.Refl relation] {update : Program → Except Fault Program}
    (related : ∀ c program, update c.program = .ok program → relation c { c with program }) :
    Always relation (updateProgram update) := by
  refine .look fun c => ?_
  rw [leaves_lift]
  split
  · exact related c _ ‹_›
  · exact Std.Refl.refl c

theorem forM_of_mem [Std.Refl relation] [IsTrans Compiler relation] {step : α → Emit Unit}
    (each : ∀ a ∈ list, Always relation (step a)) : Always relation (list.forM step) := by
  induction list with
  | nil => exact Always.pure PUnit.unit
  | cons a rest ih =>
    exact andThen (each a List.mem_cons_self) fun _ =>
      ih fun other member => each other (List.mem_cons_of_mem a member)

theorem mono {weaker : Compiler → Compiler → Prop} (always : Always relation step)
    (weaken : ∀ c c', relation c c' → weaker c c') : Always weaker step :=
  ⟨fun c => weaken _ _ (always.always c)⟩

end Always

theorem forM_modify (list : List α) (change : α → Compiler → Compiler) :
    list.forM (fun a => modify (change a) : α → Emit Unit) =
      modify fun c => list.foldl (fun c a => change a c) c := by
  funext c
  induction list generalizing c with
  | nil => rfl
  | cons a rest ih => exact ih (change a c)

namespace Preparing

open Always (andThen onward)

variable {type : ValueType} {storage : StorageClass} {c' : Compiler}

theorem modifyPlan {change : Plan → Plan} (fixed : ∀ plan, (change plan).fixed = plan.fixed)
    (usesSwizzle : ∀ plan, (change plan).usesSwizzle = plan.usesSwizzle) :
    Always (Prepares scope) (modifyPlan change) :=
  .modify fun c => (Change.plan (fixed _) fun uses => .inl (usesSwizzle c.plan ▸ uses)).prepares

theorem modifyEntry {change : Function → Function}
    (continues : ∀ function : Function, function.Continues (change function))
    (outline : ∀ function, (change function).outline = function.outline) :
    Always (Prepares scope) (modifyEntry change) :=
  onward fun _ => .updateProgram fun _ _ changed =>
    (Change.modifies continues changed (.inr outline)).prepares

instance addLocal (id : Id) : Always (Prepares scope) (Emit.modifyEntry (·.addLocal id)) :=
  modifyEntry (fun f => .addLocal f id) fun f => f.outline_addLocal id

theorem addFixups (fixups : List Fixup) :
    Always (Prepares scope) (Emit.modifyEntry fun f => { f with fixupsIn := f.fixupsIn ++ fixups }) :=
  modifyEntry (fun _ => ⟨rfl, List.prefix_refl _, List.prefix_refl _⟩) fun _ => rfl

/-- Changes of the plan beside its fixed part. Swizzles are used only where samples are taken. -/
def Notes (sampled : Prop) (before after : Compiler) : Prop :=
  ∃ plan : Plan, plan.fixed = before.plan.fixed ∧
    (plan.usesSwizzle = true → before.plan.usesSwizzle = true ∨ sampled) ∧
    after = { before with plan }

variable {sampled : Prop}

instance : Std.Refl (Notes sampled) := ⟨fun c => ⟨c.plan, rfl, .inl, rfl⟩⟩

instance : IsTrans Compiler (Notes sampled) where
  trans := by
    rintro _ _ _ ⟨_, fixed, uses, rfl⟩ ⟨plan, fixed', uses', rfl⟩
    exact ⟨plan, fixed'.trans fixed, fun used => (uses' used).elim uses .inr, rfl⟩

theorem noteSampling (sources : IdMap Id) {inst : Instruction}
    (sampling : inst.op.isSample = true → sampled) :
    Always (Notes sampled) (noteSampling sources inst) := by
  have compares (var : Id) : Always (Notes sampled) (Emit.modifyPlan fun plan =>
      { plan with comparisonImages := addNew plan.comparisonImages var }) :=
    .modify fun c => ⟨{ c.plan with comparisonImages := addNew c.plan.comparisonImages var }, rfl,
      .inl, rfl⟩
  unfold Emit.noteSampling
  split
  · rename_i samples
    have swizzles : Always (Notes sampled) (Emit.modifyPlan ({ · with usesSwizzle := true })) :=
      .modify fun c => ⟨{ c.plan with usesSwizzle := true }, rfl, fun _ => .inr (sampling samples), rfl⟩
    repeat' first | infer_instance | refine andThen ?_ fun _ => ?_ | split
  · infer_instance

/-- Swizzles are noted only where textures are swizzled and samples are taken. -/
instance noteAllSampling : Always (Prepares scope) noteAllSampling := by
  simp only [Emit.noteAllSampling, forIn_eq_forM, bind_pure_unit]
  refine .look fun c => ?_
  split
  · rename_i asked
    rw [leaves_lift]
    split
    · rw [leaves_lift]
      split
      · rename_i sources _ _ found read
        have noted : Always (Notes (c.program.Samples c.plan.callGraph.order))
            (found.forM (Emit.noteSampling sources)) :=
          .forM_of_mem fun inst member => noteSampling sources (.of_instructionsOf read member)
        obtain ⟨plan, fixed, uses, same⟩ := noted.always c
        rw [same]
        exact (Change.plan fixed fun used => (uses used).imp_right fun found => ⟨asked, found⟩).prepares
      · exact Std.Refl.refl c
    · exact Std.Refl.refl c
  · exact Std.Refl.refl c

instance noteWritten : Always (Prepares scope) noteWritten := by
  have noted (written : List Id) : Always (Prepares scope) (Emit.modifyPlan fun plan =>
      { plan with written := written.foldl addNew plan.written }) :=
    .modify fun _ => (Change.writes fun _ noted => mem_foldl_addNew.mpr (.inr noted)).prepares
  simp only [Emit.noteWritten]
  infer_instance

instance closeStorageImages : Always (Prepares scope) closeStorageImages := by
  have closed (var : Id) : Always (Prepares scope) (updateProgram (·.closeStorageImage var)) :=
    .updateProgram fun _ _ closing => (Change.closes closing).prepares
  simp only [Emit.closeStorageImages]
  infer_instance

theorem foldl_listInputs (inputs : List (Id × BuiltIn)) (c : Compiler) : inputs.foldl
      (fun c (id, builtin) =>
        { c with plan :=
          if c.plan.builtinInputs.contains builtin then c.plan
          else { c.plan with builtinInputs := c.plan.builtinInputs.insert builtin id } }) c =
      { c with plan := { c.plan with
        builtinInputs := inputs.foldl
          (fun listed (id, builtin) =>
            if listed.contains builtin then listed else listed.insert builtin id)
          c.plan.builtinInputs } } := by
  induction inputs generalizing c with
  | nil => rfl
  | cons input rest ih =>
    obtain ⟨id, builtin⟩ := input
    rw [List.foldl_cons, ih]
    by_cases listed : c.plan.builtinInputs.contains builtin = true
    · simp [listed]
    · simp [listed]

theorem foldl_nameInputs (inputs : List (Id × BuiltIn)) (c : Compiler) : inputs.foldl
      (fun c (id, builtin) => { c with program := c.program.setName id (Builtin.name builtin) }) c =
      { c with program := (inputs.foldl
        (fun named (id, builtin) => named.setName id (Builtin.name builtin)) c.program) } := by
  induction inputs generalizing c with
  | nil => rfl
  | cons input rest ih => exact ih _

theorem ensureBuiltin (builtin : BuiltIn)
    (wanted : type = .scalar .uint 32 ∨ type = .vector .float 32 4) :
    Always (Prepares scope) (ensureBuiltin builtin type) := by
  refine .look fun c => ?_
  cases found : c.plan.builtinInputs.find? builtin with
  | some existing => exact (Change.activates found).prepares
  | none =>
    have declared : Prepares scope c _ := (Change.declares builtin wanted).prepares
    refine declared.tail (Change.activates ?_)
    exact (Assoc.find?_insert _ builtin builtin _).trans (if_pos rfl)

theorem wantedBuiltins_type {wanted : List (BuiltIn × ValueType)}
    (found : c.wantedBuiltins = .ok wanted) {builtin : BuiltIn}
    (listed : (builtin, type) ∈ wanted) :
    type = .scalar .uint 32 ∨ type = .vector .float 32 4 := by
  obtain ⟨subpass, rfl⟩ : ∃ subpass : Bool, wanted =
      (if subpass then [(.fragCoord, .vector .float 32 4)] else []) ++
        (if .samplePosition ∈ c.plan.activeBuiltins.inputs then [(.sampleId, .scalar .uint 32)]
          else []) ++
        if c.capturesOutput then
          [.vertexIndex, .baseVertex, .instanceIndex, .baseInstance].map (·, .scalar .uint 32)
        else [] := by
    unfold Compiler.wantedBuiltins at found
    by_cases fragment : c.plan.model = .fragment
    · simp only [fragment, if_true] at found
      obtain ⟨subpass, _, found⟩ := Except.bind_ok.mp found
      exact ⟨subpass, (Except.ok.inj found).symm⟩
    · simp only [fragment, if_false] at found
      exact ⟨false, (Except.ok.inj found).symm⟩
  simp only [List.mem_append] at listed
  rcases listed with (listed | listed) | listed
  · split at listed
    · simp only [List.mem_singleton, Prod.mk.injEq] at listed
      exact .inr listed.2
    · cases listed
  · split at listed
    · simp only [List.mem_singleton, Prod.mk.injEq] at listed
      exact .inl listed.2
    · cases listed
  · split at listed
    · obtain ⟨_, _, same⟩ := List.mem_map.mp listed
      exact .inl (Prod.mk.inj same).2.symm
    · cases listed

instance implicitInputs : Always (Prepares scope) implicitInputs := by
  have names : Always (Prepares scope) (get >>= fun c =>
      c.program.builtinInputs.forM fun input =>
        Emit.modifyProgram (·.setName input.1 (Builtin.name input.2))) := by
    refine .look fun c => ?_
    have named : leaves (c.program.builtinInputs.forM fun input =>
        Emit.modifyProgram (·.setName input.1 (Builtin.name input.2))) c =
          { c with program := c.program.nameInputs } := by
      unfold Emit.modifyProgram
      rw [forM_modify]
      exact foldl_nameInputs c.program.builtinInputs c
    rw [named]
    exact Change.namesInputs.prepares
  simp only [Emit.implicitInputs, forIn_eq_forM]
  refine .look fun c => ?_
  rw [leaves_lift]
  split
  · rename_i wanted found
    have listed : leaves (c.program.builtinInputs.forM fun input => Emit.modifyPlan fun plan =>
        if plan.builtinInputs.contains input.2 then plan
        else { plan with builtinInputs := plan.builtinInputs.insert input.2 input.1 }) c =
          { c with plan := { c.plan with
            builtinInputs := c.program.listInputs c.plan.builtinInputs } } := by
      unfold Emit.modifyPlan
      rw [forM_modify]
      exact foldl_listInputs c.program.builtinInputs c
    refine Always.thenFrom (listed ▸ Change.lists.prepares) fun _ c _ => ?_
    suffices rest : Always (Prepares scope) _ from rest.always c
    refine andThen (.forM_of_mem fun _ listed =>
      ensureBuiltin _ (wantedBuiltins_type found listed)) fun _ => ?_
    rw [← bind_assoc]
    refine andThen names fun _ => .look fun c => ?_
    split
    · rename_i swizzles
      exact (Change.addsAux swizzles).prepares
    · exact Std.Refl.refl c
  · exact Std.Refl.refl c

abbrev AnyType (threads lays : Prop) : Scope := ⟨True, threads, lays⟩

variable {threads lays : Prop}

instance : AllowsPlanning (Prepares (AnyType threads lays)) where
  addsType := (Change.addsType trivial).prepares
  attributes := Change.attributes.prepares
  converts {_ _} := by
    apply Change.prepares
    exact .plan rfl .inl
  positions {_ _} := by
    apply Change.prepares
    exact .plan rfl .inl

instance bindMember (storage : StorageClass) (block index : Nat) (qualified : String) :
    (binding : MemberBinding) →
      Always (Prepares scope) (bindMember storage block index qualified binding)
  | .alias var => by
    have named : Always (Prepares scope) (modifyProgram (·.setStandIn var qualified)) :=
      .modify fun _ => Change.aliases.prepares
    have initialized : Always (Prepares scope) (Emit.modifyEntry fun f =>
        { f with fixupsIn := f.fixupsIn ++ [.initializeOutput var] }) := addFixups _
    simp only [Emit.bindMember]
    infer_instance
  | .padded var components => modifyEntry
      (fun f => (Function.Continues.addLocal f var).trans
        ⟨rfl, List.prefix_refl _, List.prefix_refl _⟩) fun f => f.outline_addLocal var
  | .blockBuiltin struct member => by
    have positioned : Always (Prepares scope) (Emit.modifyPlan ({ · with position := qualified })) :=
      modifyPlan (fun _ => rfl) fun _ => rfl
    have named :
        Always (Prepares scope) (modifyProgram (·.setMemberStandIn struct member qualified)) :=
      .modify fun _ => Change.aliasesMember.prepares
    simp only [Emit.bindMember]
    infer_instance
  | .copy var member element components => by
    refine modifyEntry (fun f => (Function.Continues.addLocal f var).trans ?_) fun f => ?_
    · dsimp only
      split <;> exact ⟨rfl, List.prefix_refl _, List.prefix_refl _⟩
    · dsimp only
      split <;> exact f.outline_addLocal var

def binding (captures : Bool) (storage : StorageClass) (struct : Nat)
    (members : List PlannedMember) : Emit Id := do
  if storage = .output then
    if captures then
      Emit.modifyEntry fun f => { f with fixupsIn := f.fixupsIn ++ [.bindCapturedOutput (struct + 2)] }
    else Emit.modifyEntry (·.addLocal (struct + 2))
  for (member, index) in members.zipIdx do
    modifyProgram (·.modifyMember struct index fun _ => member.decorations)
    Emit.bindMember storage (struct + 2) index
      s!"{interfaceName storage}.{member.decorations.name}" member.binding
  return struct + 2

theorem leaves_buildStruct (storage : StorageClass) (members : List PlannedMember) (c : Compiler) :
    leaves (buildStruct storage members) c =
      leaves (binding c.capturesOutput storage c.program.bound members)
        (c.building storage (members.map (·.type))) := rfl

theorem binding_prepares {captures : Bool} {struct : Nat} {members : List PlannedMember}
    (announced : struct ∈ c.plan.interfaceStructs)
    (unpacked : ∀ member ∈ members, member.decorations.packed = false) :
    Prepares scope c (leaves (binding captures storage struct members) c) := by
  have captured (var : Id) : Always (Prepares scope) (Emit.modifyEntry fun f =>
      { f with fixupsIn := f.fixupsIn ++ [.bindCapturedOutput var] }) := addFixups _
  have bound (c : Compiler) (announced : struct ∈ c.plan.interfaceStructs) :
      Prepares scope c (leaves (do
        for (member, index) in members.zipIdx do
          modifyProgram (·.modifyMember struct index fun _ => member.decorations)
          Emit.bindMember storage (struct + 2) index
            s!"{interfaceName storage}.{member.decorations.name}" member.binding
        return struct + 2) c) := by
    refine Always.thenFrom (Always.forIn_while (fun _ _ prepares => prepares.interfaceStructs)
      (fun (member, index) listed _ c announced => ?_) announced) fun _ c _ => Always.always c
    have loose := unpacked member (List.fst_mem_of_mem_zipIdx listed)
    exact Always.thenFrom (Change.decorates announced loose).prepares fun _ c _ => Always.always c
  unfold binding
  have rest := bound c announced
  have moving {step : Emit Unit} (first : Always (Prepares scope) step) :=
    Always.thenFrom (first.always c) fun _ c' done =>
      bound c' (Prepares.interfaceStructs (first.keeps done) announced)
  split
  · split
    · exact moving inferInstance
    · exact moving inferInstance
  · exact rest

def planning (storage : StorageClass) : Emit (List (List PlannedMember)) := do
  (← (← get).stageVariables storage).mapM (Emit.planVariable storage)

theorem planning_unpacked {planned : List (List PlannedMember)}
    (done : planning storage c = .ok planned c') :
    ∀ member ∈ sortBy PlannedMember.before planned.flatten, member.decorations.packed = false := by
  intro member listed
  obtain ⟨vars, _, done⟩ := read_bind.mp done
  obtain ⟨part, listed, inside⟩ := List.mem_flatten.mp (mem_sortBy.mp listed)
  have each : List.Forall₂ (fun var part => ∃ middle, Compiler.Plans _ middle ∧
      middle.Plans c' ∧ IsPlanFor middle.program var part) vars planned :=
    mapM_ok_of_always (fun var _ {_ _ _} => planVariable_ok) done
  obtain ⟨var, _, middle, _, _, known⟩ := exists_of_forall₂ each listed
  obtain ⟨name, bare⟩ := (known.each member inside).bare
  exact bare.packed

theorem interface_eq (storage : StorageClass) : interface storage = (do
      let planned := (← planning storage).flatten
      if planned.isEmpty then return none
      return some (← Emit.buildStruct storage (sortBy PlannedMember.before planned))) := by
  simp only [interface, planning, bind_assoc]

theorem interfaceAny (storage : StorageClass) (stage : storage = .input ∨ storage = .output) :
    Always (Prepares (AnyType threads lays)) (interface storage) where
  always c := by
    have plans : Always (Prepares (AnyType threads lays)) (planning storage) := by
      unfold planning
      infer_instance
    rw [interface_eq]
    refine Always.thenFrom (plans.always c) fun planned c' done => ?_
    dsimp only
    split
    · exact Std.Refl.refl c'
    · refine Always.thenFrom ?_ fun _ c _ => Always.always c
      rw [leaves_buildStruct]
      have built (types : List Id) :
          Prepares (AnyType threads lays) c' (c'.building storage types) :=
        (Change.builds stage trivial).prepares
      exact (built _).trans (binding_prepares (mem_addNew.mpr (.inr rfl)) (planning_unpacked done))

instance localizeGlobals : Always (Prepares (AnyType threads lays)) localizeGlobals := by
  have noted (id : Id) : Always (Prepares (AnyType threads lays)) (Emit.modifyPlan fun plan =>
      { plan with localized := plan.localized ++ [id] }) := modifyPlan (fun _ => rfl) fun _ => rfl
  simp only [Emit.localizeGlobals]
  refine onward fun c => ?_
  have round (entry : Id × Variable) : Always (Prepares (AnyType threads lays)) (do
      if ← (← get).isLookupTable entry.1 then
        Emit.modifyPlan fun plan => { plan with lookupTables := addNew plan.lookupTables entry.1 }
        pure (ForInStep.yield PUnit.unit)
      else
        Emit.modifyEntry (·.addLocal entry.1)
        Emit.modifyPlan fun plan => { plan with localized := plan.localized ++ [entry.1] }
        pure (ForInStep.yield PUnit.unit)) := by
    refine .look fun c => ?_
    rw [leaves_lift]
    split
    · rename_i isTable found
      split
      · refine (Change.tabulates (fun written => ?_) trivial).prepares
        obtain ⟨var, _, found⟩ := Except.bind_ok.mp found
        simp_all [pure, Except.pure]
      · exact Always.always c
    · exact Std.Refl.refl c
  infer_instance

def reaching : Emit (EntryPoint × Program) := do
  let point ← (← get).program.entryPoint
  Emit.modifyPlan ({ · with entry := point.id, model := point.model })
  updateProgram (·.legalizeNames point.id)
  let program := (← get).program
  let callGraph ← program.callGraph point.id
  Emit.modifyPlan ({ · with callGraph })
  let activeVariables ← program.activeVariables point.id
  Emit.modifyPlan ({ · with activeVariables })
  return (point, program)

def arranging (point : EntryPoint) (program : Program) : Emit Unit := do
  let activeBuiltins ← program.activeBuiltins point.id
  Emit.modifyPlan ({ · with activeBuiltins })
  let c ← get
  Emit.modifyPlan
    ({ · with rasterizationDisabled := c.options.disableRasterization || c.capturesOutput })
  Emit.noteAllSampling
  Emit.implicitInputs
  Emit.closeStorageImages
  Emit.noteWritten
  Emit.modifyPlan ({ · with position := "" })
  let stageOut ← interface .output
  Emit.modifyPlan ({ · with stageOut })
  let stageIn ← interface .input
  Emit.modifyPlan ({ · with stageIn })
  if point.model = .vertex && stageOut.isNone then
    Emit.modifyPlan ({ · with rasterizationDisabled := true })
  Emit.localizeGlobals

theorem survey_eq : survey = (do
    let (point, program) ← reaching
    arranging point program) := by
  simp only [survey, reaching, arranging, bind_assoc, pure_bind]

theorem reaching_always [Std.Refl relation] [IsTrans Compiler relation]
    (names : ∀ (c : Compiler) entry program, c.program.legalizeNames entry = .ok program →
      relation c { c with program })
    (plans : ∀ (c : Compiler) (plan : Plan), plan.interfaceStructs = c.plan.interfaceStructs →
      relation c { c with plan }) : Always relation reaching := by
  have named (entry : Id) : Always relation (updateProgram (·.legalizeNames entry)) :=
    .updateProgram fun c program named => names c entry program named
  have placed (point : EntryPoint) :
      Always relation (Emit.modifyPlan ({ · with entry := point.id, model := point.model })) :=
    .modify fun c => plans c _ rfl
  have called (callGraph : CallGraph) :
      Always relation (Emit.modifyPlan ({ · with callGraph })) := .modify fun c => plans c _ rfl
  have charted (activeVariables : List Id) :
      Always relation (Emit.modifyPlan ({ · with activeVariables })) := .modify fun c => plans c _ rfl
  simp only [reaching]
  infer_instance

theorem reaching_ok {point : EntryPoint} {program : Program}
    (done : reaching c = .ok (point, program) c') :
    ∃ graph activeVariables, c.program.entryPoint = .ok point ∧
      c.program.legalizeNames point.id = .ok program ∧ program.callGraph point.id = .ok graph ∧
      program.activeVariables point.id = .ok activeVariables ∧
      c' = c.entered point program graph activeVariables := by
  obtain ⟨entry, entered, done⟩ := read_bind.mp done
  replace done := modify_bind.mp done
  obtain ⟨_, _, updated, done⟩ := bind_ok.mp done
  obtain ⟨named, naming, rfl⟩ := updateProgram_ok.mp updated
  obtain ⟨graph, called, done⟩ := read_bind.mp done
  replace done := modify_bind.mp done
  obtain ⟨active, reached, done⟩ := lift_bind.mp done
  replace done := modify_bind.mp done
  obtain ⟨same, rfl⟩ := pure_ok.mp done
  cases same
  exact ⟨graph, active, entered, naming, called, reached, rfl⟩

instance arranges (point : EntryPoint) (program : Program) :
    Always (Prepares (AnyType threads lays)) (arranging point program) := by
  have stageOut : Always (Prepares (AnyType threads lays)) (interface .output) :=
    interfaceAny .output (.inr rfl)
  have stageIn : Always (Prepares (AnyType threads lays)) (interface .input) :=
    interfaceAny .input (.inl rfl)
  unfold arranging
  repeat' first
    | infer_instance
    | exact modifyPlan (fun _ => rfl) fun _ => rfl
    | refine andThen ?_ fun _ => ?_
    | split

section

variable {plans : Prop}

theorem addParameter (function : Id) (parameter : Parameter) : Always (Prepares ⟨plans, True, lays⟩)
      (updateProgram (·.modifyFunction function (·.addParameter parameter))) :=
  .updateProgram fun _ _ changed =>
    (Change.modifies (fun f => .addParameter f parameter) changed (.inl trivial)).prepares

instance threadBuiltin (function : Id) (var : Variable) (block index type : Nat) :
    Always (Prepares ⟨plans, True, lays⟩) (threadBuiltin function var block index type) := by
  refine .look fun c => ?_
  split
  · exact Std.Refl.refl c
  · rename_i builtin _
    split
    · let reserved : Compiler := { c with program := (c.program.reserve 2).2 }
      change Prepares ⟨plans, True, lays⟩ c (leaves (do
        let pointee ← (reserved.program.getType type : Except Fault ValueType)
        modifyProgram (·.set c.program.bound (.type (pointee.pointerTo type var.storage)))
        modifyProgram (·.set (c.program.bound + 1)
          (.variable { type := c.program.bound, storage := .function, builtin := true }))
        modifyProgram (·.modifyOwn (c.program.bound + 1) fun _ =>
          { c.program.memberDecorations block index with
            name := Builtin.name builtin, standIn := none })
        updateProgram (·.modifyFunction function (·.addParameter
          { id := c.program.bound + 1, type := c.program.bound, threaded := true }))) reserved)
      rw [leaves_lift]
      split
      · rename_i pointee typed
        have stored : c.program.typeAt? type = some pointee := Program.getType_ok.mp typed
        have referred : Prepares ⟨plans, True, lays⟩ c _ :=
          (Change.refers var.storage
            { c.program.memberDecorations block index with
              name := Builtin.name builtin, standIn := none } stored trivial).prepares
        exact referred.trans ((addParameter function _).always _)
      · exact Change.reserves.prepares
    · exact Std.Refl.refl c

instance threadGlobal (function global : Id) :
    Always (Prepares ⟨plans, True, lays⟩) (threadGlobal function global) := by
  refine .look fun c => ?_
  rw [leaves_lift]
  split
  · rename_i var found
    rw [leaves_lift]
    cases c.program.dataType global with
    | error => exact Std.Refl.refl c
    | ok data =>
      dsimp only
      split
      · exact Always.always c
      · have stored : Prepares ⟨plans, True, lays⟩ c _ :=
          (Change.standsIn (Program.getVariable_ok.mp found) trivial).prepares
        exact stored.trans ((addParameter function
          { id := c.program.bound, type := var.type, threaded := true }).always _)
  · exact Std.Refl.refl c

instance threadGlobals : Always (Prepares ⟨plans, True, lays⟩) threadGlobals := by
  simp only [Emit.threadGlobals]
  infer_instance

instance markStructs (fuel : Nat) (pending : List Id) :
    Always (Prepares ⟨plans, threads, True⟩) (markStructs fuel pending) := by
  have marked (struct : Id) : Always (Prepares ⟨plans, threads, True⟩) (Emit.modifyPlan fun plan =>
      { plan with packableStructs := Compiler.insertId plan.packableStructs struct }) :=
    .modify fun _ => (Change.picks trivial).prepares
  induction fuel generalizing pending with
  | zero => exact Always.fail .aborted
  | succ fuel ih =>
    cases pending with
    | nil => exact Always.pure ()
    | cons id pending =>
      simp only [Emit.markStructs]
      infer_instance

theorem packMembers (struct : Id) (order : List Nat) (c : Compiler) :
    Prepares ⟨plans, threads, True⟩ c
      { c with program := Layout.left (Layout.packMembers struct order c.program) } :=
  Layout.packMembers_relates
    (fun p q => Prepares ⟨plans, threads, True⟩ { c with program := p } { c with program := q })
    (fun _ => Std.Refl.refl _) .trans order c.program fun _ _ _ =>
      (Change.lays ({ · with packed := true }) (fun _ => rfl) trivial).prepares

theorem padMembers (struct : Id) (order : List Nat) (current : Nat) (c : Compiler) :
    Prepares ⟨plans, threads, True⟩ c
      { c with program := Layout.left (Layout.padMembers struct order current c.program) } :=
  Layout.padMembers_relates
    (fun p q => Prepares ⟨plans, threads, True⟩ { c with program := p } { c with program := q })
    (fun _ => Std.Refl.refl _) .trans order current c.program fun _ _ _ padding =>
      (Change.lays ({ · with padding }) (fun _ => rfl) trivial).prepares

instance alignStruct (struct : Id) :
    Always (Prepares ⟨plans, threads, True⟩) (edit (Layout.alignStruct struct)) where
  always c := by
    have whole : leaves (edit (Layout.alignStruct struct)) c =
        { c with program := Layout.left (Layout.alignStruct struct c.program) } := by
      unfold leaves edit Layout.left
      cases Layout.alignStruct struct c.program <;> rfl
    rw [whole]
    cases sorted : Layout.membersByOffset c.program struct with
    | error =>
      simp only [Layout.left, Layout.alignStruct, bind, EStateM.bind, get, getThe, MonadStateOf.get,
        run_get, sorted, ofExcept, throw, throwThe, MonadExceptOf.throw, run_throw]
      exact Std.Refl.refl c
    | ok order =>
      have packs : Prepares ⟨plans, threads, True⟩ c _ := packMembers struct order c
      simp only [Layout.left, Layout.alignStruct, bind, EStateM.bind, get, getThe, MonadStateOf.get,
        run_get, sorted, ofExcept, pure, EStateM.pure]
      cases run : Layout.packMembers struct order c.program with
      | error => simpa only [Layout.left, run] using packs
      | ok _ program =>
        have pads : Prepares ⟨plans, threads, True⟩ { c with program } _ := padMembers struct order 0 _
        simp only [Layout.left, run] at packs
        exact packs.trans pads

instance layoutStructs : Always (Prepares ⟨plans, threads, True⟩) layoutStructs := by
  simp only [Emit.layoutStructs]
  infer_instance

end

instance entryFixups : Always (Prepares scope) entryFixups := by
  have appended (fixups : List Fixup) : Always (Prepares scope)
      (Emit.modifyEntry fun f => { f with fixupsIn := f.fixupsIn ++ fixups }) := addFixups fixups
  simp only [Emit.entryFixups]
  infer_instance

end Preparing

open Preparing (AnyType)

variable {c' : Compiler} {u : Unit}

theorem survey_changes (done : survey c = .ok u c') (threads lays : Prop) :
    ∃ point program graph activeVariables, c.program.entryPoint = .ok point ∧
      c.program.legalizeNames point.id = .ok program ∧ program.callGraph point.id = .ok graph ∧
      program.activeVariables point.id = .ok activeVariables ∧
      Prepares (AnyType threads lays) (c.entered point program graph activeVariables) c' := by
  rw [Preparing.survey_eq] at done
  obtain ⟨⟨point, program⟩, reached, reaching, done⟩ := bind_ok.mp done
  obtain ⟨graph, activeVariables, entered, naming, called, active, rfl⟩ :=
    Preparing.reaching_ok reaching
  exact ⟨point, program, graph, activeVariables, entered, naming, called, active, Keeps.keeps done⟩

theorem prepare_changes (done : prepare c = .ok u c') :
    ∃ point program graph activeVariables, c.program.entryPoint = .ok point ∧
      c.program.legalizeNames point.id = .ok program ∧ program.callGraph point.id = .ok graph ∧
      program.activeVariables point.id = .ok activeVariables ∧
      Prepares (AnyType True True) (c.entered point program graph activeVariables) c' := by
  obtain ⟨_, surveyed, surveying, done⟩ := bind_ok.mp done
  obtain ⟨point, program, graph, activeVariables, entered, naming, called, active, prepares⟩ :=
    survey_changes surveying True True
  have rest : Prepares (AnyType True True) surveyed c' := Keeps.keeps done
  exact ⟨point, program, graph, activeVariables, entered, naming, called, active,
    prepares.trans rest⟩

theorem prepare_options (done : prepare c = .ok u c') :
    { c'.options with vertexAttributes := [] } = { c.options with vertexAttributes := [] } := by
  obtain ⟨_, _, _, _, _, _, _, _, prepares⟩ := prepare_changes done
  exact prepares.options

end Emit

end SpirvMetal
