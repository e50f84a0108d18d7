import SpirvMetal.Proofs.Passes.Discovered
import SpirvMetal.Proofs.Slots.Buffers

/-!
The buffers that are in use.
-/

namespace SpirvMetal

open Program Option
open Spirv (BuiltIn)

/-- Records that are neither buffers nor anything but types and variables. -/
def Record.Unbuffered : Record → Prop
  | .type _ => True
  | .variable var => var.storage.isBuffer = false
  | _ => False

namespace Program

variable {program origin : Program}

/-- The global variables that the entry point refers to, itself or through what it calls. -/
def usedVariables (program : Program) : List Id :=
  (do program.activeVariables (← program.entryPoint).id : Except Fault (List Id)).toOption.getD []

def usedBlocks (program : Program) : List Id :=
  (program.vars.filter fun (id, var) =>
    var.storage.isBuffer && id ∈ program.usedVariables && (program.blocks? id).isSome).map (·.1)

theorem activeVariables_eq {after : Program} (same : after.records = program.records) (entry : Id) :
    after.activeVariables entry = program.activeVariables entry := by
  have global : after.isGlobalVariable = program.isGlobalVariable := by
    funext id
    simp only [isGlobalVariable, variableAt?, record?, same]
  have functions : after.getFunction = program.getFunction := by
    funext id
    simp only [getFunction, expect, record?, same]
  simp only [activeVariables, reachedInstructions, callGraph_eq same, global, functions]

theorem mem_builtinInputs {id : Id} {builtin : BuiltIn}
    (listed : (id, builtin) ∈ program.builtinInputs) :
    ∃ var, (id, var) ∈ program.vars ∧ var.storage = .input := by
  obtain ⟨⟨other, var⟩, found, same⟩ := List.mem_filterMap.mp listed
  obtain ⟨found, input⟩ := List.mem_filter.mp found
  obtain ⟨_, _, same⟩ := map_eq_some_iff.mp same
  cases same
  exact ⟨var, found, by simpa using input⟩

theorem variableAt?_addBuiltinInput (program : Program) (builtin : BuiltIn) (type : ValueType) :
    (program.addBuiltinInput builtin type).2.variableAt? (program.addBuiltinInput builtin type).1 =
      some { type := program.bound + 1, storage := .input, builtin := true } := by
  rw [variableAt?_some]
  exact (record?_set ..).trans (if_pos rfl)

theorem find?_listInputs {listed : Assoc BuiltIn Id} {builtin : BuiltIn} {id : Id}
    (found : (program.listInputs listed).find? builtin = some id) :
    listed.find? builtin = some id ∨ (id, builtin) ∈ program.builtinInputs := by
  unfold listInputs at found
  generalize program.builtinInputs = inputs at found ⊢
  induction inputs generalizing listed with
  | nil => exact .inl found
  | cons input rest ih =>
    obtain ⟨other, builtin'⟩ := input
    rw [List.foldl_cons] at found
    rcases ih found with found | known
    · dsimp only at found
      split at found
      · exact .inl found
      · rw [Assoc.find?_insert] at found
        split at found
        · rename_i same
          cases found
          exact .inr (by simp [same])
        · exact .inl found
    · exact .inr (List.mem_cons_of_mem _ known)

/-- A program that has grown by types and variables that are no buffers. -/
def GrownUnbuffered (origin program : Program) : Prop :=
  ∀ id, (program.record? id).map (·.mapFunction Function.given) =
      (origin.record? id).map (·.mapFunction Function.given) ∨
    origin.record? id = none ∧ ∃ record, program.record? id = some record ∧ record.Unbuffered

namespace GrownUnbuffered

theorem of_mapFunction {record : Record} {found : Option Record} (unbuffered : record.Unbuffered)
    (same : found.map (·.mapFunction Function.given) =
      (some record).map (·.mapFunction Function.given)) : found = some record := by
  obtain ⟨other, rfl, same⟩ := map_eq_some_iff.mp same
  cases record <;> cases other <;> simp_all [Record.mapFunction, Record.Unbuffered]

theorem trans {middle after : Program} (first : GrownUnbuffered origin middle)
    (second : GrownUnbuffered middle after) : GrownUnbuffered origin after := by
  intro id
  rcases second id with same | ⟨absent, record, stored, unbuffered⟩
  · rcases first id with same' | ⟨absent, record, stored, unbuffered⟩
    · exact .inl (same.trans same')
    · rw [stored] at same
      exact .inr ⟨absent, record, of_mapFunction unbuffered same, unbuffered⟩
  · rcases first id with same' | ⟨_, record', stored', _⟩
    · rw [absent, map_none] at same'
      exact .inr ⟨map_eq_none_iff.mp same'.symm, record, stored, unbuffered⟩
    · rw [absent] at stored'
      cases stored'

theorem variableAt? {id : Id} {var : Variable} (grown : GrownUnbuffered origin program)
    (stored : program.variableAt? id = some var) (buffer : var.storage.isBuffer = true) :
    origin.variableAt? id = some var := by
  rw [variableAt?_some] at stored ⊢
  rcases grown id with same | ⟨_, record, found, unbuffered⟩
  · rw [stored] at same
    obtain ⟨other, found, same⟩ := map_eq_some_iff.mp same.symm
    rw [found]
    cases other <;> simp_all [Record.mapFunction]
  · rw [stored] at found
    cases found
    exact absurd buffer (by rw [unbuffered]; decide)

theorem constantAt?_eq (grown : GrownUnbuffered origin program) (id : Id) :
    program.constantAt? id = origin.constantAt? id := by
  have blind (found : Option Record) : found.bind Record.asConstant? =
      (found.map (·.mapFunction Function.given)).bind Record.asConstant? := by
    rcases found with _ | record
    · rfl
    · cases record <;> rfl
  unfold constantAt?
  rcases grown id with same | ⟨absent, record, found, unbuffered⟩
  · rw [blind, same, ← blind]
  · rw [absent, found]
    cases record <;> first | rfl | exact unbuffered.elim

theorem elementCount_eq (grown : GrownUnbuffered origin program) (dimensions : List Dimension) :
    program.elementCount dimensions = origin.elementCount dimensions := by
  rw [elementCount, elementCount, dimensionLength_congr grown.constantAt?_eq]

end GrownUnbuffered

end Program

namespace Compiler

variable {scope : Scope} {c c' : Compiler} {origin : Program} {chart : List Id}

/-- A program has grown, and got no buffers. -/
structure Unbuffered (origin : Program) (c : Compiler) : Prop extends Since origin c where
  grown : origin.GrownUnbuffered c.program
  asked : c.options.swizzleTextures = false
  unused : c.plan.usesSwizzle = false
  inputs : ∀ builtin id, c.plan.builtinInputs.find? builtin = some id →
    ∃ var, c.program.variableAt? id = some var ∧ var.storage = .input

def Charts (origin : Program) (chart : List Id) (c : Compiler) : Prop :=
  ∀ id var, origin.variableAt? id = some var → var.storage.isBuffer = true →
    (id ∈ c.plan.activeVariables ↔ id ∈ chart)

theorem Change.grown (bounded : c.program.Bounded) (unused : c.plan.usesSwizzle = false)
    (change : Change scope c c') : c.program.GrownUnbuffered c'.program := by
  intro id
  rcases change.record bounded id with same | ⟨absent, record, stored, adds⟩
  · exact .inl same
  · refine .inr ⟨absent, record, stored, ?_⟩
    cases adds with
    | type => trivial
    | var storage => exact storage.resolve_right (by simp [unused])

namespace Unbuffered

section

variable (unbuffered : Unbuffered origin c)

include unbuffered

theorem inputs_change (change : Change scope c c') :
    ∀ builtin id, c'.plan.builtinInputs.find? builtin = some id →
      ∃ var, c'.program.variableAt? id = some var ∧ var.storage = .input := by
  have kept (builtin : BuiltIn) (id : Id)
      (found : c.plan.builtinInputs.find? builtin = some id) :
      ∃ var, c'.program.variableAt? id = some var ∧ var.storage = .input := by
    obtain ⟨var, stored, input⟩ := unbuffered.inputs builtin id found
    have below := unbuffered.bounded.variable_below stored
    exact ⟨var, ((change.extends unbuffered.bounded).variableAt?_eq below).trans stored, input⟩
  intro builtin id found
  cases change with
  | plan fixed _ => exact kept builtin id (congrArg Plan.builtinInputs fixed ▸ found)
  | lists =>
    rcases Program.find?_listInputs found with found | listed
    · exact unbuffered.inputs builtin id found
    · obtain ⟨var, listed, input⟩ := mem_builtinInputs listed
      exact ⟨var, unbuffered.bounded.mem_vars.mp listed, input⟩
  | declares declared _ =>
    rw [Assoc.find?_insert] at found
    split at found
    · cases found
      exact ⟨_, c.program.variableAt?_addBuiltinInput .., rfl⟩
    · exact kept builtin id found
  | _ => exact kept builtin id found

theorem change (change : Change scope c c') : Unbuffered origin c' where
  toSince := unbuffered.toSince.change change
  grown := unbuffered.grown.trans (change.grown unbuffered.bounded unbuffered.unused)
  asked := by cases change <;> exact unbuffered.asked
  unused := by
    cases change with
    | plan _ swizzles =>
      refine Bool.eq_false_iff.mpr fun used => ?_
      simpa [unbuffered.unused, unbuffered.asked] using swizzles used
    | _ => exact unbuffered.unused
  inputs := unbuffered.inputs_change change

theorem prepares (prepares : Prepares scope c c') : Unbuffered origin c' :=
  prepares.keeps (Unbuffered origin) (fun _ _ step unbuffered => unbuffered.change step) unbuffered

theorem entered {point : EntryPoint} {program : Program}
    (naming : c.program.legalizeNames point.id = .ok program) (graph : CallGraph)
    (activeVariables : List Id) :
    Unbuffered origin (c.entered point program graph activeVariables) := by
  have legalizes : Change (Emit.Preparing.AnyType True True) c { c with program } := .legalizes naming
  have named := unbuffered.change legalizes
  exact ⟨{ named with }, named.grown,
    named.asked, named.unused, named.inputs⟩

theorem charts_change (bounded : origin.Bounded)
    (charts : Charts origin chart c) (change : Change scope c c') : Charts origin chart c' := by
  intro id var stored buffer
  rw [← charts id var stored buffer]
  cases change with
  | plan fixed _ =>
    have same := congrArg Plan.activeVariables fixed
    exact Iff.of_eq (congrArg (id ∈ ·) same)
  | activates listed =>
    rw [mem_addNew, or_iff_left]
    rintro rfl
    obtain ⟨var', stored', input⟩ := unbuffered.inputs _ id listed
    rw [unbuffered.program.variableAt?_eq (bounded.variable_below stored), stored] at stored'
    cases stored'
    rw [input] at buffer
    cases buffer
  | addsAux swizzles => exact absurd swizzles (by simp [unbuffered.unused])
  | _ => rfl

theorem charts_prepares (bounded : origin.Bounded)
    (charts : Charts origin chart c) (prepares : Prepares scope c c') : Charts origin chart c' := by
  have both := prepares.keeps (fun c => Unbuffered origin c ∧ Charts origin chart c)
    (fun _ _ step ⟨unbuffered, charts⟩ =>
      ⟨unbuffered.change step, unbuffered.charts_change bounded charts step⟩) ⟨unbuffered, charts⟩
  exact both.2

end

end Unbuffered

end Compiler

namespace Emit

open Compiler (Unbuffered Charts)

variable {c c' : Compiler} {u : Unit}

/-- The buffers of a prepared program are those that were loaded, and in use are those that the
entry point refers to. -/
theorem prepare_buffers {m : Spirv.Module} {program : Program} {options : Options}
    (loaded : Program.ofModule m = .ok program)
    (done : prepare (Compiler.new program options) = .ok u c')
    (unswizzled : options.swizzleTextures = false) :
    Unbuffered program c' ∧ Charts program program.usedVariables c' := by
  have bounded := ofModule_bounded loaded
  obtain ⟨point, named, graph, activeVariables, entered, naming, _, active, prepares⟩ :=
    prepare_changes done
  have since : Compiler.Since program (Compiler.new program options) :=
    Compiler.Since.start (c := Compiler.new program options) bounded rfl
  have start : Unbuffered program (Compiler.new program options) :=
    { toSince := since
      grown := fun _ => .inl rfl
      asked := unswizzled
      unused := rfl
      inputs := fun _ _ found => nomatch found }
  have unbuffered := start.entered naming graph activeVariables
  rw [activeVariables_eq (legalizeNames_records naming)] at active
  have used : program.usedVariables = activeVariables := by
    have entered : program.entryPoint = .ok point := entered
    have active : program.activeVariables point.id = .ok activeVariables := active
    simp only [Program.usedVariables, entered, bind, Except.bind, active]
    rfl
  refine ⟨unbuffered.prepares prepares, unbuffered.charts_prepares bounded ?_ prepares⟩
  intro id var stored buffer
  rw [used]
  rfl

end Emit

end SpirvMetal
