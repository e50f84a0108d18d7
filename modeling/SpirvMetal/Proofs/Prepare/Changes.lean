import SpirvMetal.Proofs.Threading.CallGraph
import SpirvMetal.Proofs.Threading.Parameters

/-!
What preparing a program can do to it, one change at a time.
-/

namespace SpirvMetal

open Spirv (BuiltIn StorageClass)

/-- An instruction of the functions takes a sample of an image. -/
def Program.Samples (program : Program) (functions : List Id) : Prop :=
  ∃ id ∈ functions, ∃ function, program.functionAt? id = some function ∧
    ∃ inst ∈ function.instructions, inst.op.isSample = true

namespace Program

variable {program after : Program} {functions : List Id}

theorem Samples.of_instructionsOf {found : List Instruction} {inst : Instruction}
    (read : program.instructionsOf functions = .ok found) (member : inst ∈ found)
    (samples : inst.op.isSample = true) : program.Samples functions := by
  obtain ⟨bodies, reads, same⟩ := Except.bind_ok.mp read
  obtain rfl := Except.ok.inj same
  obtain ⟨function, held, contained⟩ := List.mem_flatMap.mp member
  obtain ⟨index, short, rfl⟩ := List.mem_iff_getElem.mp held
  have paired := Except.mapM_ok.mp reads
  have listed : index < functions.length := by rwa [paired.length_eq]
  exact ⟨functions[index], List.getElem_mem listed, bodies[index],
    getFunction_ok.mp (paired.get listed short), inst, contained, samples⟩

/-- Samples are still taken after functions have changed in something else than their code. -/
theorem Samples.of_extends {view : Function → Function} (samples : program.Samples functions)
    (growth : Extends view program after) (bounded : program.Bounded)
    (seen : ∀ {left right}, view left = view right → left.instructions = right.instructions) :
    after.Samples functions := by
  obtain ⟨id, listed, function, stored, inst, member, samples⟩ := samples
  have same := growth.functionAt?_eq (bounded.function_below stored)
  rw [stored] at same
  obtain ⟨now, stored, same⟩ := Option.map_eq_some_iff.mp same
  exact ⟨id, listed, now, stored, inst, by rwa [seen same], samples⟩

end Program

/-- A function without what the preparation may add to it. -/
def Function.given (function : Function) : Function :=
  { function with parameters := [], locals := [], fixupsIn := [], fixupsOut := [] }

/-- A function that has only been added to. -/
structure Function.Continues (before after : Function) : Prop where
  given : after.given = before.given
  parameters : before.parameters <+: after.parameters
  locals : before.locals <+: after.locals

namespace Function.Continues

variable {first second third : Function}

theorem refl (function : Function) : function.Continues function :=
  ⟨rfl, List.prefix_refl _, List.prefix_refl _⟩

theorem trans (left : first.Continues second) (right : second.Continues third) :
    first.Continues third where
  given := right.given.trans left.given
  parameters := left.parameters.trans right.parameters
  locals := left.locals.trans right.locals

theorem addLocal (function : Function) (id : Id) : function.Continues (function.addLocal id) := by
  unfold Function.addLocal
  split
  · exact refl function
  · exact ⟨rfl, List.prefix_refl _, List.prefix_append ..⟩

theorem addParameter (function : Function) (parameter : Parameter) :
    function.Continues (function.addParameter parameter) :=
  ⟨rfl, List.prefix_append .., List.prefix_refl _⟩

end Function.Continues

/-- Builtin inputs, listed unless another one is listed already. -/
def Program.listInputs (program : Program) (listed : Assoc BuiltIn Id) : Assoc BuiltIn Id :=
  program.builtinInputs.foldl
    (fun listed (id, builtin) =>
      if listed.contains builtin then listed else listed.insert builtin id)
    listed

def Program.nameInputs (program : Program) : Program :=
  program.builtinInputs.foldl (fun named (id, builtin) => named.setName id (Builtin.name builtin))
    program

/-- The part of a plan that is only changed in ways that are listed. -/
def Plan.fixed (plan : Plan) : Plan where
  entry := plan.entry
  model := plan.model
  callGraph := plan.callGraph
  activeVariables := plan.activeVariables
  interfaceStructs := plan.interfaceStructs
  builtinInputs := plan.builtinInputs
  auxBuffer := plan.auxBuffer
  packableStructs := plan.packableStructs
  written := plan.written
  lookupTables := plan.lookupTables

namespace Compiler

/-- What may be changed beside names and notes in the plan: whether interfaces are made up and tables
chosen, functions get parameters, and structs a layout. -/
structure Scope where
  plans : Prop
  threads : Prop
  lays : Prop

def building (c : Compiler) (storage : StorageClass) (types : List Id) : Compiler :=
  let (struct, program) := c.program.addInterfaceStruct storage types
  let name := Emit.interfaceName storage
  { c with
    program := (program.setName struct s!"{program.plainName c.plan.entry}_{name}").setName
      (struct + 2) name
    plan := { c.plan with interfaceStructs := addNew c.plan.interfaceStructs struct } }

/-- One change of the preparation within a scope. -/
inductive Change (scope : Scope) (c : Compiler) : Compiler → Prop
  | plan {plan : Plan} (fixed : plan.fixed = c.plan.fixed)
      (swizzles : plan.usesSwizzle = true → c.plan.usesSwizzle = true ∨
        c.options.swizzleTextures = true ∧ c.program.Samples c.plan.callGraph.order) :
      Change scope c { c with plan }
  | writes {written : List Id} (grows : ∀ id ∈ c.plan.written, id ∈ written) :
      Change scope c { c with plan := { c.plan with written } }
  /-- A variable that nothing is known to write becomes a lookup table. -/
  | tabulates {id : Id} (unwritten : id ∉ c.plan.written) (allowed : scope.plans) : Change scope c
        { c with plan := { c.plan with lookupTables := addNew c.plan.lookupTables id } }
  | attributes {vertexAttributes : List VertexAttribute} :
      Change scope c { c with options := { c.options with vertexAttributes } }
  | lists : Change scope c
      { c with plan := { c.plan with
        builtinInputs := c.program.listInputs c.plan.builtinInputs } }
  | activates {builtin : BuiltIn} {var : Id} (listed : c.plan.builtinInputs.find? builtin = some var) :
      Change scope c
        { c with plan := { c.plan with
          activeVariables := addNew c.plan.activeVariables var
          activeBuiltins := c.plan.activeBuiltins.add .input builtin } }
  | declares (builtin : BuiltIn) {type : ValueType}
      (wanted : type = .scalar .uint 32 ∨ type = .vector .float 32 4) :
      Change scope c
        { c with
          program := (c.program.addBuiltinInput builtin type).2
          plan := { c.plan with
            builtinInputs := c.plan.builtinInputs.insert builtin
              (c.program.addBuiltinInput builtin type).1 } }
  | namesInputs : Change scope c { c with program := c.program.nameInputs }
  | addsAux {slot : Nat} (swizzles : c.plan.usesSwizzle = true) : Change scope c
        { c with
          program := (c.program.addAuxBuffer slot).2
          plan := { c.plan with
            activeVariables := addNew c.plan.activeVariables (c.program.addAuxBuffer slot).1
            auxBuffer := some (c.program.addAuxBuffer slot).1 } }
  | legalizes {entry : Id} {program : Program} (named : c.program.legalizeNames entry = .ok program) :
      Change scope c { c with program }
  | closes {var : Id} {program : Program} (closed : c.program.closeStorageImage var = .ok program) :
      Change scope c { c with program }
  | addsType {type : ValueType} (allowed : scope.plans) :
      Change scope c { c with program := (c.program.addType type).2 }
  | builds {storage : StorageClass} {types : List Id} (stage : storage = .input ∨ storage = .output)
      (allowed : scope.plans) :
      Change scope c (c.building storage types)
  | decorates {struct index : Nat} {decorations : Decorations}
      (announced : struct ∈ c.plan.interfaceStructs) (unpacked : decorations.packed = false) :
      Change scope c
        { c with program := c.program.modifyMember struct index fun _ => decorations }
  | aliases {var : Id} {text : String} :
      Change scope c { c with program := c.program.setStandIn var text }
  | aliasesMember {struct member : Nat} {text : String} :
      Change scope c { c with program := c.program.setMemberStandIn struct member text }
  | modifies {id : Id} {change : Function → Function} {program : Program}
      (continues : ∀ function : Function, function.Continues (change function))
      (changed : c.program.modifyFunction id change = .ok program)
      (allowed : scope.threads ∨ ∀ function, (change function).outline = function.outline) :
      Change scope c { c with program }
  | reserves {count : Nat} : Change scope c { c with program := (c.program.reserve count).2 }
  | refers (storage : StorageClass) (decorations : Decorations) {type : Id} {pointee : ValueType}
      (stored : c.program.typeAt? type = some pointee) (allowed : scope.threads) :
      Change scope c
        { c with program := c.program.withReference (pointee.pointerTo type storage) decorations }
  | standsIn {global : Id} {var : Variable} (stored : c.program.variableAt? global = some var)
      (allowed : scope.threads) :
      Change scope c { c with program := c.program.withStandIn global var }
  | picks {struct : Id} (allowed : scope.lays) : Change scope c
        { c with plan := { c.plan with
          packableStructs := insertId c.plan.packableStructs struct } }
  | lays {struct member : Nat} (change : Decorations → Decorations)
      (kept : ∀ d, { change d with packed := d.packed, padding := d.padding } = d)
      (allowed : scope.lays) :
      Change scope c { c with program := c.program.modifyMember struct member change }

/-- The entry point is chosen, and what it reaches is known. -/
def entered (c : Compiler) (point : EntryPoint) (program : Program) (callGraph : CallGraph)
    (activeVariables : List Id) : Compiler :=
  { c with
    program
    plan := { c.plan with entry := point.id, model := point.model, callGraph, activeVariables } }

def Prepares (scope : Scope) : Compiler → Compiler → Prop :=
  Relation.ReflTransGen (Change scope)

variable {scope : Scope} {c c' : Compiler}

instance : Std.Refl (Prepares scope) := ⟨fun _ => .refl⟩

instance : IsTrans Compiler (Prepares scope) := ⟨fun _ _ _ => .trans⟩

theorem Change.prepares (change : Change scope c c') : Prepares scope c c' := .single change

theorem Prepares.keeps (prepares : Prepares scope c c') (holds : Compiler → Prop)
    (each : ∀ c c', Change scope c c' → holds c → holds c') (start : holds c) : holds c' := by
  induction prepares with
  | refl => exact start
  | tail _ change ih => exact each _ _ change ih

theorem Prepares.options (prepares : Prepares scope c c') :
    { c'.options with vertexAttributes := [] } = { c.options with vertexAttributes := [] } := by
  induction prepares with
  | refl => rfl
  | tail _ change ih => cases change <;> exact ih

theorem Prepares.interfaceStructs {struct : Id} (prepares : Prepares scope c c')
    (announced : struct ∈ c.plan.interfaceStructs) : struct ∈ c'.plan.interfaceStructs := by
  refine prepares.keeps (fun c => struct ∈ c.plan.interfaceStructs)
    (fun _ _ change announced => ?_) announced
  cases change with
  | plan fixed _ => exact congrArg Plan.interfaceStructs fixed ▸ announced
  | builds _ _ => exact mem_addNew.mpr (.inl announced)
  | _ => exact announced

end Compiler

end SpirvMetal
