import SpirvMetal.Program.Basic
import SpirvMetal.Spirv.Decode

/-!
Loading: from the sections of a module to a program.
-/

namespace SpirvMetal

open Spirv (Op Operand StorageClass Decoration)

namespace Spirv.Instruction

def operand? (inst : Instruction) (index : Nat) : Option Operand := inst.operands[index]?

def idAt (inst : Instruction) (index : Nat) : Except Fault Id :=
  match inst.operand? index with
  | some (.idRef id) => .ok id
  | found => .error (.invalid (.operand inst.op .id index found))

def literalAt (inst : Instruction) (index : Nat) : Except Fault Nat :=
  match inst.operand? index with
  | some (.literal word) => .ok word
  | found => .error (.invalid (.operand inst.op .literal index found))

def textAt (inst : Instruction) (index : Nat) : Except Fault String :=
  match inst.operand? index with
  | some (.text value) => .ok value
  | found => .error (.invalid (.operand inst.op .string index found))

def ids (inst : Instruction) : Except Fault (List Id) :=
  (List.range inst.operands.length).mapM inst.idAt

def needResultId (inst : Instruction) : Except Fault Id :=
  match inst.resultId with
  | some id => .ok id
  | none => .error (.invalid (.noResultId inst.op))

def needResultType (inst : Instruction) : Except Fault Id :=
  match inst.resultType with
  | some id => .ok id
  | none => .error (.invalid (.noResultType inst.op))

def decorationAt (inst : Instruction) (index : Nat) : Except Fault (Decoration × Nat) :=
  match inst.operand? index with
  | some (.decoration decoration) =>
    let value :=
      match inst.operand? (index + 1) with
      | some (.literal word) => word
      | some (.builtIn builtin) => builtin.code
      | some (.idRef id) => id
      | _ => 0
    .ok (decoration, value)
  | found => .error (.invalid (.noDecoration inst.op found))

def declaredVariable (inst : Instruction) : Except Fault Variable := do
  let type ← inst.needResultType
  match inst.operand? 0 with
  | some (.storageClass storage) =>
    let initializer :=
      match inst.operand? 1 with
      | some (.idRef id) => some id
      | _ => none
    return { type, storage, initializer }
  | found => .error (.invalid (.variableOperand found))

end Spirv.Instruction

namespace Program

variable (program : Program)

def loadImport (inst : Spirv.Instruction) : Except Fault Program := do
  let id ← inst.needResultId
  let name ← inst.textAt 0
  return program.set id (.importedSet (if name = "GLSL.std.450" then .glslStd450 else .other))

def loadEntryPoint (inst : Spirv.Instruction) : Except Fault Program := do
  match inst.operand? 0 with
  | some (.executionModel model) =>
    let id ← inst.idAt 1
    let name ← inst.textAt 2
    let interface := (inst.operands.drop 3).filterMap fun
      | .idRef id => some id
      | _ => none
    let defaultEntry := if program.entryPoints.isEmpty then id else program.defaultEntry
    let entry := { id, name, model, interface }
    return { program with defaultEntry, entryPoints := program.entryPoints.insert id entry }
  | found => .error (.invalid (.noExecutionModel found))

def loadExecutionMode (inst : Spirv.Instruction) : Except Fault Program := do
  let id ← inst.idAt 0
  match inst.operand? 1 with
  | some (.executionMode mode) =>
    let arguments := (inst.operands.drop 2).filterMap fun
      | .literal word => some word
      | _ => none
    match program.entryPoints.find? id with
    | none => .error (.invalid (.modeOfUnknownEntry id))
    | some entry =>
      let workgroupSize :=
        match mode, arguments with
        | .localSize, [x, y, z] => (x, y, z)
        | _, _ => entry.workgroupSize
      let modes := if mode ∈ entry.modes then entry.modes else entry.modes ++ [mode]
      let entry := { entry with workgroupSize, modes }
      return { program with entryPoints := program.entryPoints.insert id entry }
  | found => .error (.invalid (.noExecutionMode found))

def loadName (inst : Spirv.Instruction) : Except Fault Program := do
  match inst.op with
  | .debugName => return program.setName (← inst.idAt 0) (← inst.textAt 1)
  | .memberName =>
    return program.setMemberName (← inst.idAt 0) (← inst.literalAt 1) (← inst.textAt 2)
  | _ => return program

def loadDecoration (inst : Spirv.Instruction) : Except Fault Program := do
  match inst.op with
  | .decorate =>
    let id ← inst.idAt 0
    let (decoration, value) ← inst.decorationAt 1
    return program.setDecoration id decoration value
  | .memberDecorate =>
    let id ← inst.idAt 0
    let member ← inst.literalAt 1
    let (decoration, value) ← inst.decorationAt 2
    return program.setMemberDecoration id member decoration value
  | _ => return program

def definedType (id : Id) : Except Fault ValueType :=
  match program.typeAt? id with
  | some type => .ok type
  | none => .error (.invalid (.typeBeforeDefinition id))

def dimensionOf (length : Id) : Except Fault Dimension :=
  match program.constantAt? length with
  | none => .error (.invalid (.arrayLengthNotConstant length))
  | some constant =>
    .ok (if constant.specialization then .spec length else .literal (constant.word?.getD 0))

def imageType (inst : Spirv.Instruction) : Except Fault ValueType := do
  let sampledType ← inst.idAt 0
  match inst.operand? 1 with
  | some (.dim dim) =>
    let format :=
      match inst.operand? 6 with
      | some (.imageFormat format) => format
      | _ => .unknown
    let access :=
      match inst.operand? 7 with
      | some (.accessQualifier access) => some access
      | _ => none
    let width := (← program.definedType sampledType).width
    let depth ← inst.literalAt 2
    let arrayed ← inst.literalAt 3
    let multisampled ← inst.literalAt 4
    let sampled ← inst.literalAt 5
    let image : ImageInfo :=
      { sampledType, dim, depth := depth = 1, arrayed := arrayed ≠ 0
        multisampled := multisampled ≠ 0, sampled, format, access }
    return { base := .image, width, image := some image }
  | found => .error (.invalid (.imageDim found))

/-- The type that an instruction with result `id` declares. Arrays and pointers share the identity
of what they wrap. -/
def declaredType (inst : Spirv.Instruction) (id : Id) : Except Fault ValueType := do
  match inst.op with
  | .typeBool => return { base := .boolean, width := 32, baseId := id }
  | .typeInt =>
    let width ← inst.literalAt 0
    let signed ← inst.literalAt 1
    match IntWidth.ofBits? width with
    | some size => return { base := .integer size (signed ≠ 0), width, baseId := id }
    | none => .error (.invalid (.integerWidth width))
  | .typeFloat =>
    let width ← inst.literalAt 0
    match FloatWidth.ofBits? width with
    | some size => return { base := .floating size, width, baseId := id }
    | none => .error (.invalid (.floatWidth width))
  | .typeVector =>
    let component ← inst.idAt 0
    let type ← program.definedType component
    let components ← inst.literalAt 1
    return { type with components, parent := some component, baseId := id }
  | .typeMatrix =>
    let column ← inst.idAt 0
    let type ← program.definedType column
    let columns ← inst.literalAt 1
    return { type with columns, parent := some column, baseId := id }
  | .typeArray =>
    let element ← inst.idAt 0
    let length ← inst.idAt 1
    let dimension ← program.dimensionOf length
    return (← program.definedType element).arrayOf element dimension
  | .typeRuntimeArray =>
    let element ← inst.idAt 0
    return (← program.definedType element).arrayOf element (.literal 0)
  | .typeStruct => return { base := .struct, width := 0, members := ← inst.ids, baseId := id }
  | .typePointer =>
    match inst.operand? 0 with
    | some (.storageClass storage) =>
      let target ← inst.idAt 1
      return (← program.definedType target).pointerTo target storage
    | found => .error (.invalid (.pointerOperand found))
  | .typeImage => return { ← program.imageType inst with baseId := id }
  | .typeSampledImage =>
    let image ← inst.idAt 0
    let type ← program.definedType image
    return { type with base := .sampledImage, parent := some image, baseId := id }
  | .typeSampler => return { base := .sampler, width := 0, baseId := id }
  | .typeFunction => return { base := .unknown, width := 0, members := ← inst.ids, baseId := id }
  | _ => return { base := .void, width := 0, baseId := id }

def specLength? (type : ValueType) : Option Id :=
  match type.outer? with
  | some (.spec constant) => some constant
  | _ => none

def loadType (inst : Spirv.Instruction) : Except Fault Program := do
  let id ← inst.needResultId
  let type ← program.declaredType inst id
  let arrayLengths :=
    match inst.op, specLength? type with
    | .typeArray, some length =>
      if length ∈ program.arrayLengths then program.arrayLengths
      else program.arrayLengths ++ [length]
    | _, _ => program.arrayLengths
  return { program.set id (.type type) with arrayLengths }

def loadConstant (inst : Spirv.Instruction) (value : ConstantValue) (specialization : Bool) :
    Except Fault Program := do
  let id ← inst.needResultId
  let type ← inst.needResultType
  return program.set id (.constant { type, value, specialization })

def loadGlobal (inst : Spirv.Instruction) : Except Fault Program := do
  match inst.op with
  | .typeVoid | .typeBool | .typeInt | .typeFloat | .typeVector | .typeMatrix | .typeArray
  | .typeRuntimeArray | .typeStruct | .typePointer | .typeImage | .typeSampledImage | .typeSampler
  | .typeFunction => program.loadType inst
  | .constantTrue => program.loadConstant inst (.bool true) false
  | .constantFalse => program.loadConstant inst (.bool false) false
  | .specConstantTrue => program.loadConstant inst (.bool true) true
  | .specConstantFalse => program.loadConstant inst (.bool false) true
  | .constant | .specConstant =>
    let specialization := inst.op = .specConstant
    match inst.operand? 0 with
    | some (.literal word) => program.loadConstant inst (.scalar word) specialization
    | some (.wideLiteral bits) => program.loadConstant inst (.scalar bits) specialization
    | found => .error (.invalid (.constantOperand inst.op found))
  | .constantComposite | .specConstantComposite =>
    program.loadConstant inst (.composite (← inst.ids)) (inst.op = .specConstantComposite)
  | .constantNull => program.loadConstant inst .null false
  | .specConstantOp =>
    match inst.operands with
    | .specOp op :: rest =>
      program.loadConstant inst (.operation op (rest.flatMap Operand.words)) true
    | operands => .error (.invalid (.specOpOperand operands.head?))
  | .undef =>
    let id ← inst.needResultId
    let type ← inst.needResultType
    return program.set id (.undefined type)
  | .varDecl =>
    let id ← inst.needResultId
    let var ← inst.declaredVariable
    return program.set id (.variable var)
  | _ => return program

def loadParameter (state : Program × Function) (inst : Spirv.Instruction) :
    Except Fault (Program × Function) := do
  let (program, function) := state
  let id ← inst.needResultId
  let type ← inst.needResultType
  return (program.set id (.variable { type, storage := .function }),
    function.addParameter { id, type, threaded := false })

/-- An instruction of a block. Variables become locals of the function, source locations are
dropped, and everything else is kept in order. -/
def loadInstruction (state : Program × Function × List Instruction) (inst : Spirv.Instruction) :
    Except Fault (Program × Function × List Instruction) := do
  let (program, function, kept) := state
  match inst.op with
  | .varDecl =>
    let id ← inst.needResultId
    let var ← inst.declaredVariable
    return (program.set id (.variable var), function.addLocal id, kept)
  | .line | .noLine => return state
  | op =>
    let program :=
      match inst.resultType, inst.resultId with
      | some type, some id => program.setResultType id type
      | _, _ => program
    return (program, function, kept ++ [{ op, words := inst.words, references := inst.references }])

def loadBlock (id : Id) (state : Program × Function) (block : Spirv.Block) :
    Except Fault (Program × Function) := do
  match block.label.bind (·.resultId) with
  | none => .error (.invalid (.blockWithoutLabel id))
  | some label =>
    let (program, function, instructions) ←
      block.instructions.foldlM loadInstruction (state.1, state.2, [])
    return (program, { function with blocks := function.blocks ++ [{ label, instructions }] })

def loadFunction (source : Spirv.Function) : Except Fault Program := do
  match source.definition with
  | none => .error (.invalid .functionWithoutDefinition)
  | some definition =>
    let id ← definition.needResultId
    let returnType ← definition.needResultType
    let functionType ← definition.idAt 1
    let state ← source.parameters.foldlM loadParameter (program, { returnType, functionType })
    let (program, function) ← source.blocks.foldlM (loadBlock id) state
    return program.set id (.function function)

def markBuiltin (id : Id) : Except Fault Program := do
  let (_, type) ← program.dataType id
  let builtin :=
    (program.builtin? id).isSome || (type.isStruct && program.isBuiltinBlock type.baseId)
  program.modifyVariable id ({ · with builtin })

def ofModule (m : Spirv.Module) : Except Fault Program := do
  let program := empty (max (m.bound.getD 0) m.leastBound)
  let program ← m.imports.foldlM loadImport program
  let program ← m.entryPoints.foldlM loadEntryPoint program
  let program ← m.executionModes.foldlM loadExecutionMode program
  let program ← m.names.foldlM loadName program
  let program ← m.annotations.foldlM loadDecoration program
  let program ← m.globals.foldlM loadGlobal program
  let program ← m.functions.foldlM loadFunction program
  if program.entryPoints.isEmpty then .error (.invalid .noEntryPoint)
  else (program.vars.map (·.1)).foldlM markBuiltin program

def ofWords (words : List Nat) : Except Fault Program :=
  match Spirv.Module.ofWords? words with
  | some m => ofModule m
  | none => .error (.invalid .unreadable)

end Program

end SpirvMetal
