import SpirvMetal.Metal.Helper.Source
import SpirvMetal.Metal.Instruction.Value

/-!
Building and taking apart vectors, matrices, arrays and structs.
-/

namespace SpirvMetal

open HelperDefinition (copyName)

namespace Compiler

variable (c : Compiler)

def literalPath : Id → List Nat → Except Fault String
  | _, [] => .ok ""
  | id, index :: rest => do
    let type ← c.program.getType id
    if type.isStruct && !type.isArray then
      match type.members[index]? with
      | none => .error (.internal (.noMember id index))
      | some member =>
        return s!".{c.program.plainMemberName type.baseId index}" ++ (← literalPath member rest)
    else
      let step := if type.isVector then s!".{componentLetter index}" else s!"[{index}]"
      match type.parent with
      | none => .error (.internal (.noElementType id))
      | some part => return step ++ (← literalPath part rest)

/-- The components of a shuffle: from the first vector or from the second. A component that may have
any value is the first of the first vector. -/
inductive ShuffleSource
  | first (component : Nat)
  | second (component : Nat)
  | undefined

def ShuffleSource.of (size component : Nat) : ShuffleSource :=
  if component = 4294967295 then .undefined
  else if component < size then .first component
  else .second (component - size)

def ShuffleSource.index : ShuffleSource → Nat
  | .first component | .second component => component
  | .undefined => 0

def ShuffleSource.isSecond : ShuffleSource → Bool
  | .second _ => true
  | _ => false

def ShuffleSource.isFirst : ShuffleSource → Bool
  | .first _ => true
  | _ => false

def shuffleText (type : Id) (first second : String) (sources : List ShuffleSource) :
    Except Fault String := do
  let letters := String.join (sources.map fun source => componentLetter source.index)
  if sources.all (!·.isSecond) then return s!"{first}.{letters}"
  else if sources.all (!·.isFirst) then return s!"{second}.{letters}"
  else
    let parts := sources.map fun source =>
      let vector := if source.isSecond then second else first
      s!"{vector}.{componentLetter source.index}"
    return applied (← c.typeName type) parts

end Compiler

namespace Emit

def arrayOfArrays (typeId result : Id) (element : ValueType) (parts : List String) :
    Emit Unit := do
  let name ← declare typeId result
  for (part, index) in parts.zipIdx do
    statement s!"{copyName .stack element.dimensions.length}({name}[{index}], {part});"

def constructArray (typeId result : Id) (type : ValueType) (parts : List String) :
    Emit Unit := do
  let element ← getType (type.parent.getD typeId)
  if element.isArray then arrayOfArrays typeId result element parts
  else
    let name := temporary result
    statement s!"{← (← get).declaration typeId name} = {Compiler.braced parts};"
    setText result name

def compositeConstruct (inst : Instruction) : Emit Unit := do
  let typeId ← word inst 0
  let result ← word inst 1
  let type ← getType typeId
  let parts ← (inst.words.drop 2).mapM text
  if type.isArray then constructArray typeId result type parts
  else if type.isStruct then
    define typeId result ((← typeName typeId) ++ Compiler.braced parts)
  else
    match parts, type.components, type.columns with
    | [part], 1, 1 => define typeId result part
    | _, _, _ => define typeId result (applied (← typeName typeId) parts)

def compositeExtract (inst : Instruction) : Emit Unit := do
  let composite ← word inst 2
  let base := enclose (← text composite)
  let c ← get
  match c.program.typeOf? composite with
  | none => fail (.internal (.compositeWithoutType composite))
  | some type =>
    let path ← c.literalPath type (inst.words.drop 3)
    define (← word inst 0) (← word inst 1) (base ++ path)

def compositeInsert (inst : Instruction) : Emit Unit := do
  need inst 4
  let type ← word inst 0
  let result ← word inst 1
  if (← getType type).isArray then fail (.unsupported .insertIntoArray)
  let path ← (← get).literalPath type (inst.words.drop 4)
  let source ← text (← word inst 3)
  let value ← text (← word inst 2)
  define type result source
  statement s!"{temporary result}{path} = {value};"

def vectorShuffle (inst : Instruction) : Emit Unit := do
  need inst 4
  let type ← word inst 0
  let first ← word inst 2
  let size := (← (← get).program.expressionType first).components
  let firstText := enclose (← text first)
  let secondText := enclose (← text (← word inst 3))
  let sources := (inst.words.drop 4).map (Compiler.ShuffleSource.of size)
  define type (← word inst 1) (← (← get).shuffleText type firstText secondText sources)

def vectorExtract (inst : Instruction) : Emit Unit := do
  need inst 4
  let vector := enclose (← text (← word inst 2))
  let index ← text (← word inst 3)
  define (← word inst 0) (← word inst 1) s!"{vector}[{index}]"

def vectorInsert (inst : Instruction) : Emit Unit := do
  need inst 5
  let result ← word inst 1
  let source ← text (← word inst 2)
  let value ← text (← word inst 3)
  let index ← text (← word inst 4)
  define (← word inst 0) result source
  statement s!"{temporary result}[{index}] = {value};"

end Emit

end SpirvMetal
