import SpirvMetal.Metal.Helper.Source
import SpirvMetal.Metal.Instruction.Value

/-!
Loads, stores and copies. Arrays are copied by helpers, which differ by where the source lives.
Matrices that are stored row by row are transposed on the way.
-/

namespace SpirvMetal

open HelperDefinition (CopySource copyName)

namespace Emit

def copyArray (source : CopySource) (type : ValueType) (target value : String) : Emit Unit :=
  statement s!"{copyName source type.dimensions.length}({target}, {value});"

/-- Load a matrix that is stored row by row. Square and packed ones are taken as they are and then
transposed; their stored value keeps a name for products in the same block. -/
def loadRowMajor (typeId result : Id) (type : ValueType) (source : String) (packed : Bool) :
    Emit Unit := do
  let columns := type.columns
  let rows := type.components
  if columns = rows || packed then
    let raw := s!"{temporary result}_raw"
    statement s!"{← TypeName.numeric type.base columns rows} {raw} = {source};"
    define typeId result s!"transpose({raw})"
    modifyPass fun pass => { pass with transposed := pass.transposed.insert result raw }
  else
    match Helper.rowMajor? columns rows with
    | none => fail (.unsupported (.rowMajor columns rows))
    | some helper =>
      requireHelper helper
      define typeId result s!"spvConvertFromRowMajor{columns}x{rows}({source})"

def loadArray (typeId result pointer : Id) (type : ValueType) (source : String) : Emit Unit := do
  let copy : CopySource ←
    match ← (← get).pointerSpace pointer with
    | .constant => pure .constant
    | .thread | .value => pure .stack
    | space => fail (.unsupported (.loadWholeArray space.text))
  let name ← declare typeId result
  copyArray copy type name source

def load (inst : Instruction) : Emit Unit := do
  need inst 3
  let typeId ← word inst 0
  let result ← word inst 1
  let pointer ← word inst 2
  let type ← getType typeId
  let source ← text pointer
  if type.isOpaque then forward result pointer source
  else
    setBacking result pointer
    let c ← get
    let packed := decide (pointer ∈ c.pass.packed)
    if type.isArray then loadArray typeId result pointer type source
    else if pointer ∈ c.pass.rowMajor && type.isMatrix then
      loadRowMajor typeId result type source packed
    else if packed || pointer ∈ c.plan.convertedInputs then
      define typeId result s!"{← typeName typeId}({source})"
    else define typeId result source

def checkCopyTarget (pointer : Id) : Emit Unit := do
  match ← (← get).pointerSpace pointer with
  | .thread | .value => return ()
  | space => fail (.unsupported (.copyIntoArray space.text))

def arraySource (c : Compiler) (value : Id) : CopySource :=
  if (c.program.constantAt? value).isSome || (c.backingVariable? value).any c.isTable then
    .constant
  else .stack

def store (inst : Instruction) : Emit Unit := do
  need inst 2
  let pointer ← word inst 0
  let value ← word inst 1
  let target ← text pointer
  let source ← text value
  let c ← get
  let type ← c.program.expressionType value
  if type.isArray then
    checkCopyTarget pointer
    copyArray (arraySource c value) type target source
  else if pointer ∈ c.pass.rowMajor && type.isMatrix then
    if type.columns ≠ type.components && pointer ∉ c.pass.packed then
      fail (.unsupported .storeNonSquareRowMajor)
    statement s!"{target} = transpose({source});"
  else statement s!"{target} = {source};"

def copyMemory (inst : Instruction) : Emit Unit := do
  need inst 2
  let targetPointer ← word inst 0
  let sourcePointer ← word inst 1
  let target ← text targetPointer
  let source ← text sourcePointer
  let c ← get
  match c.program.typeOf? targetPointer with
  | none => fail (.internal (.copyTargetWithoutType targetPointer))
  | some pointer =>
    let (_, type) ← c.program.pointee pointer
    if type.isArray then
      checkCopyTarget targetPointer
      let isConstant := (← c.pointerSpace sourcePointer) = .constant
      copyArray (if isConstant then .constant else .stack) type target source
    else statement s!"{target} = {source};"

end Emit

end SpirvMetal
