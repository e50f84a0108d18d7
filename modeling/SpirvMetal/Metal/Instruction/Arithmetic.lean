import SpirvMetal.Metal.Instruction.Value

/-!
Arithmetic, comparisons and conversions. Instructions say how integers are to be read, so operands
are cast where their types do not agree with that, and results back.
-/

namespace SpirvMetal

open Spirv (Op)

structure IntegerForm where
  symbol : BinarySymbol
  left : Option Bool := none
  right : Option Bool := none
  castsResult : Bool := false
deriving DecidableEq

namespace IntegerForm

def isShift (op : Op) : Bool :=
  op = .shiftLeftLogical || op = .shiftRightLogical || op = .shiftRightArithmetic

def operandSign? (operator : BinaryOperator) (result : BaseType) : Option Bool :=
  match operator.signed with
  | some signed => some signed
  | none => if result.isInteger then some result.isSigned else none

def ofSign (op : Op) (operator : BinaryOperator) (signed : Bool) (result : BaseType) :
    IntegerForm where
  symbol := operator.symbol
  left := some signed
  right := if isShift op then none else some signed
  castsResult := result.isInteger && result.isSigned ≠ signed

/-- The form for comparisons that do not depend on signs: the right operand follows the left. -/
def ofLeft (operator : BinaryOperator) (left : BaseType) : IntegerForm where
  symbol := operator.symbol
  right := if left.isInteger then some left.isSigned else none

end IntegerForm

namespace Compiler

variable (c : Compiler)

def operandText (id : Id) : Option Bool → Except Fault String
  | some signed => c.textAs id signed
  | none => c.textOf id

def integerForm (op : Op) (operator : BinaryOperator) (result : BaseType) (left : Id) :
    Except Fault IntegerForm := do
  match IntegerForm.operandSign? operator result with
  | some signed => return .ofSign op operator signed result
  | none => return .ofLeft operator (← c.program.expressionType left).base

def operandTexts (form : IntegerForm) (left right : Id) : Except Fault (String × String) := do
  match form.left with
  | some signed =>
    let first ← c.textAs left signed
    return (first, ← c.operandText right form.right)
  | none =>
    let second ← c.operandText right form.right
    return (← c.textOf left, second)

def integerText (op : Op) (operator : BinaryOperator) (type left right : Id) :
    Except Fault String := do
  let form ← c.integerForm op operator (← c.program.getType type).base left
  let (first, second) ← c.operandTexts form left right
  let value := s!"({first} {form.symbol.text} {second})"
  if form.castsResult then return s!"{← c.typeName type}({value})" else return value

end Compiler

def BinarySymbol.ofFloatOp? : Op → Option BinarySymbol
  | .fAdd => some .add
  | .fSub => some .sub
  | .fMul | .vectorTimesScalar | .matrixTimesScalar | .matrixTimesMatrix => some .mul
  | .fDiv => some .div
  | .fOrdEqual => some .equal
  | .fOrdNotEqual | .fUnordNotEqual => some .notEqual
  | .fOrdLessThan => some .less
  | .fOrdGreaterThan => some .greater
  | .fOrdLessThanEqual => some .lessEqual
  | .fOrdGreaterThanEqual => some .greaterEqual
  | _ => none

def BinarySymbol.ofUnorderedOp? : Op → Option BinarySymbol
  | .fUnordEqual => some .equal
  | .fUnordLessThan => some .less
  | .fUnordGreaterThan => some .greater
  | .fUnordLessThanEqual => some .lessEqual
  | .fUnordGreaterThanEqual => some .greaterEqual
  | _ => none

def unaryFunction? : Op → Option String
  | .dPdx | .dPdxFine | .dPdxCoarse => some "dfdx"
  | .dPdy | .dPdyFine | .dPdyCoarse => some "dfdy"
  | .fwidth | .fwidthFine | .fwidthCoarse => some "fwidth"
  | .anyOf => some "any"
  | .allOf => some "all"
  | .isNan => some "isnan"
  | .isInf => some "isinf"
  | .transpose => some "transpose"
  | .bitReverse => some "reverse_bits"
  | .bitCount => some "popcount"
  | _ => none

def binaryFunction? : Op → Option String
  | .fRem => some "fmod"
  | .fMod => some "mod"
  | .dot => some "dot"
  | _ => none

def unarySymbol? : Op → Option String
  | .fNegate | .sNegate => some "-"
  | .not => some "~"
  | .logicalNot => some "!"
  | _ => none

inductive Conversion
  | plain
  | signed
  | unsigned

def Conversion.ofOp? : Op → Option Conversion
  | .convertFToU | .convertFToS | .fConvert => some .plain
  | .convertSToF | .sConvert => some .signed
  | .convertUToF | .uConvert => some .unsigned
  | _ => none

namespace Emit

/-- The product of a matrix and a vector. A matrix whose stored, transposed value has a name is
multiplied from the other side. -/
def matrixVector (inst : Instruction) : Emit String := do
  need inst 4
  let left ← word inst 2
  let right ← word inst 3
  let matrixFirst := decide (inst.op = .matrixTimesVector)
  let (matrix, vector) := if matrixFirst then (left, right) else (right, left)
  match (← get).pass.transposed.find? matrix, matrixFirst with
  | some raw, true => return s!"({← text vector} * {raw})"
  | some raw, false => return s!"({raw} * {← text vector})"
  | none, _ => return s!"({← text left} * {← text right})"

def outerProduct (inst : Instruction) : Emit String := do
  need inst 4
  let type ← word inst 0
  let first ← text (← word inst 2)
  let second ← text (← word inst 3)
  let columns := (List.range (← getType type).columns).map fun column =>
    s!"{first} * {enclose second}.{componentLetter column}"
  return applied (← typeName type) columns

def select (inst : Instruction) : Emit String := do
  need inst 5
  let condition ← word inst 2
  let accepted ← word inst 3
  let rejected ← word inst 4
  let c ← get
  if 1 < (← c.program.expressionType condition).components then
    c.callText "select" [rejected, accepted, condition]
  else
    let chosen ← text condition
    let first ← text accepted
    return s!"({chosen} ? {first} : {← text rejected})"

/-- Offsets and counts of bit fields are unsigned. -/
def bitField (name : String) (inst : Instruction) (values : List Nat) (bounds : List Nat) :
    Emit String := do
  let values ← values.mapM fun index => do text (← word inst index)
  let bounds ← bounds.mapM fun index => do textAs (← word inst index) false
  return applied name (values ++ bounds)

def binaryText (symbol : BinarySymbol) (left right : String) : String :=
  s!"({left} {symbol.text} {right})"

def conversion (inst : Instruction) (conversion : Conversion) : Emit String := do
  let name ← typeName (← word inst 0)
  let operand ← word inst 2
  match conversion with
  | .plain => return s!"{name}({← text operand})"
  | .signed => return s!"{name}({← textAs operand true})"
  | .unsigned => return s!"{name}({← textAs operand false})"

def binaryOperation? (inst : Instruction) : Option (Emit String) :=
  let operands : Emit (String × String) := do
    need inst 4
    let left ← text (← word inst 2)
    return (left, ← text (← word inst 3))
  match BinaryOperator.ofOp? inst.op, BinarySymbol.ofFloatOp? inst.op,
      BinarySymbol.ofUnorderedOp? inst.op with
  | some operator, _, _ => some do
    need inst 4
    let c ← get
    c.integerText inst.op operator (← word inst 0) (← word inst 2) (← word inst 3)
  | none, some symbol, _ => some do
    let (left, right) ← operands
    return binaryText symbol left right
  | none, none, some symbol => some do
    let (left, right) ← operands
    return s!"(isnan({left}) || isnan({right}) || {binaryText symbol left right})"
  | none, none, none => none

def plainOperation? (inst : Instruction) : Option (Emit String) :=
  match unaryFunction? inst.op, binaryFunction? inst.op, unarySymbol? inst.op,
      Conversion.ofOp? inst.op with
  | some name, _, _, _ => some do (← get).callText name [← word inst 2]
  | _, some name, _, _ => some do
    need inst 4
    (← get).callText name [← word inst 2, ← word inst 3]
  | _, _, some symbol, _ => some do return symbol ++ enclose (← text (← word inst 2))
  | _, _, _, some found => some (conversion inst found)
  | none, none, none, none => none

def arithmetic (inst : Instruction) : Emit String := do
  match binaryOperation? inst, plainOperation? inst with
  | some operation, _ => operation
  | none, some operation => operation
  | none, none =>
    match inst.op with
    | .matrixTimesVector | .vectorTimesMatrix => matrixVector inst
    | .outerProduct => outerProduct inst
    | .select => select inst
    | .bitcast =>
      let name ← typeName (← word inst 0)
      return s!"as_type<{name}>({← text (← word inst 2)})"
    | .quantizeToF16 =>
      let type ← word inst 0
      let components := (← getType type).components
      let name ← typeName type
      let half ← TypeName.numeric .half components 1
      return s!"{name}({half}({← text (← word inst 2)}))"
    | .bitFieldInsert =>
      need inst 6
      bitField "insert_bits" inst [2, 3] [4, 5]
    | .bitFieldSExtract | .bitFieldUExtract =>
      need inst 5
      bitField "extract_bits" inst [2] [3, 4]
    | .arrayLength => fail (.unsupported .arrayLengthQuery)
    | op => fail (.unsupported (.instruction op))

end Emit

end SpirvMetal
