import SpirvMetal.Metal.TypeName

/-!
Operators of integers and truth values, component letters, and casts between signed and unsigned.
-/

namespace SpirvMetal

open Spirv (Op)

inductive BinarySymbol
  | add | sub | mul | div | rem
  | shiftLeft | shiftRight
  | bitOr | bitXor | bitAnd
  | logicalOr | logicalAnd
  | equal | notEqual | less | greater | lessEqual | greaterEqual
deriving DecidableEq

def BinarySymbol.text : BinarySymbol → String
  | .add => "+"
  | .sub => "-"
  | .mul => "*"
  | .div => "/"
  | .rem => "%"
  | .shiftLeft => "<<"
  | .shiftRight => ">>"
  | .bitOr => "|"
  | .bitXor => "^"
  | .bitAnd => "&"
  | .logicalOr => "||"
  | .logicalAnd => "&&"
  | .equal => "=="
  | .notEqual => "!="
  | .less => "<"
  | .greater => ">"
  | .lessEqual => "<="
  | .greaterEqual => ">="

structure BinaryOperator where
  symbol : BinarySymbol
  signed : Option Bool := none
deriving DecidableEq

def BinaryOperator.ofOp? : Op → Option BinaryOperator
  | .iAdd => some ⟨.add, none⟩
  | .iSub => some ⟨.sub, none⟩
  | .iMul => some ⟨.mul, none⟩
  | .uDiv => some ⟨.div, some false⟩
  | .sDiv => some ⟨.div, some true⟩
  | .uMod => some ⟨.rem, some false⟩
  | .sRem | .sMod => some ⟨.rem, some true⟩
  | .shiftLeftLogical => some ⟨.shiftLeft, none⟩
  | .shiftRightLogical => some ⟨.shiftRight, some false⟩
  | .shiftRightArithmetic => some ⟨.shiftRight, some true⟩
  | .bitwiseOr => some ⟨.bitOr, none⟩
  | .bitwiseXor => some ⟨.bitXor, none⟩
  | .bitwiseAnd => some ⟨.bitAnd, none⟩
  | .logicalOr => some ⟨.logicalOr, none⟩
  | .logicalAnd => some ⟨.logicalAnd, none⟩
  | .logicalEqual | .iEqual => some ⟨.equal, none⟩
  | .logicalNotEqual | .iNotEqual => some ⟨.notEqual, none⟩
  | .uLessThan => some ⟨.less, some false⟩
  | .sLessThan => some ⟨.less, some true⟩
  | .uGreaterThan => some ⟨.greater, some false⟩
  | .sGreaterThan => some ⟨.greater, some true⟩
  | .uLessThanEqual => some ⟨.lessEqual, some false⟩
  | .sLessThanEqual => some ⟨.lessEqual, some true⟩
  | .uGreaterThanEqual => some ⟨.greaterEqual, some false⟩
  | .sGreaterThanEqual => some ⟨.greaterEqual, some true⟩
  | _ => none

def componentLetter : Nat → String
  | 1 => "y"
  | 2 => "z"
  | 3 => "w"
  | _ => "x"

/-- The type that an integer has to be cast to so that it is signed or unsigned as wanted; none
when it is already, or when it is no integer. -/
def castTarget? (base : BaseType) (signed : Bool) : Option BaseType :=
  if base.isInteger && base.isSigned ≠ signed then some (base.withSignedness signed) else none

def castSignedness (expression : String) (type : ValueType) (signed : Bool) :
    Except Fault String :=
  match castTarget? type.base signed with
  | none => .ok expression
  | some target => return s!"{← TypeName.numeric target type.components 1}({expression})"

end SpirvMetal
