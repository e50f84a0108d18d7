/-!
Parentheses around expressions that become operands.
-/

namespace SpirvMetal

/-- Whether the parentheses are balanced and none but the last character closes the outermost. -/
def closesAtEnd : (depth : Int) → List Char → Bool
  | depth, [] => depth = 0
  | depth, c :: rest =>
    if c = '(' then closesAtEnd (depth + 1) rest
    else if c = ')' then
      if depth - 1 = 0 && !rest.isEmpty then false else closesAtEnd (depth - 1) rest
    else closesAtEnd depth rest

def isPlainOperand (chars : List Char) : Bool :=
  chars.all fun c => c.isAlphanum || c = '_' || c = '.'

def isParenthesized (chars : List Char) : Bool :=
  chars.head? = some '(' && chars.getLast? = some ')' && closesAtEnd 0 chars

def enclose (expression : String) : String :=
  let chars := expression.toList
  if isPlainOperand chars || isParenthesized chars then expression else s!"({expression})"

end SpirvMetal
