import SpirvMetal.Text.Printable

/-!
Text shown between quotes in a diagnostic: quotes, backslashes and characters that do not show on
their own are escaped, every other character stands for itself.
-/

namespace SpirvMetal.Text

def hex (n : Nat) : String := String.ofList (Nat.toDigits 16 n)

def escapedChar (c : Char) : String :=
  match c with
  | '"' => "\\\""
  | '\\' => "\\\\"
  | '\n' => "\\n"
  | '\r' => "\\r"
  | '\t' => "\\t"
  | c =>
    if c.toNat = 0 then "\\0"
    else if isPrintable c then c.toString
    else "\\u\x7b" ++ hex c.toNat ++ "\x7d"

def quoted (text : String) : String :=
  "\"" ++ String.join (text.toList.map escapedChar) ++ "\""

end SpirvMetal.Text
