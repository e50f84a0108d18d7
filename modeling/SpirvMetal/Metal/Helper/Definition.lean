import SpirvMetal.Text.Applied

/-!
Helper functions as text: what each piece of text defines, what it calls, and its lines.
-/

namespace SpirvMetal

structure HelperDefinition where
  name : String
  calls : List String := []
  lines : List String

namespace HelperDefinition

def indented (lines : List String) : List String :=
  lines.map fun line => if line.isEmpty then line else "    " ++ line

def enclosed (lines : List String) : List String := ["\x7b"] ++ indented lines ++ ["\x7d"]

def function (head : List String) (body : List String) : List String := head ++ enclosed body

def separated : List (List String) → List String
  | [] => []
  | [piece] => piece
  | piece :: rest => piece ++ [""] ++ separated rest

end HelperDefinition

end SpirvMetal
