/-!
Calls and constructions as text.
-/

namespace SpirvMetal

def applied (callee : String) (arguments : List String) : String :=
  callee ++ "(" ++ ", ".intercalate arguments ++ ")"

end SpirvMetal
