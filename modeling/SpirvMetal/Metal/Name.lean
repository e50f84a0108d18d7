import SpirvMetal.Metal.Compiler

/-!
Names in the output. They come from the names of the program, made legal once before the first pass,
and fall back to the id.
-/

namespace SpirvMetal

namespace Name

def reserved : List String := [
  "kernel", "vertex", "fragment", "compute", "bias", "assert", "texture", "sampler", "constant",
  "device", "threadgroup", "thread", "VARIABLE_TRACEPOINT", "STATIC_DATA_TRACEPOINT",
  "STATIC_DATA_TRACEPOINT_V", "METAL_ALIGN", "METAL_ASM", "METAL_CONST", "METAL_DEPRECATED",
  "METAL_ENABLE_IF", "METAL_FUNC", "METAL_INTERNAL", "METAL_NON_NULL_RETURN", "METAL_NORETURN",
  "METAL_NOTHROW", "METAL_PURE", "METAL_UNAVAILABLE", "METAL_IMPLICIT", "METAL_EXPLICIT",
  "METAL_CONST_ARG", "METAL_ARG_UNIFORM", "METAL_ZERO_ARG", "METAL_VALID_LOD_ARG",
  "METAL_VALID_LEVEL_ARG", "METAL_VALID_STORE_ORDER", "METAL_VALID_LOAD_ORDER",
  "METAL_VALID_COMPARE_EXCHANGE_FAILURE_ORDER", "METAL_COMPATIBLE_COMPARE_EXCHANGE_ORDERS",
  "METAL_VALID_RENDER_TARGET", "is_function_constant_defined", "CHAR_BIT", "SCHAR_MAX",
  "SCHAR_MIN", "UCHAR_MAX", "CHAR_MAX", "CHAR_MIN", "USHRT_MAX", "SHRT_MAX", "SHRT_MIN",
  "UINT_MAX", "INT_MAX", "INT_MIN", "FLT_DIG", "FLT_MANT_DIG", "FLT_MAX", "FLT_MIN",
  "FLT_EPSILON", "FP_ILOGB0", "FP_ILOGBNAN", "INFINITY", "NAN", "MAXFLOAT", "HUGE_VALF", "MAXHALF",
  "M_PI_F", "M_E_F"]

def reservedForFunctions : List String :=
  ["main", "saturate", "assert", "kernel", "vertex", "fragment", "is_function_constant_defined",
    "INFINITY", "NAN"]

def collapse : (afterUnderscore : Bool) → List Char → List Char
  | _, [] => []
  | afterUnderscore, c :: rest =>
    if c.isAlphanum then c :: collapse false rest
    else if afterUnderscore then collapse true rest
    else '_' :: collapse true rest

def guardDigit : List Char → List Char
  | [] => []
  | c :: rest => if c.isDigit then '_' :: c :: rest else c :: rest

def sanitize (name : String) : String := String.ofList (guardDigit (collapse false name.toList))

def legal (taken : List String) (name : String) : String :=
  let name := sanitize name
  if name ∈ taken then name ++ "0" else name

def avoidTemporary (name start : String) : String :=
  match name.toList with
  | '_' :: c :: _ => if c.isDigit then start ++ name else name
  | _ => name

def withSuffix (expression suffix : String) : String :=
  let chars := expression.toList
  let name := chars.takeWhile (· ≠ '[')
  String.ofList name ++ suffix ++ String.ofList (chars.drop name.length)

end Name

namespace Program

variable (program : Program)

def legalizeName (taken : List String) (id : Id) : Program :=
  let name := program.name id
  if name.isEmpty then program else program.setName id (Name.legal taken name)

def legalizeMember (struct : Id) (member : Nat) : Program :=
  let name := program.memberName struct member
  if name.isEmpty then program
  else program.setMemberName struct member (Name.legal Name.reserved name)

def legalizeStruct (entry : Id × ValueType) : Program :=
  let (id, type) := entry
  let named := (List.range type.members.length).foldl (fun p m => p.legalizeMember id m) program
  named.legalizeName Name.reserved id

/-- Make the names of variables, functions, structs and members legal. The function of the entry
point is named after the entry point. -/
def legalizeNames (entry : Id) : Except Fault Program := do
  let functionNames := Name.reservedForFunctions ++ Name.reserved
  let program := (program.vars.map (·.1)).foldl (·.legalizeName Name.reserved ·) program
  let program := (program.functions.map (·.1)).foldl (·.legalizeName functionNames ·) program
  let structs := program.types.filter (·.2.isStruct)
  let program := structs.foldl (·.legalizeStruct ·) program
  let name := Name.legal functionNames (← program.entryPoint).name
  let entryPoints :=
    match program.entryPoints.find? entry with
    | some point => program.entryPoints.insert entry { point with name }
    | none => program.entryPoints
  return { program with entryPoints }.setName entry name

def plainName (id : Id) : String :=
  let name := program.name id
  if name.isEmpty then s!"_{id}" else name

def plainMemberName (struct member : Nat) : String :=
  let name := program.memberName struct member
  if name.isEmpty then s!"_m{member}" else name

end Program

namespace Compiler

def nameOf (c : Compiler) (id : Id) : String :=
  match c.inEntry, c.program.standIn? id with
  | true, some text => text
  | _, _ => c.program.plainName id

end Compiler

end SpirvMetal
