import SpirvMetal.Metal.Instruction.Value

/-!
The extended instructions for mathematical functions.
-/

namespace SpirvMetal

open Spirv (GlslOp)

namespace Spirv.GlslOp

def function? : GlslOp → Option String
  | .round => some "round"
  | .roundEven => some "rint"
  | .trunc => some "trunc"
  | .fAbs => some "abs"
  | .fSign | .sSign => some "sign"
  | .floor => some "floor"
  | .ceil => some "ceil"
  | .fract => some "fract"
  | .radians => some "radians"
  | .degrees => some "degrees"
  | .sin => some "sin"
  | .cos => some "cos"
  | .tan => some "tan"
  | .asin => some "asin"
  | .acos => some "acos"
  | .atan => some "atan"
  | .sinh => some "sinh"
  | .cosh => some "cosh"
  | .tanh => some "tanh"
  | .asinh => some "asinh"
  | .acosh => some "acosh"
  | .atanh => some "atanh"
  | .atan2 => some "atan2"
  | .pow => some "pow"
  | .exp => some "exp"
  | .log => some "log"
  | .exp2 => some "exp2"
  | .log2 => some "log2"
  | .sqrt => some "sqrt"
  | .inverseSqrt => some "rsqrt"
  | .determinant => some "determinant"
  | .modf => some "modf"
  | .frexp => some "frexp"
  | .ldexp => some "ldexp"
  | .fMin => some "fast::min"
  | .fMax => some "fast::max"
  | .fClamp => some "fast::clamp"
  | .nMin => some "precise::min"
  | .nMax => some "precise::max"
  | .nClamp => some "precise::clamp"
  | .fMix => some "mix"
  | .step => some "step"
  | .smoothStep => some "smoothstep"
  | .fma => some "fma"
  | .length => some "length"
  | .distance => some "distance"
  | .cross => some "cross"
  | .normalize => some "normalize"
  | .faceForward => some "faceforward"
  | .reflect => some "reflect"
  | .refract => some "refract"
  | .findILsb => some "findLSB"
  | .packSnorm4x8 => some "pack_float_to_snorm4x8"
  | .packUnorm4x8 => some "pack_float_to_unorm4x8"
  | .packSnorm2x16 => some "pack_float_to_snorm2x16"
  | .packUnorm2x16 => some "pack_float_to_unorm2x16"
  | .unpackSnorm4x8 => some "unpack_snorm4x8_to_float"
  | .unpackUnorm4x8 => some "unpack_unorm4x8_to_float"
  | .unpackSnorm2x16 => some "unpack_snorm2x16_to_float"
  | .unpackUnorm2x16 => some "unpack_unorm2x16_to_float"
  | _ => none

def integerFunction? : GlslOp → Option (String × Bool)
  | .sAbs => some ("abs", true)
  | .sMin => some ("min", true)
  | .sMax => some ("max", true)
  | .sClamp => some ("clamp", true)
  | .uMin => some ("min", false)
  | .uMax => some ("max", false)
  | .uClamp => some ("clamp", false)
  | .findSMsb => some ("findSMSB", true)
  | .findUMsb => some ("findUMSB", false)
  | _ => none

end Spirv.GlslOp

namespace Emit

def scalarGeometry? (inst : Instruction) (arguments : List Id) : GlslOp → Option (Emit String)
  | .length => some do (← get).callText "abs" arguments
  | .normalize => some do (← get).callText "sign" arguments
  | .distance => some do
    need inst 6
    let first ← text (← word inst 4)
    return s!"abs({first} - {enclose (← text (← word inst 5))})"
  | _ => none

def integerFunction (type : Id) (name : String) (signed : Bool) (arguments : List Id) :
    Emit String := do
  let c ← get
  let arguments ← arguments.mapM (c.textAs · signed)
  let call := applied name arguments
  let result := (← getType type).base
  if result.isInteger && result.isSigned ≠ signed then return s!"{← typeName type}({call})"
  else return call

def matrixInverse (type : Id) (arguments : List Id) : Emit String := do
  let columns := (← getType type).columns
  if (Helper.inverse? columns).isNone then fail (.unsupported (.inverse columns))
  (← get).callText s!"spvInverse{columns}x{columns}" arguments

def startsWithScalar (arguments : List Id) : Emit Bool := do
  match arguments.head? with
  | none => return false
  | some first =>
    let type ← (← get).program.expressionType first
    return type.components = 1 && type.columns = 1

def extendedText (inst : Instruction) (op : GlslOp) (type : Id) (arguments : List Id) :
    Emit String := do
  let geometry :=
    if ← startsWithScalar arguments then scalarGeometry? inst arguments op else none
  match geometry, op.integerFunction?, op.function? with
  | some operation, _, _ => operation
  | none, some (name, signed), _ => integerFunction type name signed arguments
  | none, none, some name => (← get).callText name arguments
  | none, none, none =>
    match op with
    | .matrixInverse => matrixInverse type arguments
    | .packHalf2x16 => return s!"as_type<uint>(half2({← text (← word inst 4)}))"
    | .unpackHalf2x16 => return s!"float2(as_type<half2>({← text (← word inst 4)}))"
    | op => fail (.unsupported (.glsl op))

def extended (inst : Instruction) : Emit Unit := do
  need inst 4
  let type ← word inst 0
  let result ← word inst 1
  let imported ← word inst 2
  let number ← word inst 3
  if (← get).program.importedSetAt? imported ≠ some .glslStd450 then
    fail (.unsupported (.extendedSet imported))
  match GlslOp.ofCode? number with
  | none => fail (.unsupported (.unknownGlsl number))
  | some op => define type result (← extendedText inst op type (inst.words.drop 4))

end Emit

end SpirvMetal
