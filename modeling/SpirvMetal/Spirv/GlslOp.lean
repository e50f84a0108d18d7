/-!
The `GLSL.std.450` extended instructions.
-/

namespace SpirvMetal.Spirv

inductive GlslOp
  | round | roundEven | trunc | fAbs | sAbs | fSign | sSign | floor | ceil | fract | radians
  | degrees | sin | cos | tan | asin | acos | atan | sinh | cosh | tanh | asinh | acosh | atanh
  | atan2 | pow | exp | log | exp2 | log2 | sqrt | inverseSqrt | determinant | matrixInverse | modf
  | modfStruct | fMin | uMin | sMin | fMax | uMax | sMax | fClamp | uClamp | sClamp | fMix | iMix
  | step | smoothStep | fma | frexp | frexpStruct | ldexp | packSnorm4x8 | packUnorm4x8
  | packSnorm2x16 | packUnorm2x16 | packHalf2x16 | packDouble2x32 | unpackSnorm2x16
  | unpackUnorm2x16 | unpackHalf2x16 | unpackSnorm4x8 | unpackUnorm4x8 | unpackDouble2x32 | length
  | distance | cross | normalize | faceForward | reflect | refract | findILsb | findSMsb | findUMsb
  | interpolateAtCentroid | interpolateAtSample | interpolateAtOffset | nMin | nMax | nClamp
deriving DecidableEq

namespace GlslOp

def entry : GlslOp → Nat × String
  | .round => (1, "Round") | .roundEven => (2, "RoundEven") | .trunc => (3, "Trunc")
  | .fAbs => (4, "FAbs") | .sAbs => (5, "SAbs") | .fSign => (6, "FSign") | .sSign => (7, "SSign")
  | .floor => (8, "Floor") | .ceil => (9, "Ceil") | .fract => (10, "Fract")
  | .radians => (11, "Radians") | .degrees => (12, "Degrees") | .sin => (13, "Sin")
  | .cos => (14, "Cos") | .tan => (15, "Tan") | .asin => (16, "Asin") | .acos => (17, "Acos")
  | .atan => (18, "Atan") | .sinh => (19, "Sinh") | .cosh => (20, "Cosh") | .tanh => (21, "Tanh")
  | .asinh => (22, "Asinh") | .acosh => (23, "Acosh") | .atanh => (24, "Atanh")
  | .atan2 => (25, "Atan2") | .pow => (26, "Pow") | .exp => (27, "Exp") | .log => (28, "Log")
  | .exp2 => (29, "Exp2") | .log2 => (30, "Log2") | .sqrt => (31, "Sqrt")
  | .inverseSqrt => (32, "InverseSqrt") | .determinant => (33, "Determinant")
  | .matrixInverse => (34, "MatrixInverse") | .modf => (35, "Modf")
  | .modfStruct => (36, "ModfStruct") | .fMin => (37, "FMin") | .uMin => (38, "UMin")
  | .sMin => (39, "SMin") | .fMax => (40, "FMax") | .uMax => (41, "UMax") | .sMax => (42, "SMax")
  | .fClamp => (43, "FClamp") | .uClamp => (44, "UClamp") | .sClamp => (45, "SClamp")
  | .fMix => (46, "FMix") | .iMix => (47, "IMix") | .step => (48, "Step")
  | .smoothStep => (49, "SmoothStep") | .fma => (50, "Fma") | .frexp => (51, "Frexp")
  | .frexpStruct => (52, "FrexpStruct") | .ldexp => (53, "Ldexp")
  | .packSnorm4x8 => (54, "PackSnorm4x8") | .packUnorm4x8 => (55, "PackUnorm4x8")
  | .packSnorm2x16 => (56, "PackSnorm2x16") | .packUnorm2x16 => (57, "PackUnorm2x16")
  | .packHalf2x16 => (58, "PackHalf2x16") | .packDouble2x32 => (59, "PackDouble2x32")
  | .unpackSnorm2x16 => (60, "UnpackSnorm2x16") | .unpackUnorm2x16 => (61, "UnpackUnorm2x16")
  | .unpackHalf2x16 => (62, "UnpackHalf2x16") | .unpackSnorm4x8 => (63, "UnpackSnorm4x8")
  | .unpackUnorm4x8 => (64, "UnpackUnorm4x8") | .unpackDouble2x32 => (65, "UnpackDouble2x32")
  | .length => (66, "Length") | .distance => (67, "Distance") | .cross => (68, "Cross")
  | .normalize => (69, "Normalize") | .faceForward => (70, "FaceForward")
  | .reflect => (71, "Reflect") | .refract => (72, "Refract") | .findILsb => (73, "FindILsb")
  | .findSMsb => (74, "FindSMsb") | .findUMsb => (75, "FindUMsb")
  | .interpolateAtCentroid => (76, "InterpolateAtCentroid")
  | .interpolateAtSample => (77, "InterpolateAtSample")
  | .interpolateAtOffset => (78, "InterpolateAtOffset") | .nMin => (79, "NMin")
  | .nMax => (80, "NMax") | .nClamp => (81, "NClamp")

def code (op : GlslOp) : Nat := op.entry.1

def name (op : GlslOp) : String := op.entry.2

def all : List GlslOp := (List.range (nClamp.ctorIdx + 1)).map ofNat

def ofCode? (code : Nat) : Option GlslOp := all.find? (·.code == code)

end GlslOp

end SpirvMetal.Spirv
