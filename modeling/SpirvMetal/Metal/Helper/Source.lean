import SpirvMetal.Metal.Compiler
import SpirvMetal.Metal.Helper.Inverse
import SpirvMetal.Metal.Helper.Swizzle

/-!
The text of every helper of the catalogue.
-/

namespace SpirvMetal

namespace HelperDefinition

def template (name comment : String) (head body : List String) : HelperDefinition where
  name
  lines := s!"// Implementation of {comment}" :: function head body

def mod : HelperDefinition :=
  template "mod" "the GLSL mod() function, which is slightly different than Metal fmod()"
    ["template<typename Tx, typename Ty>", "Tx mod(Tx x, Ty y)"]
    ["return x - y * floor(x / y);"]

def radians : HelperDefinition :=
  template "radians" "the GLSL radians() function" ["template<typename T>", "T radians(T d)"]
    ["return d * T(0.01745329251);"]

def degrees : HelperDefinition :=
  template "degrees" "the GLSL degrees() function" ["template<typename T>", "T degrees(T r)"]
    ["return r * T(57.2957795131);"]

def findLsb : HelperDefinition :=
  template "findLSB" "the GLSL findLSB() function" ["template<typename T>", "T findLSB(T x)"]
    ["return select(ctz(x), T(-1), x == T(0));"]

def findSignedMsb : HelperDefinition :=
  template "findSMSB" "the signed GLSL findMSB() function"
    ["template<typename T>", "T findSMSB(T x)"]
    ["T v = select(x, T(-1) - x, x < T(0));",
      "return select(clz(T(0)) - (clz(v) + T(1)), T(-1), v == T(0));"]

def findUnsignedMsb : HelperDefinition :=
  template "findUMSB" "the unsigned GLSL findMSB() function"
    ["template<typename T>", "T findUMSB(T x)"]
    ["return select(clz(T(0)) - (clz(x) + T(1)), T(-1), x == T(0));"]

def sign : HelperDefinition :=
  template "sign" "the GLSL sign() function for integer types"
    ["template<typename T, typename E = typename enable_if<is_integral<T>::value>::type>",
      "T sign(T x)"]
    ["return select(select(select(x, T(0), x == T(0)), T(1), x > T(0)), T(-1), x < T(0));"]

inductive CopySource
  | stack
  | constant
deriving DecidableEq

def CopySource.name : CopySource → String
  | .stack => "FromStack"
  | .constant => "FromConstant"

def CopySource.space : CopySource → String
  | .stack => "thread const"
  | .constant => "constant"

def copyName (source : CopySource) (depth : Nat) : String := s!"spvArrayCopy{source.name}{depth}"

def plainCopy (source : CopySource) : HelperDefinition where
  name := copyName source 1
  lines :=
    (if source = .stack then
      ["// Implementation of an array copy function to cover GLSL's ability to copy an array " ++
        "via assignment."] else []) ++
    function
      ["template<typename T, uint N>",
        s!"void {copyName source 1}(thread T (&dst)[N], {source.space} T (&src)[N])"]
      ["for (uint i = 0; i < N; dst[i] = src[i], i++);"]

def nestedCopy (source : CopySource) (depth : Nat) : HelperDefinition where
  name := copyName source depth
  calls := [copyName source (depth - 1)]
  lines :=
    let letters := ["A", "B", "C", "D", "E", "F"].take depth
    let parameters := String.join (letters.map fun letter => s!", uint {letter}")
    let extents := String.join (letters.map fun letter => s!"[{letter}]")
    function
      [s!"template<typename T{parameters}>",
        s!"void {copyName source depth}(thread T (&dst){extents}, " ++
          s!"{source.space} T (&src){extents})"]
      ("for (uint i = 0; i < A; i++)" ::
        enclosed [s!"{copyName source (depth - 1)}(dst[i], src[i]);"])

def arrayCopy (depth : Nat) (source : CopySource) : HelperDefinition :=
  if depth = 1 then plainCopy source else nestedCopy source depth

def texelBufferCoords (width : Nat) : HelperDefinition where
  name := "spvTexelBufferCoord"
  lines :=
    "// Returns 2D texture coords corresponding to 1D texel buffer coords" ::
    function ["uint2 spvTexelBufferCoord(uint tc)"]
      [s!"return uint2(tc % {width}, tc / {width});"]

/-- Where the element in a column and a row is found when what is stored row after row has been
read column after column. -/
def rowMajorElement (columns rows column row : Nat) : Nat × Nat :=
  let place := row * columns + column
  (place / rows, place % rows)

def rowMajorColumn (columns rows column : Nat) : String :=
  let elements := (List.range rows).map fun row =>
    let (i, j) := rowMajorElement columns rows column row
    s!"m[{i}][{j}]"
  applied s!"float{rows}" elements

def rowMajor (columns rows : Nat) : HelperDefinition where
  name := s!"spvConvertFromRowMajor{columns}x{rows}"
  lines :=
    let matrix := s!"float{columns}x{rows}"
    let parts := (List.range columns).map (rowMajorColumn columns rows)
    ("// Implementation of a conversion of matrix content from RowMajor to ColumnMajor " ++
      "organization.") ::
    function [s!"{matrix} spvConvertFromRowMajor{columns}x{rows}({matrix} m)"]
      ["return " ++ applied matrix parts ++ ";"]

end HelperDefinition

namespace Helper

open HelperDefinition in
def definitions (texelBufferWidth : Nat) (registered : List Helper) :
    Helper → List HelperDefinition
  | mod => [HelperDefinition.mod]
  | radians => [HelperDefinition.radians]
  | degrees => [HelperDefinition.degrees]
  | findILsb => [findLsb]
  | findSMsb => [findSignedMsb]
  | findUMsb => [findUnsignedMsb]
  | sign => [HelperDefinition.sign]
  | arrayCopy depth => [CopySource.stack, .constant].map (HelperDefinition.arrayCopy depth)
  | texelBufferCoords => [HelperDefinition.texelBufferCoords texelBufferWidth]
  | inverse4x4 => [determinant2, determinant3, inverse 4]
  | inverse3x3 => if inverse4x4 ∈ registered then [inverse 3] else [determinant2, inverse 3]
  | inverse2x2 => [inverse 2]
  | rowMajor2x3 => [rowMajor 2 3]
  | rowMajor2x4 => [rowMajor 2 4]
  | rowMajor3x2 => [rowMajor 3 2]
  | rowMajor3x4 => [rowMajor 3 4]
  | rowMajor4x2 => [rowMajor 4 2]
  | rowMajor4x3 => [rowMajor 4 3]
  | textureSwizzle => swizzle

def lines (texelBufferWidth : Nat) (registered : List Helper) (helper : Helper) : List String :=
  let pieces := (helper.definitions texelBufferWidth registered).map (·.lines)
  match helper with
  | textureSwizzle => pieces.flatten
  | _ => HelperDefinition.separated pieces

end Helper

namespace Emit

def helpers : Emit Unit := do
  let c ← get
  c.session.helpers.forM fun helper => do
    (helper.lines c.options.texelBufferWidth c.session.helpers).forM statement
    statement ""

end Emit

end SpirvMetal
