/-!
The catalogue of helper functions that are written ahead of the code that calls them. The order of
the catalogue is the order of writing.
-/

namespace SpirvMetal

inductive Helper
  | mod
  | radians
  | degrees
  | findILsb
  | findSMsb
  | findUMsb
  | sign
  | arrayCopy (depth : Nat)
  | texelBufferCoords
  | inverse4x4
  | inverse3x3
  | inverse2x2
  | rowMajor2x3
  | rowMajor2x4
  | rowMajor3x2
  | rowMajor3x4
  | rowMajor4x2
  | rowMajor4x3
  | textureSwizzle
deriving DecidableEq

namespace Helper

def maxArrayDepth : Nat := 6

def place : Helper → Nat
  | mod => 0
  | radians => 1
  | degrees => 2
  | findILsb => 3
  | findSMsb => 4
  | findUMsb => 5
  | sign => 6
  | arrayCopy _ => 7
  | texelBufferCoords => 8
  | inverse4x4 => 9
  | inverse3x3 => 10
  | inverse2x2 => 11
  | rowMajor2x3 => 12
  | rowMajor2x4 => 13
  | rowMajor3x2 => 14
  | rowMajor3x4 => 15
  | rowMajor4x2 => 16
  | rowMajor4x3 => 17
  | textureSwizzle => 18

def depth : Helper → Nat
  | arrayCopy depth => depth
  | _ => 0

def before (a b : Helper) : Bool :=
  a.place < b.place || (a.place == b.place && a.depth < b.depth)

def closure : Helper → List Helper
  | arrayCopy depth => (List.range (max depth 1)).reverse.map fun below => arrayCopy (below + 1)
  | helper => [helper]

def rowMajor? (columns rows : Nat) : Option Helper :=
  match columns, rows with
  | 2, 3 => some rowMajor2x3
  | 2, 4 => some rowMajor2x4
  | 3, 2 => some rowMajor3x2
  | 3, 4 => some rowMajor3x4
  | 4, 2 => some rowMajor4x2
  | 4, 3 => some rowMajor4x3
  | _, _ => none

def inverse? (columns : Nat) : Option Helper :=
  match columns with
  | 2 => some inverse2x2
  | 3 => some inverse3x3
  | 4 => some inverse4x4
  | _ => none

def name : Helper → String
  | mod => "Mod"
  | radians => "Radians"
  | degrees => "Degrees"
  | findILsb => "FindILsb"
  | findSMsb => "FindSMsb"
  | findUMsb => "FindUMsb"
  | sign => "SSign"
  | arrayCopy depth => s!"ArrayCopy({depth})"
  | texelBufferCoords => "TexelBufferCoords"
  | inverse4x4 => "Inverse4x4"
  | inverse3x3 => "Inverse3x3"
  | inverse2x2 => "Inverse2x2"
  | rowMajor2x3 => "RowMajor2x3"
  | rowMajor2x4 => "RowMajor2x4"
  | rowMajor3x2 => "RowMajor3x2"
  | rowMajor3x4 => "RowMajor3x4"
  | rowMajor4x2 => "RowMajor4x2"
  | rowMajor4x3 => "RowMajor4x3"
  | textureSwizzle => "TextureSwizzle"

def named : List Helper :=
  [mod, radians, degrees, findILsb, findSMsb, findUMsb, sign, texelBufferCoords, inverse4x4,
    inverse3x3, inverse2x2, rowMajor2x3, rowMajor2x4, rowMajor3x2, rowMajor3x4, rowMajor4x2,
    rowMajor4x3, textureSwizzle]

def ofName? (name : String) : Option Helper := named.find? (·.name = name)

end Helper

end SpirvMetal
