/-!
What a value is made of: the kind of its scalar components, or one of the kinds that have none.
-/

namespace SpirvMetal

inductive IntWidth
  | w8 | w16 | w32 | w64
deriving DecidableEq

inductive FloatWidth
  | half | single | double
deriving DecidableEq

namespace IntWidth

def bits : IntWidth → Nat
  | .w8 => 8
  | .w16 => 16
  | .w32 => 32
  | .w64 => 64

def ofBits? (bits : Nat) : Option IntWidth :=
  [IntWidth.w8, .w16, .w32, .w64].find? (·.bits = bits)

end IntWidth

namespace FloatWidth

def bits : FloatWidth → Nat
  | .half => 16
  | .single => 32
  | .double => 64

def ofBits? (bits : Nat) : Option FloatWidth :=
  [FloatWidth.half, .single, .double].find? (·.bits = bits)

end FloatWidth

inductive BaseType
  | unknown
  | void
  | boolean
  | integer (width : IntWidth) (signed : Bool)
  | floating (width : FloatWidth)
  | struct
  | image
  | sampledImage
  | sampler
deriving DecidableEq

namespace BaseType

abbrev int : BaseType := .integer .w32 true

abbrev uint : BaseType := .integer .w32 false

abbrev half : BaseType := .floating .half

abbrev float : BaseType := .floating .single

abbrev double : BaseType := .floating .double

def isInteger : BaseType → Bool
  | .integer _ _ => true
  | _ => false

def isSigned : BaseType → Bool
  | .integer _ signed => signed
  | _ => false

def isFloat : BaseType → Bool
  | .floating _ => true
  | _ => false

def isOpaque : BaseType → Bool
  | .image | .sampledImage | .sampler => true
  | _ => false

def withSignedness (base : BaseType) (signed : Bool) : BaseType :=
  match base with
  | .integer width _ => .integer width signed
  | other => other

def name : BaseType → String
  | .unknown => "Unknown"
  | .void => "Void"
  | .boolean => "Boolean"
  | .integer .w8 true => "SByte"
  | .integer .w8 false => "UByte"
  | .integer .w16 true => "Short"
  | .integer .w16 false => "UShort"
  | .integer .w32 true => "Int"
  | .integer .w32 false => "UInt"
  | .integer .w64 true => "Int64"
  | .integer .w64 false => "UInt64"
  | .floating .half => "Half"
  | .floating .single => "Float"
  | .floating .double => "Double"
  | .struct => "Struct"
  | .image => "Image"
  | .sampledImage => "SampledImage"
  | .sampler => "Sampler"

def all : List BaseType :=
  [.unknown, .void, .boolean, .integer .w8 true, .integer .w8 false, .integer .w16 true,
    .integer .w16 false, .integer .w32 true, .integer .w32 false, .integer .w64 true,
    .integer .w64 false, .floating .half, .floating .single, .floating .double, .struct,
    .image, .sampledImage, .sampler]

def ofName? (name : String) : Option BaseType := all.find? (·.name = name)

end BaseType

end SpirvMetal
