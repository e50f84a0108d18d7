import SpirvMetal.Error
import SpirvMetal.Text.Decimal

/-!
Literals of scalar constants.
-/

namespace SpirvMetal.Literal

open SpirvMetal.Text

/-- Floating-point literals always show that they are: a point is added where there is none, and
what has no literal is written as a quotient. -/
def ofNumber (format : FloatFormat) : Number → String
  | .nan => "(0.0 / 0.0)"
  | .infinite false => "(1.0 / 0.0)"
  | .infinite true => "(-1.0 / 0.0)"
  | .finite negative significand exponent =>
    let text := decimal format negative significand exponent
    if text.toList.contains '.' then text else text ++ ".0"

/-- Halves have no literals of their own: they are written as doubles and converted. -/
def ofHalf (bits : Nat) : String :=
  let widened :=
    match Number.ofBits .half bits with
    | .finite negative significand exponent =>
      let (significand, exponent) :=
        if significand = 0 then (0, exponent) else normalize .double significand exponent
      Number.finite negative significand exponent
    | special => special
  s!"half({ofNumber .double widened})"

def signed (width bits : Nat) : Int :=
  let low := bits % Nat.pow 2 width
  if low < Nat.pow 2 (width - 1) then low else (low : Int) - (Nat.pow 2 width : Nat)

def unsigned (width bits : Nat) : Nat := bits % Nat.pow 2 width

def ofInt (value : Int) : String :=
  if value = -2147483648 then "(-2147483647 - 1)" else toString value

def ofScalar (base : BaseType) (bits : Nat) : Except Fault String :=
  match base with
  | .boolean => .ok (if bits ≠ 0 then "true" else "false")
  | .floating .single => .ok (ofNumber .single (Number.ofBits .single bits))
  | .floating .double => .ok (ofNumber .double (Number.ofBits .double bits))
  | .floating .half => .ok (ofHalf bits)
  | .integer .w32 true => .ok (ofInt (signed 32 bits))
  | .integer .w32 false => .ok s!"{unsigned 32 bits}u"
  | .integer .w64 true => .ok s!"{signed 64 bits}l"
  | .integer .w64 false => .ok s!"{bits}ul"
  | .integer .w16 true => .ok s!"short({signed 16 bits})"
  | .integer .w16 false => .ok s!"ushort({unsigned 16 bits})"
  | .integer .w8 true => .ok s!"char({signed 8 bits})"
  | .integer .w8 false => .ok s!"uchar({unsigned 8 bits})"
  | other => .error (.internal (.noLiteral other))

end SpirvMetal.Literal
