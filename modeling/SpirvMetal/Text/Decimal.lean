/-!
Decimal text of binary floating-point numbers: the fewest digits that read back as the same number,
written without an exponent.
-/

namespace SpirvMetal.Text

structure FloatFormat where
  fraction : Nat
  exponent : Nat

namespace FloatFormat

def half : FloatFormat := ⟨10, 5⟩

def single : FloatFormat := ⟨23, 8⟩

def double : FloatFormat := ⟨52, 11⟩

end FloatFormat

/-- The number that bits stand for. A finite number is `significand * 2 ^ exponent`. -/
inductive Number
  | nan
  | infinite (negative : Bool)
  | finite (negative : Bool) (significand : Nat) (exponent : Int)

/-- Read a number from its bits: sign, biased exponent and fraction, with a leading one that is not
stored unless the exponent is zero. -/
def Number.ofBits (format : FloatFormat) (bits : Nat) : Number :=
  let fraction := bits % Nat.pow 2 format.fraction
  let biased := bits / Nat.pow 2 format.fraction % Nat.pow 2 format.exponent
  let negative := bits / Nat.pow 2 (format.fraction + format.exponent) % 2 = 1
  let bias : Int := (Nat.pow 2 (format.exponent - 1) : Nat) - 1 + format.fraction
  if biased = Nat.pow 2 format.exponent - 1 then
    if fraction = 0 then .infinite negative else .nan
  else if biased = 0 then .finite negative fraction (1 - bias)
  else .finite negative (fraction + Nat.pow 2 format.fraction) (biased - bias)

def normalize (format : FloatFormat) (significand : Nat) (exponent : Int) : Nat × Int :=
  let shift := format.fraction - significand.log2
  (significand * Nat.pow 2 shift, exponent - shift)

structure Ratio where
  num : Nat
  den : Nat

def Ratio.ofBinary (significand : Nat) (exponent : Int) : Ratio :=
  if 0 ≤ exponent then ⟨significand * Nat.pow 2 exponent.toNat, 1⟩
  else ⟨significand, Nat.pow 2 (-exponent).toNat⟩

def Ratio.inUnits (r : Ratio) (place : Int) : Ratio :=
  if 0 ≤ place then ⟨r.num, r.den * Nat.pow 10 place.toNat⟩
  else ⟨r.num * Nat.pow 10 (-place).toNat, r.den⟩

/-- The reals that read back as a number lie between `low` and `high`; the ends do too if the
significand is even. -/
structure Interval where
  low : Ratio
  value : Ratio
  high : Ratio
  closed : Bool

/-- Halfway to the neighbours. Below a power of two the neighbour is half as far away. -/
def Interval.around (format : FloatFormat) (significand : Nat) (exponent : Int) : Interval where
  low :=
    if significand = Nat.pow 2 format.fraction then
      Ratio.ofBinary (4 * significand - 1) (exponent - 2)
    else Ratio.ofBinary (2 * significand - 1) (exponent - 1)
  value := Ratio.ofBinary significand exponent
  high := Ratio.ofBinary (2 * significand + 1) (exponent - 1)
  closed := significand % 2 = 0

def Interval.admits (interval : Interval) (place : Int) (digits : Nat) : Bool :=
  let low := interval.low.inUnits place
  let high := interval.high.inUnits place
  if interval.closed then low.num ≤ digits * low.den && digits * high.den ≤ high.num
  else low.num < digits * low.den && digits * high.den < high.num

/-- Of the two neighbours of the value with last digit at `place`, the nearest that reads back; the
upper one if both are equally near. -/
def Interval.nearest? (interval : Interval) (place : Int) : Option Nat :=
  let value := interval.value.inUnits place
  let below := value.num / value.den
  match interval.admits place below, interval.admits place (below + 1) with
  | false, false => none
  | true, false => some below
  | false, true => some (below + 1)
  | true, true => some (if 2 * (value.num % value.den) < value.den then below else below + 1)

def digitCount (n : Nat) : Nat := (Nat.toDigits 10 n).length

def topPlace (value : Ratio) : Int :=
  if value.den ≤ value.num then (digitCount (value.num / value.den) : Int)
  else 1 - (digitCount (value.den / value.num) : Int)

/-- Go down from `place` until some decimal reads back. A number of the formats needs at most
seventeen digits, so a few more steps than that find one. -/
def search (interval : Interval) : (steps : Nat) → (place : Int) → Nat × Int
  | 0, place => (interval.value.num / interval.value.den, place)
  | steps + 1, place =>
    match interval.nearest? place with
    | some digits => (digits, place)
    | none => search interval steps (place - 1)

/-- The shortest decimal that reads back: its digits and the place of the last one. -/
def shortest (format : FloatFormat) (significand : Nat) (exponent : Int) : Nat × Int :=
  let interval := Interval.around format significand exponent
  search interval 24 (topPlace interval.value)

def positional (digits : Nat) (place : Int) : String :=
  let text := Nat.toDigits 10 digits
  if 0 ≤ place then String.ofList (text ++ List.replicate place.toNat '0')
  else
    let behind := (-place).toNat
    let padded := List.replicate (behind + 1 - text.length) '0' ++ text
    let ahead := padded.length - behind
    String.ofList (padded.take ahead ++ ['.'] ++ padded.drop ahead)

def decimal (format : FloatFormat) (negative : Bool) (significand : Nat) (exponent : Int) :
    String :=
  let magnitude :=
    if significand = 0 then "0"
    else
      let (digits, place) := shortest format significand exponent
      positional digits place
  if negative then "-" ++ magnitude else magnitude

end SpirvMetal.Text
