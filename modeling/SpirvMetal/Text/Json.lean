/-!
Scanning JSON text from the left.

A scan takes characters off the front of the text or fails; it gives no reason, because the readers
built on it need none. `skipValue` passes over any value. Inside a value that is passed over an
escaped code unit needs four hexadecimal digits only, while `string` also asks that surrogates come
in pairs.
-/

namespace SpirvMetal.Json

abbrev Scan := StateT (List Char) Option

def isBlank (c : Char) : Bool := c = ' ' || c = '\n' || c = '\t' || c = '\r'

def next : Scan Char
  | [] => none
  | c :: rest => some (c, rest)

def take (expected : Char) : Scan Unit := do
  if (← next) = expected then return () else failure

def takeAll (expected : String) : Scan Unit := expected.toList.forM take

def skipBlanks : Scan Unit := modify (·.dropWhile isBlank)

def peek : Scan Char := do
  skipBlanks
  return ← (← get).head?

def mark (expected : Char) : Scan Unit := do
  skipBlanks
  take expected

def hasMore (close : Char) (first : Bool) : Scan Bool := do
  if (← peek) = close then
    take close
    return false
  unless first do take ','
  return true

def hexDigit? (c : Char) : Option Nat :=
  if c.isDigit then some (c.toNat - '0'.toNat)
  else if 'a' ≤ c && c ≤ 'f' then some (c.toNat - 'a'.toNat + 10)
  else if 'A' ≤ c && c ≤ 'F' then some (c.toNat - 'A'.toNat + 10)
  else none

def codeUnit : Scan Nat := do
  let digits ← [(), (), (), ()].mapM fun _ => do
    return ← hexDigit? (← next)
  return digits.foldl (fun value digit => value * 16 + digit) 0

def shortEscape? : Char → Option Char
  | '"' => some '"'
  | '\\' => some '\\'
  | '/' => some '/'
  | 'b' => some '\x08'
  | 'f' => some '\x0c'
  | 'n' => some '\n'
  | 'r' => some '\r'
  | 't' => some '\t'
  | _ => none

def isHighSurrogate (unit : Nat) : Bool := 0xd800 ≤ unit && unit ≤ 0xdbff

def isLowSurrogate (unit : Nat) : Bool := 0xdc00 ≤ unit && unit ≤ 0xdfff

def escape : Scan Char := do
  let c ← next
  if c ≠ 'u' then return ← shortEscape? c
  let high ← codeUnit
  if isLowSurrogate high then failure
  unless isHighSurrogate high do return Char.ofNat high
  take '\\'
  take 'u'
  let low ← codeUnit
  unless isLowSurrogate low do failure
  return Char.ofNat (0x10000 + (high - 0xd800) * 0x400 + (low - 0xdc00))

/-- What follows a backslash, without a look at which character it stands for. -/
def skipEscape : Scan Unit := do
  let c ← next
  if c = 'u' then discard codeUnit
  else if (shortEscape? c).isNone then failure

/-- The rest of a string after its opening quote, each escape read by `escape`. Every step takes a
character, so the length of the text is fuel enough. -/
def stringRest (escape : Scan Char) : Nat → Scan (List Char)
  | 0 => failure
  | fuel + 1 => do
    let c ← next
    if c = '"' then return []
    if c.toNat < 0x20 then failure
    let c ← if c = '\\' then escape else pure c
    return c :: (← stringRest escape fuel)

def string : Scan String := do
  mark '"'
  return String.ofList (← stringRest escape (← get).length)

def skipString : Scan Unit := do
  mark '"'
  discard (stringRest (do skipEscape; return ' ') (← get).length)

def digits : Scan (List Char) := do
  let text ← get
  let found := text.takeWhile Char.isDigit
  if found.isEmpty then failure
  set (text.dropWhile Char.isDigit)
  return found

def natural : Scan Nat := do
  let found ← digits
  if found.length ≠ 1 && found.head? = some '0' then failure
  return found.foldl (fun value c => value * 10 + (c.toNat - '0'.toNat)) 0

def takeAny (choices : List Char) : Scan Bool := do
  match ← get with
  | c :: rest => if choices.contains c then set rest; return true else return false
  | [] => return false

def skipNumber : Scan Unit := do
  discard (takeAny ['-'])
  discard natural
  if ← takeAny ['.'] then discard digits
  if ← takeAny ['e', 'E'] then
    discard (takeAny ['+', '-'])
    discard digits

def word : Scan Nat := do
  skipBlanks
  let value ← natural
  if ← takeAny ['.', 'e', 'E'] then failure
  if value < 4294967296 then return value else failure

def boolean : Scan Bool := do
  if (← peek) = 't' then
    takeAll "true"
    return true
  takeAll "false"
  return false

inductive Frame
  | array
  | object
deriving DecidableEq

def Frame.close : Frame → Char
  | .array => ']'
  | .object => '}'

def Frame.skipKey : Frame → Scan Unit
  | .array => return ()
  | .object => do
    skipString
    mark ':'

def skipStart : Scan (Option Frame) := do
  match ← peek with
  | '[' => take '['; return some .array
  | '{' => take '{'; return some .object
  | '"' => skipString; return none
  | 't' => takeAll "true"; return none
  | 'f' => takeAll "false"; return none
  | 'n' => takeAll "null"; return none
  | _ => skipNumber; return none

def skipOpen : Nat → Bool → List Frame → Scan Unit
  | _, _, [] => return ()
  | 0, _, _ => failure
  | fuel + 1, first, frame :: frames => do
    if ← hasMore frame.close first then
      frame.skipKey
      match ← skipStart with
      | some opened => skipOpen fuel true (opened :: frame :: frames)
      | none => skipOpen fuel false (frame :: frames)
    else skipOpen fuel false frames

def skipValue : Scan Unit := do
  match ← skipStart with
  | some opened => skipOpen (← get).length true [opened]
  | none => return ()

end SpirvMetal.Json
