import SpirvMetal.Error

/-!
The optional operands of image instructions: a mask says which are there, in a fixed order.
-/

namespace SpirvMetal

structure ImageOperands where
  bias : Option Id := none
  lod : Option Id := none
  gradient : Option (Id × Id) := none
  offset : Option Id := none
  sample : Option Id := none

namespace ImageOperands

def one (mask bit : Nat) (words : List Nat) : Except Fault (Option Id × List Nat) :=
  if mask &&& bit = 0 then .ok (none, words)
  else
    match words with
    | word :: rest => .ok (some word, rest)
    | [] => .error (.internal (.imageOperandMask mask))

def two (mask bit : Nat) (words : List Nat) : Except Fault (Option (Id × Id) × List Nat) :=
  if mask &&& bit = 0 then .ok (none, words)
  else
    match words with
    | first :: second :: rest => .ok (some (first, second), rest)
    | _ => .error (.internal (.imageOperandMask mask))

def refuse (mask bit : Nat) (limit : Limit) : Except Fault Unit :=
  if mask &&& bit = 0 then .ok () else .error (.unsupported limit)

def ofWords : List Nat → Except Fault ImageOperands
  | [] => .ok {}
  | mask :: words => do
    let (bias, words) ← one mask 0x1 words
    let (lod, words) ← one mask 0x2 words
    let (gradient, words) ← two mask 0x4 words
    let (constOffset, words) ← one mask 0x8 words
    let (offset, words) ← one mask 0x10 words
    refuse mask 0x20 .constOffsets
    let (sample, _) ← one mask 0x40 words
    refuse mask 0x80 .minLod
    return { bias, lod, gradient, offset := offset.or constOffset, sample }

end ImageOperands

end SpirvMetal
