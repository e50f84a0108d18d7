import Mathlib.Data.List.Basic

/-!
Texts that end in a number. The number can be read back behind the last character that is no digit.
-/

namespace SpirvMetal

theorem notMem_toString {mark : Char} (other : mark.isDigit = false) (number : Nat) :
    mark ∉ (toString number).toList := by
  intro written
  rw [Nat.toString_eq_repr, Nat.toList_repr] at written
  have digit := Nat.isDigit_of_mem_toDigits (by omega) (by omega) written
  rw [other] at digit
  cases digit

theorem eq_of_append_mark {mark : Char} {front front' word word' : List Char}
    (same : front ++ mark :: word = front' ++ mark :: word') (solid : mark ∉ word)
    (solid' : mark ∉ word') : word = word' := by
  rcases List.append_eq_append_iff.mp same with ⟨more, _, rest⟩ | ⟨more, _, rest⟩
  · cases more with
    | nil => exact (List.cons.inj rest).2
    | cons _ more =>
      rw [List.cons_append] at rest
      exact absurd ((List.cons.inj rest).2 ▸ by simp) solid
  · cases more with
    | nil => exact (List.cons.inj rest).2.symm
    | cons _ more =>
      rw [List.cons_append] at rest
      exact absurd ((List.cons.inj rest).2 ▸ by simp) solid'

theorem toString_injective {first second : Nat} (same : toString first = toString second) :
    first = second := by
  rw [Nat.toString_eq_repr, Nat.toString_eq_repr] at same
  have digits := congrArg String.toList same
  rw [Nat.toList_repr, Nat.toList_repr] at digits
  have numbers := congrArg (Nat.ofDigitChars 10 · 0) digits
  simpa only [Nat.ofDigitChars_ten_toDigits] using numbers

theorem eq_of_append_number {front front' : String} {number number' : Nat}
    (same : front ++ "_" ++ toString number = front' ++ "_" ++ toString number') :
    number = number' := by
  have texts : front.toList ++ '_' :: (toString number).toList =
      front'.toList ++ '_' :: (toString number').toList := by
    simpa using congrArg String.toList same
  have words := eq_of_append_mark texts (notMem_toString (by decide) number)
    (notMem_toString (by decide) number')
  exact toString_injective (String.toList_inj.mp words)

end SpirvMetal
