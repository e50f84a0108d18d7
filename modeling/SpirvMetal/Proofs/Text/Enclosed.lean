import Mathlib.Data.List.Infix
import SpirvMetal.Metal.Enclose

/-!
Operands: plain words, or one pair of parentheses around the whole.
-/

namespace SpirvMetal

/-- No front part closes more than it opens, and the whole closes what it opens. -/
def WellParenthesized (text : List Char) : Prop :=
  (∀ front ∈ text.inits, front.count ')' ≤ front.count '(') ∧ text.count '(' = text.count ')'

/-- From inside, the scan succeeds if only the last character leads back to the depth zero. -/
theorem closesAtEnd_append (inner : List Char) {depth : Int} (inside : 0 < depth) :
    closesAtEnd depth (inner ++ [')']) = true ↔
      (∀ front ∈ inner.inits, (front.count ')' : Int) < depth + front.count '(') ∧
        depth + inner.count '(' = inner.count ')' + 1 := by
  induction inner generalizing depth with
  | nil =>
    simp [closesAtEnd, inside]
    omega
  | cons c rest ih =>
    simp only [List.inits_cons, List.forall_mem_cons, List.forall_mem_map, List.cons_append,
      closesAtEnd, List.count_cons]
    by_cases opens : c = '('
    · simp [opens, inside, ih (show 0 < depth + 1 by omega), Int.add_assoc, Int.add_comm 1]
    · by_cases closes : c = ')'
      · by_cases outermost : depth - 1 = 0
        · -- The empty front part of the rest is already too much.
          simp only [closes, outermost]
          simp
          intro _ within
          have := within [] List.nil_prefix
          simp at this
          omega
        · simp [closes, outermost, inside, ih (show 0 < depth - 1 by omega)]
          refine and_congr (forall₂_congr fun _ _ => ?_) ?_ <;> omega
      · simp [opens, closes, inside, ih inside]

theorem isParenthesized_iff {text : List Char} : isParenthesized text = true ↔
    ∃ inner, WellParenthesized inner ∧ text = '(' :: inner ++ [')'] := by
  have scanned (inner : List Char) :
      closesAtEnd 0 ('(' :: inner ++ [')']) = true ↔ WellParenthesized inner := by
    rw [List.cons_append, closesAtEnd, if_pos rfl, closesAtEnd_append inner (by omega)]
    refine and_congr (forall₂_congr fun _ _ => ?_) ?_ <;> omega
  constructor
  · intro whole
    simp only [isParenthesized, Bool.and_eq_true, decide_eq_true_eq] at whole
    obtain ⟨⟨starts, ends⟩, closed⟩ := whole
    obtain ⟨front, rfl⟩ := List.getLast?_eq_some_iff.mp ends
    cases front with
    | nil => cases starts
    | cons first inner =>
      cases starts
      exact ⟨inner, (scanned inner).mp closed, rfl⟩
  · rintro ⟨inner, paired, rfl⟩
    rw [isParenthesized, (scanned inner).mpr paired, List.getLast?_append]
    rfl

/-- A first parenthesis is closed by the last character if the text between is well parenthesized. -/
theorem enclose_atomic (expression : String) (paired : WellParenthesized expression.toList) :
    ((∀ c ∈ (enclose expression).toList, c.isAlphanum ∨ c = '_' ∨ c = '.') ∨
      ∃ inner, WellParenthesized inner ∧ (enclose expression).toList = '(' :: inner ++ [')']) ∧
    (enclose expression ≠ expression →
      (enclose expression).toList = '(' :: expression.toList ++ [')']) ∧
    enclose (enclose expression) = enclose expression := by
  by_cases kept : isPlainOperand expression.toList || isParenthesized expression.toList
  · have same : enclose expression = expression := if_pos kept
    rw [same, same]
    refine ⟨?_, fun moved => absurd rfl moved, rfl⟩
    rcases (Bool.or_eq_true _ _).mp kept with plain | whole
    · exact .inl (by simpa [isPlainOperand, or_assoc] using plain)
    · exact .inr (isParenthesized_iff.mp whole)
  · have added : (enclose expression).toList = '(' :: expression.toList ++ [')'] := by
      simp [enclose, kept, toString]
    have whole := isParenthesized_iff.mpr ⟨_, paired, added⟩
    exact ⟨.inr ⟨_, paired, added⟩, fun _ => added, if_pos (by simp [whole])⟩

theorem enclose_atomic_sum : WellParenthesized "(a) + (b)".toList ∧
    (enclose "(a) + (b)").toList = "((a) + (b))".toList := by
  have paired : WellParenthesized "(a) + (b)".toList := ⟨by decide, by decide⟩
  exact ⟨paired, (enclose_atomic _ paired).2.1 (by decide)⟩

end SpirvMetal
