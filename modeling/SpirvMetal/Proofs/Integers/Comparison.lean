import SpirvMetal.Proofs.Integers.Expression

/-!
Comparisons of integers mean what the instruction says, whatever the types of the operands are.
-/

namespace SpirvMetal

open Spirv (Op)

namespace TypedInteger

variable {width : IntWidth} {signed : Bool}

theorem promote_value (number : TypedInteger) : number.promote.value = number.value := by
  obtain ⟨width, signed, bits⟩ := number
  unfold promote
  split
  · have below := bits.isLt
    have least := bits.le_toInt
    have most := bits.toInt_lt
    change (BitVec.ofInt 32 (read signed bits)).toInt = read signed bits
    apply BitVec.toInt_ofInt_eq_self (by decide) <;> cases width <;> cases signed <;>
      simp_all [read, IntWidth.bits] <;> omega
  · rfl

theorem compare?_mk (operator : String) (a b : BitVec width.bits) :
    compare? operator ⟨width, signed, a⟩ ⟨width, signed, b⟩ =
      related? operator (read signed a) (read signed b) := by
  -- Narrow operands are widened, the others stay what they are.
  have unified : compare? operator ⟨width, signed, a⟩ ⟨width, signed, b⟩ =
      related? operator (promote ⟨width, signed, a⟩).value (promote ⟨width, signed, b⟩).value := by
    cases width with
    | w8 | w16 =>
      exact congrArg₂ (fun x y => related? operator (read true x) (read true y))
        (ofInt_read true _) (ofInt_read true _)
    | w32 | w64 =>
      cases signed <;> exact congrArg₂ (fun x y => related? operator (read _ x) (read _ y))
        (ofInt_read _ a) (ofInt_read _ b)
  rw [unified, promote_value, promote_value]
  rfl

end TypedInteger

def integerComparisons : List Op :=
  [.iEqual, .iNotEqual, .uLessThan, .sLessThan, .uGreaterThan, .sGreaterThan, .uLessThanEqual,
    .sLessThanEqual, .uGreaterThanEqual, .sGreaterThanEqual]

/-- What a comparison says about bits. -/
def compared? {width : Nat} (op : Op) (x y : BitVec width) : Option Bool :=
  match op with
  | .iEqual => some (x == y)
  | .iNotEqual => some (x != y)
  | .uLessThan => some (x.ult y)
  | .sLessThan => some (x.slt y)
  | .uGreaterThan => some (y.ult x)
  | .sGreaterThan => some (y.slt x)
  | .uLessThanEqual => some (x.ule y)
  | .sLessThanEqual => some (x.sle y)
  | .uGreaterThanEqual => some (y.ule x)
  | .sGreaterThanEqual => some (y.sle x)
  | _ => none

section

variable {c : Compiler} {inst : Instruction} {type result left right : Id} {width : IntWidth}
  {size : Nat} {first second : IntegerOperand}

/-- Both operands are read as the operator says, or else as the type of the left one says. -/
theorem integerForm_boolean {op : Op} (operator : BinaryOperator)
    (isLeft : c.IsOperand width size left first) (plain : IntegerForm.isShift op = false) :
    ∃ form, c.integerForm op operator .boolean left = .ok form ∧ form.symbol = operator.symbol ∧
      form.castsResult = false ∧
      form.left.getD first.signed = operator.signed.getD first.signed ∧
      form.right = some (operator.signed.getD first.signed) := by
  obtain ⟨leftType, typed, shape⟩ := isLeft.typed
  cases chosen : operator.signed <;>
    simp [Compiler.integerForm, IntegerForm.operandSign?, chosen, typed, IntegerForm.ofSign,
      IntegerForm.ofLeft, shape.base, BaseType.isInteger, BaseType.isSigned, plain, bind,
      Except.bind, pure, Except.pure]

theorem compared?_eq {op : Op} (compares : op ∈ integerComparisons) :
    ∃ operator, BinaryOperator.ofOp? op = some operator ∧ IntegerForm.isShift op = false ∧
      ∀ (signed : Bool) {width : Nat} (x y : BitVec width), ∃ holds, compared? op x y = some holds ∧
        TypedInteger.related? operator.symbol.text
          (TypedInteger.read (operator.signed.getD signed) x)
          (TypedInteger.read (operator.signed.getD signed) y) = some holds := by
  simp only [integerComparisons, List.mem_cons, List.not_mem_nil, or_false] at compares
  rcases compares with rfl | rfl | rfl | rfl | rfl | rfl | rfl | rfl | rfl | rfl <;>
    refine ⟨_, rfl, rfl, fun signed width x y => ⟨_, rfl, ?_⟩⟩
  case inl | inr.inl =>
    simp [BinarySymbol.text, TypedInteger.related?, TypedInteger.read_inj, bne,
      ← Bool.beq_eq_decide_eq]
  all_goals
    simp [BinarySymbol.text, TypedInteger.related?, TypedInteger.read, BitVec.ult, BitVec.slt,
      BitVec.ule, BitVec.sle]

end

end SpirvMetal
