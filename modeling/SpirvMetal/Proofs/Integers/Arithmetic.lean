import Mathlib.Data.List.Basic
import SpirvMetal.Proofs.Integers.Expression

/-!
Arithmetic of integers means what the instruction says, whatever the types of the operands and the
result are.
-/

namespace SpirvMetal

open List
open Spirv (Op)

def binaryOperations : List Op :=
  [.iAdd, .iSub, .iMul, .sDiv, .uDiv, .sRem, .sMod, .uMod, .shiftLeftLogical, .shiftRightLogical,
    .shiftRightArithmetic, .bitwiseAnd, .bitwiseOr, .bitwiseXor]

def fieldOperations : List Op := [.bitFieldSExtract, .bitFieldUExtract]

/-- The result of an instruction, where it is defined. -/
def computed? (op : Op) : List (BitVec 32) → Option (BitVec 32)
  | [x, y] =>
    let divides := y ≠ 0
    let fits := x ≠ .intMin 32 ∨ y ≠ -1
    let shifts := y.toNat < 32
    match op with
    | .iAdd => some (x + y)
    | .iSub => some (x - y)
    | .iMul => some (x * y)
    | .uDiv => if divides then some (x / y) else none
    | .sDiv => if divides ∧ fits then some (x.sdiv y) else none
    | .uMod => if divides then some (x % y) else none
    | .sRem => if divides ∧ fits then some (x.srem y) else none
    | .sMod => if divides ∧ fits then some (x.smod y) else none
    | .shiftLeftLogical => if shifts then some (x <<< y.toNat) else none
    | .shiftRightLogical => if shifts then some (x >>> y.toNat) else none
    | .shiftRightArithmetic => if shifts then some (x.sshiftRight y.toNat) else none
    | .bitwiseAnd => some (x &&& y)
    | .bitwiseOr => some (x ||| y)
    | .bitwiseXor => some (x ^^^ y)
    | _ => none
  | [base, offset, count] =>
    let field := base.extractLsb' offset.toNat count.toNat
    if offset.toNat + count.toNat ≤ 32 then
      match op with
      | .bitFieldSExtract => some (field.signExtend 32)
      | .bitFieldUExtract => some (field.setWidth 32)
      | _ => none
    else none
  | _ => none

/-- Where the expression has another value: for a remainder that is not zero, if dividend and divisor
have different signs, and for a field that starts with a one, if the type of the base is signed and
the instruction is not, or the other way round. -/
def Strays (op : Op) (operands : List IntegerOperand) : List (BitVec 32) → Prop
  | [x, y] => op = .sMod ∧ x.srem y ≠ 0 ∧ x.msb ≠ y.msb
  | [base, offset, count] =>
    operands.head?.map (·.signed) ≠ some (decide (op = .bitFieldSExtract)) ∧ count.toNat < 32 ∧
      (base.extractLsb' offset.toNat count.toNat).msb = true
  | _ => False

namespace TypedInteger

variable {signed : Bool} {x y : BitVec 32}

/-- The bits that an operator gives, on operands of 32 bits that are read alike. -/
def bits? (operator : String) (signed amountSigned : Bool) (x y : BitVec 32) :
    Option (BitVec 32) :=
  if operator = "<<" ∨ operator = ">>" then shifted? operator signed x (read amountSigned y)
  else result? operator signed x y

theorem combine?_mk {operator : String} {other : Bool}
    (alike : ¬ (operator = "<<" ∨ operator = ">>") → other = signed) :
    combine? operator ⟨.w32, signed, x⟩ ⟨.w32, other, y⟩ =
      (bits? operator signed other x y).map (⟨.w32, signed, ·⟩) := by
  unfold combine? bits?
  split
  · rfl
  · rename_i plain
    obtain rfl := alike plain
    cases other <;> exact congrArg₂ (fun x y => (result? operator _ x y).map _) (ofInt_read _ x)
      (ofInt_read _ y)

theorem fmod_eq_tmod_iff {a b : Int} (nonzero : b ≠ 0) :
    a.tmod b = a.fmod b ↔ ¬ (a.tmod b ≠ 0 ∧ decide (a < 0) ≠ decide (b < 0)) := by
  rw [Int.fmod_eq_tmod, ne_eq (a.tmod b), ← Int.dvd_iff_tmod_eq_zero, ne_eq, decide_eq_decide]
  by_cases divides : b ∣ a
  · simp only [divides, if_true, not_true, false_and, not_false_iff, Int.add_zero]
  · simp only [divides, if_false, not_false_iff, true_and, not_not]
    split <;> split <;> omega

theorem read_eq_zero : read signed y = 0 ↔ y = 0 := by
  have zero : read signed (0 : BitVec 32) = 0 := by cases signed <;> rfl
  rw [← zero, read_inj]

theorem ofInt_tdiv : BitVec.ofInt 32 ((read signed x).tdiv (read signed y)) =
    if signed then x.sdiv y else x / y := by
  cases signed with
  | false =>
    simp only [Bool.false_eq_true, if_false, BitVec.udiv_def, ← BitVec.ofInt_natCast,
      Int.ofNat_tdiv]
    rfl
  | true => exact BitVec.eq_of_toInt_eq (by simp [read, BitVec.toInt_sdiv])

theorem ofInt_tmod : BitVec.ofInt 32 ((read signed x).tmod (read signed y)) =
    if signed then x.srem y else x % y := by
  cases signed with
  | false =>
    simp only [Bool.false_eq_true, if_false, BitVec.umod_def, ← BitVec.ofInt_natCast,
      Int.ofNat_tmod]
    rfl
  | true => exact (congrArg _ (BitVec.toInt_srem ..).symm).trans BitVec.ofInt_toInt

theorem srem_eq_smod_iff (nonzero : y ≠ 0) :
    x.srem y = x.smod y ↔ ¬ (x.srem y ≠ 0 ∧ x.msb ≠ y.msb) := by
  have apart : y.toInt ≠ 0 := fun zero => nonzero (BitVec.eq_of_toInt_eq zero)
  rw [← BitVec.toInt_inj, ne_eq (x.srem y), ← BitVec.toInt_inj, BitVec.toInt_srem,
    BitVec.toInt_smod, fmod_eq_tmod_iff apart, BitVec.msb_eq_toInt, BitVec.msb_eq_toInt]
  rfl

theorem shifted?_amount {amountSigned : Bool} (below : y.toNat < 32) :
    shifted? "<<" signed x (read amountSigned y) = some (x <<< y.toNat) ∧
      shifted? ">>" signed x (read amountSigned y) =
        some (if signed then x.sshiftRight y.toNat else x >>> y.toNat) := by
  have power : (2 : Int) ^ y.toNat = (2 ^ y.toNat : Nat) := (Int.natCast_pow ..).symm
  have amount : read amountSigned y = y.toNat := by
    cases amountSigned <;> simp only [read, BitVec.toInt_eq_toNat_cond] <;> grind
  simp only [shifted?, amount, Int.natCast_nonneg, true_and, Int.ofNat_lt, below, if_true,
    Int.toNat_natCast, Option.some.injEq, power, BitVec.ofInt_mul, ofInt_read,
    BitVec.ofInt_natCast, ← Int.shiftRight_eq_div_pow]
  constructor
  · rw [BitVec.shiftLeft_eq_mul_twoPow]
    exact congrArg _ (BitVec.eq_of_toNat_eq (by simp [BitVec.toNat_twoPow]))
  · cases signed with
    | false =>
      refine (BitVec.ofInt_natCast 32 (x.toNat >>> y.toNat)).trans (BitVec.eq_of_toNat_eq ?_)
      rw [BitVec.toNat_ofNat, ← BitVec.toNat_ushiftRight]
      exact Nat.mod_eq_of_lt (BitVec.isLt _)
    | true => exact (congrArg _ BitVec.toInt_sshiftRight.symm).trans BitVec.ofInt_toInt

theorem signExtend_eq_setWidth_iff {width : Nat} (field : BitVec width) (fits : width ≤ 32) :
    field.signExtend 32 = field.setWidth 32 ↔ ¬ (width < 32 ∧ field.msb = true) := by
  cases sign : field.msb with
  | false => simp [BitVec.signExtend_eq_setWidth_of_msb_false sign]
  | true =>
    rcases Nat.lt_or_eq_of_le fits with below | rfl
    · simp only [below, and_self, not_true, iff_false]
      intro same
      have signs := congrArg BitVec.msb same
      rw [BitVec.msb_signExtend, BitVec.msb_setWidth, BitVec.getLsbD_of_ge _ _ (by omega)] at signs
      grind
    · simp

theorem bits?_computed {op : Op} (computes : op ∈ binaryOperations) :
    ∃ operator, BinaryOperator.ofOp? op = some operator ∧
      (IntegerForm.isShift op ↔ operator.symbol.text = "<<" ∨ operator.symbol.text = ">>") ∧
      ∀ (signed amountSigned : Bool) {x y z : BitVec 32} (operands : List IntegerOperand),
        computed? op [x, y] = some z →
        ∃ found,
          bits? operator.symbol.text (operator.signed.getD signed) amountSigned x y = some found ∧
          (found = z ↔ ¬ Strays op operands [x, y]) := by
  simp only [binaryOperations, mem_cons, not_mem_nil, or_false] at computes
  rcases computes with rfl | rfl | rfl | rfl | rfl | rfl | rfl | rfl | rfl | rfl | rfl | rfl | rfl |
    rfl <;> refine ⟨_, rfl, by decide, fun signed amountSigned x y z operands defined => ?_⟩ <;>
    simp [computed?] at defined <;>
    simp [BinarySymbol.text, bits?, result?, shifted?_amount, BitVec.ofInt_add, BitVec.ofInt_mul,
      Int.sub_eq_add_neg, BitVec.ofInt_neg, read_eq_zero, ofInt_tdiv, ofInt_tmod, defined, Strays]
  all_goals grind [srem_eq_smod_iff, BitVec.sub_eq_add_neg]

end TypedInteger

section

variable {c : Compiler} {inst : Instruction} {type result left right base offset count : Id}
  {size : Nat} {first second third : IntegerOperand} {found : ValueType} {signed : Bool}

open TypedInteger (bits? combine?_mk bits?_computed)

theorem eval_form {form : IntegerForm} {wanted other : Bool} {x y bits : BitVec 32}
    {names : String → Option TypedInteger} (isX : names first.text = some ⟨.w32, first.signed, x⟩)
    (isY : names second.text = some ⟨.w32, second.signed, y⟩) (leftAs : form.left = some wanted)
    (rightAs : form.right.getD second.signed = other)
    (alike : ¬ (form.symbol.text = "<<" ∨ form.symbol.text = ">>") → other = wanted)
    (casts : form.castsResult = decide (signed ≠ wanted))
    (computed : bits? form.symbol.text wanted other x y = some bits) :
    (form.expression first second .w32 size signed).eval size names =
      some ⟨.w32, signed, bits⟩ := by
  have combined := combine?_mk (x := x) (y := y) alike
  rw [computed] at combined
  by_cases same : signed = wanted <;>
    simp [IntegerForm.expression, casts, same, IntegerExpression.eval, eval_as isX, eval_as isY,
      leftAs, rightAs, combined]
  exact TypedInteger.convert_mk ..

theorem arithmetic_binary (computes : inst.op ∈ binaryOperations)
    (words : inst.words = [type, result, left, right])
    (typed : c.program.getType type = .ok found) (shape : found.IsInteger .w32 signed size)
    (isLeft : c.IsOperand .w32 size left first) (isRight : c.IsOperand .w32 size right second) :
    ∃ expression : IntegerExpression, Emit.arithmetic inst c = .ok expression.text c ∧
      ∀ (names : String → Option TypedInteger) (x y z : BitVec 32),
        names first.text = some ⟨.w32, first.signed, x⟩ →
        names second.text = some ⟨.w32, second.signed, y⟩ → computed? inst.op [x, y] = some z →
        ∃ bits, expression.eval size names = some ⟨.w32, signed, bits⟩ ∧
          (bits = z ↔ ¬ Strays inst.op [first, second] [x, y]) := by
  obtain ⟨operator, operates, shifts, meaning⟩ := bits?_computed computes
  have formed : c.integerForm inst.op operator found.base left =
      .ok (.ofSign inst.op operator (operator.signed.getD signed) found.base) := by
    cases chosen : operator.signed <;>
      simp [Compiler.integerForm, IntegerForm.operandSign?, chosen, shape.base, BaseType.isInteger,
        BaseType.isSigned, pure, Except.pure]
  have written := arithmetic_integer signed words operates typed isLeft isRight formed fun _ => shape
  refine ⟨_, written, fun names x y z isX isY defined => ?_⟩
  obtain ⟨bits, computed, exact⟩ := meaning signed _ [first, second] defined
  refine ⟨bits, eval_form isX isY rfl rfl (fun plain => ?_) ?_ computed, exact⟩
  · change ¬ (operator.symbol.text = _ ∨ operator.symbol.text = _) at plain
    simp [IntegerForm.ofSign, shifts, plain]
  · simp [IntegerForm.ofSign, shape.base, BaseType.isInteger, BaseType.isSigned]

theorem arithmetic_field (computes : inst.op ∈ fieldOperations)
    (words : inst.words = [type, result, base, offset, count])
    (isBase : c.IsOperand .w32 size base first) (isOffset : c.IsOperand .w32 size offset second)
    (isCount : c.IsOperand .w32 size count third) :
    ∃ expression : IntegerExpression, Emit.arithmetic inst c = .ok expression.text c ∧
      ∀ (names : String → Option TypedInteger) (x y n z : BitVec 32),
        names first.text = some ⟨.w32, first.signed, x⟩ →
        names second.text = some ⟨.w32, second.signed, y⟩ →
        names third.text = some ⟨.w32, third.signed, n⟩ → computed? inst.op [x, y, n] = some z →
        ∃ bits, expression.eval size names = some ⟨.w32, first.signed, bits⟩ ∧
          (bits = z ↔ ¬ Strays inst.op [first, second, third] [x, y, n]) := by
  have offsetWritten := operandText_ok isOffset (some false)
  have countWritten := operandText_ok isCount (some false)
  refine ⟨.extractBits (.operand first.text) (second.as .w32 size (some false))
    (third.as .w32 size (some false)), ?_, fun names x y n z isX isY isN defined => ?_⟩
  · rw [IntegerExpression.text_extractBits, IntegerExpression.text_operand]
    generalize (second.as .w32 size (some false)).text = offsetText at *
    generalize (third.as .w32 size (some false)).text = countText at *
    have spelled : s!"extract_bits({first.text}, {offsetText}, {countText})" =
        applied "extract_bits" [first.text, offsetText, countText] := by
      simp [applied, toString, String.append_assoc]
    rw [spelled]
    obtain ⟨op, words, references⟩ := inst
    cases words
    have field : Emit.bitField "extract_bits"
        ⟨op, [type, result, base, offset, count], references⟩ [2] [3, 4] c =
        .ok (applied "extract_bits" [first.text, offsetText, countText]) c := by
      refine Emit.bind_ok.mpr ⟨[first.text], c, ?_,
        Emit.bind_ok.mpr ⟨[offsetText, countText], c, ?_, rfl⟩⟩
      · rw [mapM_cons]
        exact Emit.bind_ok.mpr ⟨_, c,
          Emit.word_bind.mpr ⟨base, rfl, Emit.text_ok.mpr ⟨isBase.written, rfl⟩⟩, rfl⟩
      · rw [mapM_cons, mapM_cons]
        exact Emit.bind_ok.mpr ⟨_, c,
          Emit.word_bind.mpr ⟨offset, rfl, Emit.lift_ok.mpr ⟨offsetWritten, rfl⟩⟩,
          Emit.bind_ok.mpr ⟨[countText], c, Emit.bind_ok.mpr ⟨_, c,
            Emit.word_bind.mpr ⟨count, rfl, Emit.lift_ok.mpr ⟨countWritten, rfl⟩⟩, rfl⟩, rfl⟩⟩
    simp only [fieldOperations, mem_cons, not_mem_nil, or_false] at computes
    rcases computes with rfl | rfl <;> exact field
  · simp only [computed?] at defined
    split at defined
    · rename_i fits
      have extended := TypedInteger.signExtend_eq_setWidth_iff
        (x.extractLsb' y.toNat n.toNat) (by omega)
      have evaluated : (IntegerExpression.extractBits (.operand first.text)
          (second.as .w32 size (some false)) (third.as .w32 size (some false))).eval size names =
          TypedInteger.extract? ⟨.w32, first.signed, x⟩ ⟨.w32, false, y⟩ ⟨.w32, false, n⟩ := by
        simp [IntegerExpression.eval, isX, eval_as isY, eval_as isN]
      have inside : ((y.toNat : Int) + n.toNat ≤ 32) := by omega
      refine ⟨_, evaluated.trans (if_pos inside), ?_⟩
      change ((if first.signed then (x.extractLsb' y.toNat n.toNat).signExtend 32
        else (x.extractLsb' y.toNat n.toNat).setWidth 32) = z ↔ _)
      simp only [Strays, List.head?_cons, Option.map_some]
      generalize x.extractLsb' y.toNat n.toNat = field at *
      simp only [fieldOperations, mem_cons, not_mem_nil, or_false] at computes
      rcases computes with isOp | isOp <;> rw [isOp] at defined <;> cases defined <;>
        cases first.signed <;> grind
    · cases defined

/-- An instruction on integers of 32 bits is written as an expression. Wherever the instruction
defines a result, the expression has a value, and this is the result exactly where it does not
stray. -/
theorem integer_result_iff {ids : List Id} {operands : List IntegerOperand}
    (words : inst.words = type :: result :: ids)
    (computes : ids.length = 2 ∧ inst.op ∈ binaryOperations ∨
      ids.length = 3 ∧ inst.op ∈ fieldOperations)
    (typed : c.program.getType type = .ok found) (shape : found.IsInteger .w32 signed size)
    (are : List.Forall₂ (c.IsOperand .w32 size) ids operands) :
    ∃ expression : IntegerExpression, Emit.arithmetic inst c = .ok expression.text c ∧
      ∀ (names : String → Option TypedInteger) (values : List (BitVec 32)) (z : BitVec 32),
        List.Forall₂ (fun operand bits => names operand.text = some ⟨.w32, operand.signed, bits⟩)
          operands values →
        computed? inst.op values = some z →
        ∃ signed bits, expression.eval size names = some ⟨.w32, signed, bits⟩ ∧
          (bits = z ↔ ¬ Strays inst.op operands values) := by
  rcases computes with ⟨two, computes⟩ | ⟨three, computes⟩
  · obtain ⟨left, right, rfl⟩ := List.length_eq_two.mp two
    obtain _ | ⟨isLeft, _ | ⟨isRight, _ | _⟩⟩ := are
    obtain ⟨expression, written, meaning⟩ :=
      arithmetic_binary computes words typed shape isLeft isRight
    refine ⟨expression, written, fun names values z named defined => ?_⟩
    obtain _ | ⟨isX, _ | ⟨isY, _ | _⟩⟩ := named
    exact ⟨signed, meaning names _ _ z isX isY defined⟩
  · obtain ⟨base, offset, count, rfl⟩ := List.length_eq_three.mp three
    obtain _ | ⟨isBase, _ | ⟨isOffset, _ | ⟨isCount, _ | _⟩⟩⟩ := are
    obtain ⟨expression, written, meaning⟩ :=
      arithmetic_field computes words isBase isOffset isCount
    refine ⟨expression, written, fun names values z named defined => ?_⟩
    obtain _ | ⟨isX, _ | ⟨isY, _ | ⟨isN, _ | _⟩⟩⟩ := named
    exact ⟨_, meaning names _ _ _ z isX isY isN defined⟩

/-- A signed quotient of an unsigned and a signed value, as an unsigned result. -/
theorem integer_result_iff_quotient :
    ∃ expression : IntegerExpression,
      Emit.arithmetic ⟨.sDiv, [2, 12, 20, 10], []⟩ (mixedIntegers .w32 1) =
        .ok expression.text (mixedIntegers .w32 1) ∧
      ∃ signed, expression.eval 1 (mixedNames .w32 2#32 0#32 (-7#32)) =
        some ⟨.w32, signed, -3#32⟩ := by
  obtain ⟨isSigned, _, isUnsigned⟩ := mixedIntegers_operand .w32 1
  have shape : ValueType.IsInteger { base := .uint, width := 32 } .w32 false 1 :=
    ⟨rfl, rfl, rfl, rfl, rfl⟩
  obtain ⟨expression, written, meaning⟩ := integer_result_iff
    (show (⟨.sDiv, [2, 12, 20, 10], []⟩ : Instruction).words = _ from rfl)
    (.inl ⟨rfl, by decide⟩) rfl shape (.cons isUnsigned (.cons isSigned .nil))
  obtain ⟨signed, bits, evaluated, exact⟩ := meaning (mixedNames .w32 2#32 0#32 (-7#32)) [-7, 2] (-3)
    (.cons rfl (.cons rfl .nil)) (by decide)
  rw [exact.mpr (by simp [Strays])] at evaluated
  exact ⟨expression, written, signed, evaluated⟩

/-- The remainder of -7 and 3 has the sign of -7 and not that of 3. The lowest two bits of an
unsigned 3 are still 3 when they are read as a signed field, and not -1. -/
theorem signs_differ :
    (∃ expression : IntegerExpression, expression.text = "(_10 % _11)" ∧
      Emit.arithmetic ⟨.sMod, [1, 12, 10, 11], []⟩ (mixedIntegers .w32 1) =
        .ok "(_10 % _11)" (mixedIntegers .w32 1) ∧
      expression.eval 1 (mixedNames .w32 (-7#32) 3#32 0#32) = some ⟨.w32, true, -1#32⟩ ∧
      computed? .sMod [-7, 3] = some 2) ∧
    ∃ expression : IntegerExpression,
      expression.text = "extract_bits(_20, uint(_10), uint(_11))" ∧
      Emit.arithmetic ⟨.bitFieldSExtract, [2, 12, 20, 10, 11], []⟩ (mixedIntegers .w32 1) =
        .ok "extract_bits(_20, uint(_10), uint(_11))" (mixedIntegers .w32 1) ∧
      expression.eval 1 (mixedNames .w32 0#32 2#32 3#32) = some ⟨.w32, false, 3#32⟩ ∧
      computed? .bitFieldSExtract [3, 0, 2] = some (-1) :=
  ⟨⟨.binary "%" (.operand "_10") (.operand "_11"), rfl, rfl, rfl, by decide⟩,
    .extractBits (.operand "_20") (.cast .w32 false 1 (.operand "_10"))
      (.cast .w32 false 1 (.operand "_11")), rfl, rfl, rfl, by decide⟩

end

end SpirvMetal
