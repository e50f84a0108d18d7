import Mathlib.Algebra.Group.Int.Defs
import SpirvMetal.Proofs.Emit.Keeps
import SpirvMetal.Proofs.Text.Spelling
import SpirvMetal.Metal.Instruction.Arithmetic

/-!
What integer expressions compute. Every integer has a type, which decides how its bits are read.
-/

namespace SpirvMetal

structure TypedInteger where
  width : IntWidth
  signed : Bool
  bits : BitVec width.bits

namespace TypedInteger

def read {width : Nat} (signed : Bool) (bits : BitVec width) : Int :=
  if signed then bits.toInt else bits.toNat

def value (number : TypedInteger) : Int := read number.signed number.bits

/-- The integer of a type that is the same modulo a power of two. -/
def convert (width : IntWidth) (signed : Bool) (number : TypedInteger) : TypedInteger :=
  ⟨width, signed, .ofInt _ number.value⟩

/-- Narrow integers are operands as signed ones of 32 bits. -/
def promote (number : TypedInteger) : TypedInteger :=
  if number.width.bits < 32 then number.convert .w32 true else number

/-- The type for both operands: the wider one. Of two that are equally wide it is the unsigned one. -/
def commonType (a b : TypedInteger) : IntWidth × Bool :=
  if a.width = b.width then (a.width, a.signed && b.signed)
  else if b.width.bits < a.width.bits then (a.width, a.signed)
  else (b.width, b.signed)

structure Pair where
  width : IntWidth
  signed : Bool
  left : BitVec width.bits
  right : BitVec width.bits

/-- The operands of an arithmetic operator or a comparison, in their common type. -/
def unify (a b : TypedInteger) : Pair :=
  let (width, signed) := commonType a.promote b.promote
  ⟨width, signed, (a.promote.convert width signed).bits, (b.promote.convert width signed).bits⟩

def related? (operator : String) (a b : Int) : Option Bool :=
  match operator with
  | "==" => some (a = b)
  | "!=" => some (a ≠ b)
  | "<" => some (a < b)
  | ">" => some (b < a)
  | "<=" => some (a ≤ b)
  | ">=" => some (b ≤ a)
  | _ => none

def compare? (operator : String) (a b : TypedInteger) : Option Bool :=
  let pair := unify a b
  related? operator (read pair.signed pair.left) (read pair.signed pair.right)

/-- The bits of a result. Quotients are rounded towards zero, so that remainders have the sign of the
dividend; shifts to the right repeat the sign of signed integers. -/
def result? {width : Nat} (operator : String) (signed : Bool) (a b : BitVec width) :
    Option (BitVec width) :=
  let x := read signed a
  let y := read signed b
  match operator with
  | "+" => some (.ofInt width (x + y))
  | "-" => some (.ofInt width (x - y))
  | "*" => some (.ofInt width (x * y))
  | "/" => if y = 0 then none else some (.ofInt width (x.tdiv y))
  | "%" => if y = 0 then none else some (.ofInt width (x.tmod y))
  | "|" => some (a ||| b)
  | "^" => some (a ^^^ b)
  | "&" => some (a &&& b)
  | _ => none

/-- The bits of a shifted integer, by less than its width. -/
def shifted? {width : Nat} (operator : String) (signed : Bool) (bits : BitVec width)
    (amount : Int) : Option (BitVec width) :=
  if 0 ≤ amount ∧ amount < width then
    match operator with
    | "<<" => some (.ofInt width (read signed bits * 2 ^ amount.toNat))
    | ">>" => some (.ofInt width (read signed bits / 2 ^ amount.toNat))
    | _ => none
  else none

/-- Shifts have the type of the left operand. -/
def combine? (operator : String) (a b : TypedInteger) : Option TypedInteger :=
  if operator = "<<" ∨ operator = ">>" then
    (shifted? operator a.promote.signed a.promote.bits b.promote.value).map (⟨_, a.promote.signed, ·⟩)
  else
    let pair := unify a b
    (result? operator pair.signed pair.left pair.right).map (⟨_, pair.signed, ·⟩)

/-- A field of bits, extended as the type is signed. -/
def extract? (base offset count : TypedInteger) : Option TypedInteger :=
  if offset.value + count.value ≤ base.width.bits then
    let field := base.bits.extractLsb' offset.value.toNat count.value.toNat
    some ⟨base.width, base.signed, if base.signed then field.signExtend _ else field.setWidth _⟩
  else none

end TypedInteger

/-- The texts that instructions on integers are written as. -/
inductive IntegerExpression
  | operand (text : String)
  | cast (width : IntWidth) (signed : Bool) (components : Nat) (part : IntegerExpression)
  | binary (operator : String) (left right : IntegerExpression)
  | extractBits (base offset count : IntegerExpression)

namespace IntegerExpression

def text : IntegerExpression → String
  | operand text => text
  | cast width signed components part =>
    s!"{(BaseType.integer width signed).spelled components}({part.text})"
  | binary operator left right => s!"({left.text} {operator} {right.text})"
  | extractBits base offset count =>
    s!"extract_bits({base.text}, {offset.text}, {count.text})"

theorem text_operand (text : String) : (operand text).text = text := rfl

theorem text_cast (width : IntWidth) (signed : Bool) (components : Nat) (part : IntegerExpression) :
    (cast width signed components part).text =
      s!"{(BaseType.integer width signed).spelled components}({part.text})" := rfl

theorem text_binary (operator : String) (left right : IntegerExpression) :
    (binary operator left right).text = s!"({left.text} {operator} {right.text})" := rfl

theorem text_extractBits (base offset count : IntegerExpression) :
    (extractBits base offset count).text =
      s!"extract_bits({base.text}, {offset.text}, {count.text})" := rfl

variable (size : Nat) (names : String → Option TypedInteger)

/-- One component of the value, given that component of the operands. All of them have `size`
components. -/
def eval : IntegerExpression → Option TypedInteger
  | operand text => names text
  | cast width signed components part => do
    let value ← part.eval
    if components = size then some (value.convert width signed) else none
  | binary operator left right => do TypedInteger.combine? operator (← left.eval) (← right.eval)
  | extractBits base offset count => do
    TypedInteger.extract? (← base.eval) (← offset.eval) (← count.eval)

def holds? : IntegerExpression → Option Bool
  | binary operator left right => do
    TypedInteger.compare? operator (← left.eval size names) (← right.eval size names)
  | _ => none

end IntegerExpression

structure ValueType.IsInteger (type : ValueType) (width : IntWidth) (signed : Bool) (size : Nat) :
    Prop where
  base : type.base = .integer width signed
  components : type.components = size
  columns : type.columns = 1
  dimensions : type.dimensions = []
  pointer : type.pointer = false

/-- A value of integers: whether its type is signed, and the text that stands for it. -/
structure IntegerOperand where
  signed : Bool
  text : String

structure Compiler.IsOperand (c : Compiler) (width : IntWidth) (size : Nat) (id : Id)
    (operand : IntegerOperand) : Prop where
  typed : ∃ type, c.program.expressionType id = .ok type ∧ type.IsInteger width operand.signed size
  written : c.textOf id = .ok operand.text

/-- An operand as it is, or as signed or unsigned as wanted. -/
def IntegerOperand.as (operand : IntegerOperand) (width : IntWidth) (size : Nat) :
    Option Bool → IntegerExpression
  | none => .operand operand.text
  | some wanted =>
    if operand.signed = wanted then .operand operand.text
    else .cast width wanted size (.operand operand.text)

def IntegerForm.expression (form : IntegerForm) (left right : IntegerOperand) (width : IntWidth)
    (size : Nat) (resultSigned : Bool) : IntegerExpression :=
  let value := IntegerExpression.binary form.symbol.text (left.as width size form.left)
    (right.as width size form.right)
  if form.castsResult then .cast width resultSigned size value else value

section

variable {c : Compiler} {inst : Instruction} {id type result left right : Id} {width : IntWidth}
  {size : Nat} {operand first second : IntegerOperand} {found : ValueType} {signed : Bool}

theorem operandText_ok (is : c.IsOperand width size id operand) (wanted : Option Bool) :
    c.operandText id wanted = .ok (operand.as width size wanted).text := by
  cases wanted with
  | none =>
    rw [IntegerOperand.as, IntegerExpression.text_operand]
    exact is.written
  | some wanted =>
    obtain ⟨type, typed, shape⟩ := is.typed
    have named : TypeName.numeric (.integer width wanted) size 1 = _ :=
      BaseType.numeric_spelled rfl size 1
    by_cases same : operand.signed = wanted <;>
      simp [Compiler.operandText, Compiler.textAs, is.written, typed, castSignedness, castTarget?,
        shape.base, shape.components, BaseType.isInteger, BaseType.isSigned,
        BaseType.withSignedness, IntegerOperand.as, IntegerExpression.text_operand,
        IntegerExpression.text_cast, same, named, bind, Except.bind, pure, Except.pure]

theorem typeName_integer (typed : c.program.getType type = .ok found)
    (shape : found.IsInteger width signed size) :
    c.typeName type = .ok ((BaseType.integer width signed).spelled size) := by
  rw [← BaseType.numeric_spelled rfl]
  simp [Compiler.typeName, Compiler.typeNameFor, Program.depth, Compiler.typeNameWithin, typed,
    shape.pointer, ValueType.isArray, shape.dimensions, shape.base, shape.components, shape.columns,
    bind, Except.bind]

theorem arithmetic_integer (signed : Bool) {operator : BinaryOperator} {form : IntegerForm}
    (words : inst.words = [type, result, left, right])
    (operates : BinaryOperator.ofOp? inst.op = some operator)
    (typed : c.program.getType type = .ok found) (isLeft : c.IsOperand width size left first)
    (isRight : c.IsOperand width size right second)
    (formed : c.integerForm inst.op operator found.base left = .ok form)
    (shape : form.castsResult = true → found.IsInteger width signed size) :
    Emit.arithmetic inst c = .ok (form.expression first second width size signed).text c := by
  have isFirst := operandText_ok isLeft form.left
  have isSecond := operandText_ok isRight form.right
  have texts : c.operandTexts form left right = .ok ((first.as width size form.left).text,
      (second.as width size form.right).text) := by
    unfold Compiler.operandTexts
    cases chosen : form.left <;>
      simp_all [Compiler.operandText, bind, Except.bind, pure, Except.pure]
  have written : c.integerText inst.op operator type left right =
      .ok (form.expression first second width size signed).text := by
    cases casts : form.castsResult with
    | false =>
      simp only [Compiler.integerText, typed, formed, texts, casts, IntegerForm.expression,
        IntegerExpression.text_binary, Bool.false_eq_true, if_false, bind, Except.bind, pure,
        Except.pure]
    | true =>
      simp only [Compiler.integerText, typed, formed, texts, casts, if_true,
        typeName_integer typed (shape casts), IntegerForm.expression, IntegerExpression.text_cast,
        IntegerExpression.text_binary, bind,
        Except.bind, pure, Except.pure]
  simp [Emit.arithmetic, Emit.binaryOperation?, operates, Emit.need_bind, Emit.get_bind,
    Emit.word_bind, Emit.lift_ok, Instruction.word?, words, written]

namespace TypedInteger

@[simp] theorem ofInt_read {width : Nat} (signed : Bool) (bits : BitVec width) :
    BitVec.ofInt width (read signed bits) = bits := by
  cases signed <;> simp [read]

theorem read_inj {width : Nat} {x y : BitVec width} : read signed x = read signed y ↔ x = y :=
  ⟨fun same => by rw [← ofInt_read signed x, same, ofInt_read], fun same => by rw [same]⟩

@[simp] theorem convert_mk (bits : BitVec width.bits) (wanted : Bool) :
    convert width wanted ⟨width, signed, bits⟩ = ⟨width, wanted, bits⟩ := by
  simp [convert, value]

end TypedInteger

theorem eval_as {names : String → Option TypedInteger} {bits : BitVec width.bits}
    (named : names operand.text = some ⟨width, operand.signed, bits⟩) (wanted : Option Bool) :
    (operand.as width size wanted).eval size names =
      some ⟨width, wanted.getD operand.signed, bits⟩ := by
  cases wanted with
  | none => exact named
  | some wanted =>
    by_cases same : operand.signed = wanted <;>
      simp [IntegerOperand.as, same, IntegerExpression.eval, named]

end

/-- A program with values 10 and 11 of a signed type and 20 of the unsigned one. -/
def mixedIntegers (width : IntWidth) (size : Nat) : Compiler :=
  .new
    { records :=
        { bound := 30
          items := ⟨[
            (1, .type { base := .integer width true, width := width.bits, components := size }),
            (2, .type { base := .integer width false, width := width.bits, components := size }),
            (3, .type { base := .boolean, width := 1, components := size })]⟩ }
      resultTypes := ⟨[(10, 1), (11, 1), (20, 2)]⟩ } {}

theorem mixedIntegers_operand (width : IntWidth) (size : Nat) :
    (mixedIntegers width size).IsOperand width size 10 ⟨true, "_10"⟩ ∧
      (mixedIntegers width size).IsOperand width size 11 ⟨true, "_11"⟩ ∧
      (mixedIntegers width size).IsOperand width size 20 ⟨false, "_20"⟩ :=
  ⟨⟨⟨_, rfl, rfl, rfl, rfl, rfl, rfl⟩, rfl⟩, ⟨⟨_, rfl, rfl, rfl, rfl, rfl, rfl⟩, rfl⟩,
    ⟨⟨_, rfl, rfl, rfl, rfl, rfl, rfl⟩, rfl⟩⟩

def mixedNames (width : IntWidth) (x y z : BitVec width.bits) : String → Option TypedInteger
  | "_10" => some ⟨width, true, x⟩
  | "_11" => some ⟨width, true, y⟩
  | "_20" => some ⟨width, false, z⟩
  | _ => none

end SpirvMetal
