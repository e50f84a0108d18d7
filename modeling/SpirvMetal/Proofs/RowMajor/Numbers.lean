import Mathlib.Logic.Nontrivial.Defs
import Mathlib.Tactic.Ring
import SpirvMetal.Metal.Enclose
import SpirvMetal.Metal.Helper.Source
import SpirvMetal.Metal.Operator

/-!
What the texts for parts of matrices compute.
-/

namespace SpirvMetal

open Option
open HelperDefinition (rowMajorElement)

/-- A value, with the size that its type says. The columns of a matrix come first. -/
inductive Numbers (α : Type)
  | scalar (number : α)
  | vector (size : Nat) (components : Fin size → α)
  | matrix (columns rows : Nat) (entries : Fin columns → Fin rows → α)

theorem rowMajorElement_lt {columns rows column row : Nat} (within : column < columns)
    (below : row < rows) :
    (rowMajorElement columns rows column row).1 < columns ∧
      (rowMajorElement columns rows column row).2 < rows := by
  have last : row * columns + column < rows * columns :=
    calc row * columns + column < row * columns + columns := by omega
      _ = (row + 1) * columns := by ring
      _ ≤ rows * columns := Nat.mul_le_mul_right _ below
  exact ⟨Nat.div_lt_of_lt_mul last, Nat.mod_lt _ (by omega)⟩

namespace Numbers

variable {α : Type}

def part? (index : Nat) : Numbers α → Option (Numbers α)
  | scalar _ => none
  | vector size components =>
    if inside : index < size then some (scalar (components ⟨index, inside⟩)) else none
  | matrix columns rows entries =>
    if inside : index < columns then some (vector rows (entries ⟨index, inside⟩)) else none

def follow (path : List Nat) (value : Numbers α) : Option (Numbers α) :=
  path.foldlM (fun value index => value.part? index) value

def transpose? : Numbers α → Option (Numbers α)
  | matrix columns rows entries => some (matrix rows columns fun row column => entries column row)
  | _ => none

def convert? (columns rows : Nat) : Numbers α → Option (Numbers α)
  | matrix storedColumns storedRows entries =>
    if same : storedColumns = columns ∧ storedRows = rows then
      some (matrix columns rows fun column row =>
        entries (Fin.cast same.1.symm ⟨_, (rowMajorElement_lt column.isLt row.isLt).1⟩)
          (Fin.cast same.2.symm ⟨_, (rowMajorElement_lt column.isLt row.isLt).2⟩))
    else none
  | _ => none

/-- A value as one of a type with these sizes, which it has to have already. -/
def cast? (components columns : Nat) : Numbers α → Option (Numbers α)
  | scalar number => if components = 1 ∧ columns = 1 then some (scalar number) else none
  | vector size values => if components = size ∧ columns = 1 then some (vector size values) else
    none
  | matrix held rows entries =>
    if components = rows ∧ columns = held then some (matrix held rows entries) else none

end Numbers

/-- The numbers lead to a column of a matrix, or to an entry. -/
inductive InMatrix (columns rows : Nat) : List Nat → Prop
  | column {column : Nat} (inside : column < columns) : InMatrix columns rows [column]
  | entry {column row : Nat} (inside : column < columns) (below : row < rows) :
      InMatrix columns rows [column, row]

/-- The texts that parts of matrices are read with. -/
inductive Expression
  | name (text : String)
  | index (whole : Expression) (text : String)
  | component (whole : Expression) (letter : String)
  | enclosed (whole : Expression)
  | transpose (whole : Expression)
  | convert (columns rows : Nat) (whole : Expression)
  | cast (type : String) (components columns : Nat) (whole : Expression)

namespace Expression

def text : Expression → String
  | name text => text
  | index whole text => s!"{whole.text}[{text}]"
  | component whole letter => s!"{whole.text}.{letter}"
  | enclosed whole => enclose whole.text
  | transpose whole => s!"transpose({whole.text})"
  | convert columns rows whole => s!"spvConvertFromRowMajor{columns}x{rows}({whole.text})"
  | cast type _ _ whole => s!"{type}({whole.text})"

theorem text_name (text : String) : (name text).text = text := rfl

theorem text_index (whole : Expression) (text : String) :
    (index whole text).text = s!"{whole.text}[{text}]" := rfl

theorem text_component (whole : Expression) (letter : String) :
    (component whole letter).text = s!"{whole.text}.{letter}" := rfl

def letterIndex? : String → Option Nat
  | "x" => some 0
  | "y" => some 1
  | "z" => some 2
  | "w" => some 3
  | _ => none

theorem letterIndex?_componentLetter {number : Nat} (short : number < 4) :
    letterIndex? (componentLetter number) = some number := by
  obtain rfl | rfl | rfl | rfl : number = 0 ∨ number = 1 ∨ number = 2 ∨ number = 3 := by omega
  all_goals rfl

/-- The value of an expression, given those of names and of the texts of indices. -/
def eval {α : Type} (names : String → Option (Numbers α)) (indices : String → Option Nat) :
    Expression → Option (Numbers α)
  | name text => names text
  | index whole text => do (← whole.eval names indices).part? (← indices text)
  | component whole letter => do (← whole.eval names indices).part? (← letterIndex? letter)
  | enclosed whole => whole.eval names indices
  | transpose whole => do (← whole.eval names indices).transpose?
  | convert columns rows whole => do (← whole.eval names indices).convert? columns rows
  | cast _ components columns whole => do (← whole.eval names indices).cast? components columns

end Expression

/-- The entry of the parameter that a conversion puts into a column and a row. -/
def convertedEntry (columns rows column row : Nat) : Expression :=
  let (i, j) := rowMajorElement columns rows column row
  .index (.index (.name "m") (toString i)) (toString j)

theorem rowMajorColumn_eq (columns rows column : Nat) :
    HelperDefinition.rowMajorColumn columns rows column = applied s!"float{rows}"
        ((List.range rows).map fun row => (convertedEntry columns rows column row).text) := by
  have opens : "m[" = "m" ++ "[" := by decide
  have next : "][" = "]" ++ "[" := by decide
  have entry (row : Nat) : (convertedEntry columns rows column row).text =
      s!"m[{(rowMajorElement columns rows column row).1}][{
        (rowMajorElement columns rows column row).2}]" := by
    unfold convertedEntry
    obtain ⟨i, j⟩ := rowMajorElement columns rows column row
    simp only [Expression.text_index, Expression.text_name, toString, opens, next,
      String.append_assoc]
  simp only [entry]
  rfl

variable {α : Type} {names : String → Option (Numbers α)} {indices : String → Option Nat}

theorem convertedEntry_eval {columns rows : Nat} {entries : Fin columns → Fin rows → α}
    (argument : names "m" = some (.matrix columns rows entries))
    (literal : ∀ number, indices (toString number) = some number) (column : Fin columns)
    (row : Fin rows) :
    (convertedEntry columns rows column row).eval names indices =
      (Numbers.matrix columns rows entries).convert? columns rows >>=
        Numbers.follow [column, row] := by
  obtain ⟨inside, below⟩ := rowMajorElement_lt column.isLt row.isLt
  simp only [convertedEntry, Expression.eval, argument, literal, Option.bind_eq_bind,
    Option.bind_some, Numbers.part?, inside, below, dite_true, Numbers.convert?, and_self,
    Numbers.follow, List.foldlM_cons, List.foldlM_nil, column.isLt, row.isLt]
  rfl

/-- A conversion as its helper writes it: each entry of the result is the one that it is taken for. -/
structure IsConversion (columns rows : Nat) : Prop where
  text : ∀ column, HelperDefinition.rowMajorColumn columns rows column = applied s!"float{rows}"
    ((List.range rows).map fun row => (convertedEntry columns rows column row).text)
  value : ∀ {α : Type} {names : String → Option (Numbers α)} {indices : String → Option Nat}
    {entries : Fin columns → Fin rows → α}, names "m" = some (.matrix columns rows entries) →
    (∀ number, indices (toString number) = some number) →
    ∀ (column : Fin columns) (row : Fin rows),
      (convertedEntry columns rows column row).eval names indices =
        (Numbers.matrix columns rows entries).convert? columns rows >>=
          Numbers.follow [column, row]

theorem isConversion (columns rows : Nat) : IsConversion columns rows :=
  ⟨rowMajorColumn_eq columns rows, convertedEntry_eval⟩

def storedSize (columns rows : Nat) (transposed : Bool) : Nat × Nat :=
  if transposed then (rows, columns) else (columns, rows)

def storedEntry (columns rows : Nat) (transposed : Bool) (column row : Nat) : Nat × Nat :=
  if transposed then (row, column) else rowMajorElement columns rows column row

theorem storedEntry_lt {columns rows column row : Nat} (transposed : Bool)
    (within : column < columns) (below : row < rows) :
    (storedEntry columns rows transposed column row).1 <
        (storedSize columns rows transposed).1 ∧
      (storedEntry columns rows transposed column row).2 <
        (storedSize columns rows transposed).2 := by
  cases transposed with
  | true => exact ⟨below, within⟩
  | false => exact rowMajorElement_lt within below

namespace Numbers

def readRows? (columns rows : Nat) (transposed : Bool) (stored : Numbers α) : Option (Numbers α) :=
  if transposed then stored.transpose? else stored.convert? columns rows

def ofStored (columns rows : Nat) (transposed : Bool) (entries : Nat → Nat → α) : Numbers α :=
  matrix (storedSize columns rows transposed).1 (storedSize columns rows transposed).2
    fun i j => entries i j

variable {columns rows : Nat} {transposed : Bool} {entries : Nat → Nat → α}

theorem readRows?_ofStored :
    (ofStored columns rows transposed entries).readRows? columns rows transposed =
      some (matrix columns rows fun column row =>
        entries (storedEntry columns rows transposed column row).1
          (storedEntry columns rows transposed column row).2) := by
  cases transposed with
  | true => rfl
  | false =>
    simp only [ofStored, readRows?, storedSize, storedEntry, convert?, Bool.false_eq_true,
      if_false, and_self, dite_true]
    rfl

theorem follow_matrix_entry {held below column row : Nat} {entries : Fin held → Fin below → α} :
    follow [column, row] (matrix held below entries) = if inside : column < held ∧ row < below then
        some (scalar (entries ⟨column, inside.1⟩ ⟨row, inside.2⟩)) else none := by
  by_cases first : column < held <;> by_cases second : row < below <;>
    simp [follow, part?, first, second]

theorem exists_moved (transposed : Bool) (wide : 2 ≤ columns) (high : 2 ≤ rows) (column : Nat) :
    ∃ row < rows, storedEntry columns rows transposed column row ≠ (column, row) := by
  cases transposed with
  | true =>
    by_cases first : column = 0
    · exact ⟨1, high, by simp [storedEntry, first]⟩
    · exact ⟨0, by omega, by simp [storedEntry, Ne.symm first]⟩
  | false =>
    by_cases first : column = 0
    · refine ⟨1, high, fun same => ?_⟩
      simp only [storedEntry, Bool.false_eq_true, if_false, rowMajorElement, first,
        Prod.mk.injEq, Nat.div_eq_zero_iff] at same
      obtain ⟨short, rest⟩ := same
      rw [Nat.mod_eq_of_lt (by omega)] at rest
      omega
    · refine ⟨0, by omega, fun same => ?_⟩
      simp only [storedEntry, Bool.false_eq_true, if_false, rowMajorElement, Prod.mk.injEq] at same
      have smaller : (0 * columns + column) / rows < column := by
        rw [Nat.zero_mul, Nat.zero_add]
        exact Nat.div_lt_self (by omega) (by omega)
      omega

/-- A content that has one number in a place, and another one everywhere else. -/
def marked (place : Nat × Nat) (mark other : α) (i j : Nat) : α :=
  if (i, j) = place then mark else other

theorem marked_of_ne {place : Nat × Nat} {mark other : α} {i j : Nat} (moved : place ≠ (i, j)) :
    marked place mark other i j = other := if_neg (Ne.symm moved)

variable {column row : Nat} {view : Numbers α → Option (Numbers α)}

theorem readRows?_entry (transposed : Bool) (entries : Nat → Nat → α) (inside : column < columns)
    (below : row < rows) :
    (ofStored columns rows transposed entries).readRows? columns rows transposed >>=
        follow [column, row] =
      some (scalar (entries (storedEntry columns rows transposed column row).1
        (storedEntry columns rows transposed column row).2)) := by
  rw [readRows?_ofStored, Option.bind_eq_bind, Option.bind_some, follow_matrix_entry,
    dif_pos ⟨inside, below⟩]

theorem follow_ofStored {value : Numbers α}
    (found : (ofStored columns rows transposed entries).follow [column, row] = some value) :
    value = scalar (entries column row) := by
  rw [ofStored, follow_matrix_entry] at found
  split at found
  · exact (Option.some.inj found).symm
  · cases found

theorem follow_column_part (value : Numbers α) :
    value.follow [column, row] = value.follow [column] >>= part? row := by
  simp [follow]

theorem column_disagrees [Nontrivial α] (same : ∀ value seen, view value = some seen → seen = value)
    (wide : 2 ≤ columns) (high : 2 ≤ rows) (inside : column < columns) :
    ∃ entries : Nat → Nat → α, (ofStored columns rows transposed entries).follow [column] >>= view ≠
      (ofStored columns rows transposed entries).readRows? columns rows transposed >>=
        follow [column] := by
  obtain ⟨row, below, moved⟩ := exists_moved transposed wide high column
  obtain ⟨mark, other, differ⟩ := exists_pair_ne α
  let place := storedEntry columns rows transposed column row
  refine ⟨marked place mark other, fun agree => differ ?_⟩
  -- both sides have the mark in this row, but the column as it is stored does not
  have whole := readRows?_entry transposed (marked place mark other) inside below
  rw [readRows?_ofStored, Option.bind_eq_bind, Option.bind_some, follow_column_part] at whole
  rw [readRows?_ofStored, bind_eq_bind, bind_some] at agree
  rw [← agree] at whole
  obtain ⟨seen, viewed, part⟩ := bind_eq_some_iff.mp whole
  obtain ⟨value, found, viewed⟩ := bind_eq_some_iff.mp viewed
  obtain rfl := same value seen viewed
  have own := follow_ofStored
    ((follow_column_part _).trans (bind_eq_some_iff.mpr ⟨_, found, part⟩))
  rw [marked_of_ne moved] at own
  exact (if_pos rfl).symm.trans (scalar.inj own)

/-- An entry that is read as it is stored is always that of the whole matrix only if it is stored in
its own place. -/
theorem entry_agrees_iff [Nontrivial α]
    (same : ∀ number, view (scalar number) = some (scalar number)) (inside : column < columns)
    (below : row < rows) :
    (∀ entries : Nat → Nat → α,
      (ofStored columns rows transposed entries).follow [column, row] >>= view =
        (ofStored columns rows transposed entries).readRows? columns rows transposed >>=
          follow [column, row]) ↔
      storedEntry columns rows transposed column row = (column, row) := by
  simp only [readRows?_entry transposed _ inside below]
  constructor
  · intro agree
    by_contra moved
    obtain ⟨mark, other, differ⟩ := exists_pair_ne α
    let place := storedEntry columns rows transposed column row
    obtain ⟨value, found, viewed⟩ := Option.bind_eq_some_iff.mp (agree (marked place mark other))
    obtain rfl := follow_ofStored found
    rw [same, marked_of_ne moved] at viewed
    exact differ ((if_pos rfl).symm.trans (scalar.inj (Option.some.inj viewed)).symm)
  · intro own entries
    have held := storedEntry_lt transposed inside below
    rw [own] at held
    rw [ofStored, follow_matrix_entry, dif_pos held, Option.bind_eq_bind, Option.bind_some, same,
      own]

theorem part_agrees_iff [Nontrivial α] {numbers : List Nat} (wide : 2 ≤ columns) (high : 2 ≤ rows)
    (inside : InMatrix columns rows numbers)
    (same : ∀ value seen, view value = some seen → seen = value)
    (scalars : numbers.length = 2 → ∀ number, view (scalar number) = some (scalar number)) :
    (∀ entries : Nat → Nat → α,
      (ofStored columns rows transposed entries).follow numbers >>= view =
        (ofStored columns rows transposed entries).readRows? columns rows transposed >>=
          follow numbers) ↔
      ∃ column row, numbers = [column, row] ∧
        storedEntry columns rows transposed column row = (column, row) := by
  cases inside with
  | column inside =>
    obtain ⟨entries, differ⟩ := column_disagrees same wide high inside
    exact ⟨fun agree => absurd (agree entries) differ, fun ⟨_, _, length, _⟩ => by simp at length⟩
  | entry inside below =>
    rw [entry_agrees_iff (scalars rfl) inside below]
    simp

end Numbers

end SpirvMetal
