import SpirvMetal.Proofs.Helpers.Written
import SpirvMetal.Proofs.RowMajor.Numbers

/-!
The lines that chains, loads and extractions write, as computations on numbers: a chain that goes on
into a matrix reads the entry in its own place, and the load of a whole matrix transposes or
converts it.
-/

namespace SpirvMetal

open List

variable {α : Type}

/-- A line that gives a value to a name. The target may declare it. -/
structure Assignment where
  target : String
  name : String
  value : Expression

def Assignment.text (line : Assignment) : String := s!"{line.target} = {line.value.text};"

def Assignment.run (indices : String → Option Nat) (names : String → Option (Numbers α)) :
    List Assignment → Option (String → Option (Numbers α))
  | [] => some names
  | line :: rest => do
    let value ← line.value.eval names indices
    run indices (fun text => if text = line.name then some value else names text) rest

structure Computation where
  lines : List Assignment
  result : Expression

namespace Computation

variable {target name : String} {value : Expression} {names : String → Option (Numbers α)}
  {indices : String → Option Nat}

def eval (computation : Computation) (names : String → Option (Numbers α))
    (indices : String → Option Nat) : Option (Numbers α) := do
  computation.result.eval (← Assignment.run indices names computation.lines) indices

theorem eval_single :
    eval ⟨[⟨target, name, value⟩], .name name⟩ names indices = value.eval names indices := by
  cases found : value.eval names indices <;> simp [eval, Assignment.run, Expression.eval, found]

theorem run_append {first second : List Assignment} :
    Assignment.run indices names (first ++ second) =
      Assignment.run indices names first >>= fun names => Assignment.run indices names second := by
  induction first generalizing names with
  | nil => rfl
  | cons line rest ih =>
    cases found : line.value.eval names indices <;> simp [Assignment.run, found, ih]

theorem eval_part {lines : List Assignment} {whole : String} {path : List Nat}
    (part : ∀ names : String → Option (Numbers α),
      value.eval names indices = names whole >>= Numbers.follow path) :
    eval ⟨lines ++ [⟨target, name, value⟩], .name name⟩ names indices =
      eval ⟨lines, .name whole⟩ names indices >>= Numbers.follow path := by
  simp only [eval, run_append, bind_assoc]
  refine bind_congr fun names => ?_
  cases found : value.eval names indices <;> simp [Assignment.run, Expression.eval, found, ← part]

theorem eval_transposed {target' raw : String} :
    eval ⟨[⟨target, raw, value⟩, ⟨target', name, .transpose (.name raw)⟩], .name name⟩ names
      indices = value.eval names indices >>= Numbers.transpose? := by
  cases found : value.eval names indices with
  | none => simp [eval, Assignment.run, found]
  | some value =>
    cases turned : value.transpose? <;> simp [eval, Assignment.run, Expression.eval, found, turned]

/-- On the way the lines are written, and then the text is that of an id. -/
structure Written (computation : Computation) (id : Id) (before after : Compiler) : Prop where
  lines : after.pass.lines.toList =
    before.pass.lines.toList ++ computation.lines.map fun line => ⟨before.pass.depth, line.text⟩
  text : after.pass.expressions.find? id = some computation.result.text

end Computation

/-- What a chain or a load leaves as it is. -/
structure Compiler.Apart (before after : Compiler) : Prop where
  program : after.program = before.program
  plan : after.plan = before.plan
  depth : after.pass.depth = before.pass.depth

namespace Emit

variable {c c' : Compiler} {u : Unit}

theorem textOf_of_find {id : Id} {text : String} (found : c.pass.expressions.find? id = some text) :
    c.textOf id = .ok text := by
  unfold Compiler.textOf
  rw [found]

theorem setBacking_ok {result source : Id} (done : setBacking result source c = .ok u c') :
    ∃ backing, c' = { c with pass := { c.pass with backing } } := by
  replace done := get_bind.mp done
  cases found : c.backingVariable? source with
  | none =>
    simp only [found] at done
    exact ⟨c.pass.backing, (pure_ok.mp done).2.symm⟩
  | some var =>
    simp only [found] at done
    exact ⟨_, (modifyPass_ok.mp done).symm⟩

theorem define_computes {type result : Id} {value : Expression}
    (done : define type result value.text c = .ok u c') :
    c.Apart c' ∧ ∃ target, Computation.Written
      ⟨[⟨target, temporary result, value⟩], .name (temporary result)⟩ result c c' := by
  replace done := get_bind.mp done
  -- the line differs only in whether the name is declared there
  have written (target : String) (line : String)
      (same : line = (Assignment.mk target (temporary result) value).text)
      (done : (do statement line; setText result (temporary result) : Emit Unit) c = .ok u c') :
      c.Apart c' ∧ ∃ target, Computation.Written
        ⟨[⟨target, temporary result, value⟩], .name (temporary result)⟩ result c c' := by
    replace done := modify_bind.mp done
    obtain rfl := modifyPass_ok.mp done
    refine ⟨⟨rfl, rfl, rfl⟩, target, ⟨?_, ?_⟩⟩
    · simp [same]
    · simp [Assoc.find?_insert, Expression.text_name]
  dsimp only at done
  split at done
  · exact written (temporary result) _ rfl done
  · obtain ⟨declared, _, done⟩ := lift_bind.mp done
    exact written declared _ rfl done

theorem accessChain_ok {inst : Instruction} {fromPointer : Bool} {pointerType result base : Id}
    {path : List Id} (words : inst.words = pointerType :: result :: base :: path)
    (done : accessChain inst fromPointer c = .ok u c') :
    ∃ place type, c.place base path fromPointer = .ok place ∧
      c.program.getType place.type = .ok type ∧ c.Apart c' ∧
      c'.pass.lines = c.pass.lines ∧ c'.textOf result = .ok place.text ∧
      c'.pass.packed =
        (if place.packed && 1 < type.components then addNew c.pass.packed result
        else c.pass.packed) ∧
      c'.pass.rowMajor =
        (if place.rowMajor && type.isMatrix then addNew c.pass.rowMajor result
        else c.pass.rowMajor) := by
  have second : inst.word? 1 = some result := by simp [Instruction.word?, words]
  have third : inst.word? 2 = some base := by simp [Instruction.word?, words]
  obtain ⟨_, _, done⟩ := need_bind.mp done
  replace done := (word_known second).mp done
  replace done := (word_known third).mp done
  obtain ⟨place, placed, done⟩ := read_bind.mp done
  rw [words, drop_succ_cons, drop_succ_cons, drop_succ_cons,
    drop_zero] at placed
  replace done := modify_bind.mp done
  obtain ⟨_, _, backing, done⟩ := bind_ok.mp done
  obtain ⟨backing, rfl⟩ := setBacking_ok backing
  obtain ⟨type, typed, done⟩ := getType_bind.mp done
  refine ⟨place, type, placed, typed, ?_⟩
  cases packs : (place.packed && decide (1 < type.components)) <;>
    cases rows : (place.rowMajor && type.isMatrix) <;>
    simp only [packs, rows, Bool.false_eq_true, if_false, if_true] at done ⊢
  · obtain ⟨-, rfl⟩ := pure_ok.mp done
    exact ⟨⟨rfl, rfl, rfl⟩, rfl, textOf_of_find (by simp [Assoc.find?_insert]), rfl, rfl⟩
  · obtain rfl := modifyPass_ok.mp done
    exact ⟨⟨rfl, rfl, rfl⟩, rfl, textOf_of_find (by simp [Assoc.find?_insert]), rfl, rfl⟩
  · replace done := modify_bind.mp done
    obtain ⟨-, rfl⟩ := pure_ok.mp done
    exact ⟨⟨rfl, rfl, rfl⟩, rfl, textOf_of_find (by simp [Assoc.find?_insert]), rfl, rfl⟩
  · replace done := modify_bind.mp done
    obtain rfl := modifyPass_ok.mp done
    exact ⟨⟨rfl, rfl, rfl⟩, rfl, textOf_of_find (by simp [Assoc.find?_insert]), rfl, rfl⟩

end Emit

namespace Compiler

variable {c : Compiler} {base : Id} {path more : List Id} {start : Place}

theorem placeFrom_append (begun : path ≠ [] ∨ c.program.variableAt? base = none) :
    c.placeFrom base start (path ++ more) =
      c.placeFrom base start path >>= fun place => more.foldlM c.stepInto place := by
  unfold placeFrom
  cases isVariable : (c.program.variableAt? base).isSome with
  | false => simp only [foldlM_append]
  | true =>
    obtain ⟨index, rest, rfl⟩ := exists_cons_of_ne_nil
      (begun.resolve_right fun none => by simp [none] at isVariable)
    simp only [cons_append, bind_assoc]
    refine bind_congr fun next => ?_
    cases next with
    | none => simp only [← cons_append, foldlM_append]
    | some next => simp only [foldlM_append]

/-- The chain is past the step that depends on its base. -/
def Continues (c : Compiler) (base : Id) (path : List Id) (fromPointer : Bool) : Prop :=
  fromPointer.toNat < path.length ∨ c.program.variableAt? base = none ∧ fromPointer = false

theorem place_append {fromPointer : Bool} (continues : c.Continues base path fromPointer) :
    c.place base (path ++ more) fromPointer =
      c.place base path fromPointer >>= fun place => more.foldlM c.stepInto place := by
  unfold place
  cases c.program.typeOf? base with
  | none => rfl
  | some pointer =>
    simp only [bind_assoc]
    refine bind_congr fun pointed => bind_congr fun text => ?_
    cases fromPointer with
    | false =>
      refine placeFrom_append (continues.imp (fun longer => ?_) And.left)
      rintro rfl
      cases longer
    | true =>
      have longer : 1 < path.length := continues.resolve_right (by simp)
      obtain ⟨index, rest, rfl⟩ := exists_cons_of_length_pos (by omega : 0 < path.length)
      simp only [cons_append, bind_assoc]
      refine bind_congr fun text => placeFrom_append (.inl ?_)
      rintro rfl
      simp at longer

end Compiler

/-- A type of matrices, with the types of its columns and of its entries. -/
structure Program.IsMatrixType (program : Program) (id columnId entryId : Id)
    (type column entry : ValueType) : Prop where
  typed : program.getType id = .ok type
  isMatrix : type.isMatrix = true
  numeric : type.isStruct = false ∧ type.isOpaque = false
  parent : type.parent = some columnId
  columnTyped : program.getType columnId = .ok column
  columnIsVector : column.isVector = true
  columnNumeric : column.isStruct = false ∧ column.isOpaque = false
  columnSize : column.components = type.components
  short : type.components ≤ 4
  columnParent : column.parent = some entryId
  entryTyped : program.getType entryId = .ok entry
  entryIsScalar : entry.components = 1 ∧ entry.columns = 1 ∧ entry.isArray = false
  entryNumeric : entry.isOpaque = false

namespace Program.IsMatrixType

variable {program : Program} {id columnId entryId : Id} {type column entry : ValueType}

section

variable (matrix : program.IsMatrixType id columnId entryId type column entry)

include matrix

theorem wide : 2 ≤ type.columns := by
  have found := matrix.isMatrix
  simp only [ValueType.isMatrix, Bool.and_eq_true, decide_eq_true_eq] at found
  exact found.1

theorem high : 2 ≤ type.components := by
  have found := matrix.columnIsVector
  simp only [ValueType.isVector, Bool.and_eq_true, decide_eq_true_eq] at found
  rw [← matrix.columnSize]
  exact found.1.1

theorem unarrayed : type.isArray = false ∧ column.isArray = false := by
  have whole := matrix.isMatrix
  have part := matrix.columnIsVector
  simp only [ValueType.isMatrix, ValueType.isVector, Bool.and_eq_true,
    Bool.not_eq_true'] at whole part
  exact ⟨whole.2, part.2⟩

theorem unlike : type.isVector = false ∧ column.isMatrix = false ∧ column.columns = 1 := by
  have whole := matrix.isMatrix
  have part := matrix.columnIsVector
  simp only [ValueType.isMatrix, ValueType.isVector, Bool.and_eq_true,
    decide_eq_true_eq] at whole part
  simp [ValueType.isMatrix, ValueType.isVector, part.1.2]
  omega

end

end Program.IsMatrixType

namespace Compiler

/-- The number that an index stands for in the text. -/
structure Denotes (c : Compiler) (indices : String → Option Nat) (id : Id) (number : Nat) : Prop
    where
  text : ∀ text, c.textOf id = .ok text → indices text = some number
  literal : ∀ known, c.literalIndex? id = some known → known = number

variable {c : Compiler} {columnId entryId : Id} {type column entry : ValueType} {place next : Place}
  {index : Id} {indices : String → Option Nat} {number : Nat}

/-- The expression is the text of a place, and has the value of a part of a matrix. -/
structure Reads (indices : String → Option Nat) (source : String) (path : List Nat)
    (place : Place) (expression : Expression) : Prop where
  text : place.text = expression.text
  value : ∀ (α : Type) (names : String → Option (Numbers α)) (whole : Numbers α),
    names source = some whole → expression.eval names indices = whole.follow path

theorem Reads.start (place : Place) : Reads indices place.text [] place (.name place.text) where
  text := rfl
  value _ _ _ named := named

theorem text_step (place : Place) (step : AccessStep) (type : Id) :
    (place.step step type).text = place.text ++ step.text := by
  simp [Place.text, Place.step, String.join_append, String.append_assoc]

theorem Reads.step {source : String} {path : List Nat} {expression : Expression} {partId : Id}
    (reads : Reads indices source path place expression)
    (typed : c.program.getType place.type = .ok type)
    (divides : type.isMatrix = true ∨ type.isVector = true) (isArray : type.isArray = false)
    (isStruct : type.isStruct = false) (parent : type.parent = some partId)
    (short : type.isVector = true → number < 4) (denotes : c.Denotes indices index number)
    (found : c.stepInto place index = .ok next) :
    next.type = partId ∧ next.packed = place.packed ∧
      ∃ further, Reads indices source (path ++ [number]) next further := by
  have parts : (type.isMatrix || type.isVector) = true := by simpa using divides
  simp only [stepInto, typed, bind, Except.bind, isArray, isStruct, parts, Bool.false_eq_true,
    if_false, if_true] at found
  simp only [intoVector, parent, pure_bind] at found
  have further (α : Type) (names : String → Option (Numbers α)) (whole : Numbers α)
      (named : names source = some whole) :
      expression.eval names indices >>= Numbers.part? number = whole.follow (path ++ [number]) := by
    simp [reads.value α names whole named, Numbers.follow]
  split at found
  · rename_i known isVector literal
    obtain rfl := Except.ok.inj found
    obtain rfl := denotes.literal known literal
    refine ⟨rfl, rfl, .component expression (componentLetter known), ?_, fun α names whole named => ?_⟩
    · change (place.step _ partId).text = _
      rw [text_step, reads.text, Expression.text_component]
      simp only [AccessStep.text, toString, String.append_assoc]
    · rw [← further α names whole named]
      simp [Expression.eval, Expression.letterIndex?_componentLetter (short isVector)]
  · obtain ⟨text, spelled, found⟩ := Except.bind_ok.mp found
    obtain rfl := Except.ok.inj found
    refine ⟨rfl, rfl, .index expression text, ?_, fun α names whole named => ?_⟩
    · change (place.step _ partId).text = _
      rw [text_step, reads.text, Expression.text_index]
      simp only [AccessStep.text, toString, String.append_assoc]
    · rw [← further α names whole named]
      simp [Expression.eval, denotes.text text spelled]

theorem Reads.part {ids : List Id} {numbers : List Nat}
    (matrix : c.program.IsMatrixType place.type columnId entryId type column entry)
    (inside : InMatrix type.columns type.components numbers)
    (denoted : List.Forall₂ (c.Denotes indices) ids numbers)
    (found : ids.foldlM c.stepInto place = .ok next) :
    (∃ expression, Reads indices place.text numbers next expression) ∧
      ∃ part, c.program.getType next.type = .ok part ∧ part.isOpaque = false ∧
        part.isArray = false ∧ part.isMatrix = false ∧
        (numbers.length = 2 → part.components = 1 ∧ part.columns = 1) := by
  have stepColumn {index number : Nat} {middle : Place} (denotes : c.Denotes indices index number)
      (found : c.stepInto place index = .ok middle) :=
    (Reads.start place).step matrix.typed (.inl matrix.isMatrix) matrix.unarrayed.1
      matrix.numeric.1 matrix.parent (fun isVector => by simp [matrix.unlike.1] at isVector) denotes
      found
  cases inside with
  | column inside =>
    cases denoted with
    | cons first rest =>
      cases rest
      simp only [foldlM_cons, foldlM_nil, bind_pure] at found
      obtain ⟨rfl, -, reads⟩ := stepColumn first found
      exact ⟨reads, column, matrix.columnTyped, matrix.columnNumeric.2, matrix.unarrayed.2,
        matrix.unlike.2.1, nofun⟩
  | entry inside below =>
    cases denoted with
    | cons first rest =>
      cases rest with
      | cons second rest =>
        cases rest
        simp only [foldlM_cons, foldlM_nil, bind_pure] at found
        obtain ⟨middle, stepped, found⟩ := Except.bind_ok.mp found
        obtain ⟨rfl, -, expression, reads⟩ := stepColumn first stepped
        obtain ⟨rfl, -, further⟩ := reads.step matrix.columnTyped (.inr matrix.columnIsVector)
          matrix.unarrayed.2 matrix.columnNumeric.1 matrix.columnParent
          (fun _ => below.trans_le matrix.short) second found
        obtain ⟨one, single, unarrayed⟩ := matrix.entryIsScalar
        exact ⟨further, entry, matrix.entryTyped, matrix.entryNumeric, unarrayed,
          by simp [ValueType.isMatrix, single], fun _ => ⟨one, single⟩⟩

end Compiler

namespace Emit

variable {c c' : Compiler} {u : Unit} {inst : Instruction} {typeId result pointer : Id}
  {type : ValueType}
variable {id columnId entryId : Id} {expression : Expression} {column entry : ValueType}
  {numbers : List Nat}

def viewed (casts : Bool) (type : ValueType) (value : Numbers α) : Option (Numbers α) :=
  if casts then value.cast? type.components type.columns else some value

theorem viewed_same {casts : Bool} {value seen : Numbers α}
    (found : viewed casts type value = some seen) : seen = value := by
  unfold viewed at found
  split at found
  · cases value <;> simp only [Numbers.cast?, Option.ite_none_right_eq_some,
    Option.some.injEq] at found <;> exact found.2.symm
  · exact (Option.some.inj found).symm

theorem typeName_ok {name : String} :
    typeName id c = .ok name c' ↔ c.typeName id = .ok name ∧ c = c' := by
  simp [typeName, bind_ok, get_ok, lift_ok, and_assoc, and_comm]

theorem load_part (words : inst.words = [typeId, result, pointer])
    (typed : c.program.getType typeId = .ok type)
    (plain : type.isOpaque = false ∧ type.isArray = false ∧ type.isMatrix = false)
    (text : c.textOf pointer = .ok expression.text) (done : load inst c = .ok u c') :
    ∃ computation casts, Computation.Written computation result c c' ∧
      ∀ (α : Type) (names : String → Option (Numbers α)) (indices : String → Option Nat),
        computation.eval names indices = expression.eval names indices >>= viewed casts type := by
  obtain ⟨_, _, _, _, source, first, second, third, typing, spelled, loading⟩ := load_ok done
  simp only [Instruction.word?, words] at first second third
  cases first
  cases second
  cases third
  obtain rfl := Except.ok.inj (typed.symm.trans typing)
  obtain rfl := Except.ok.inj (text.symm.trans spelled)
  obtain ⟨_, backing, done⟩ := loading plain.1
  obtain ⟨backing, rfl⟩ := setBacking_ok backing
  simp only [plain.2.1, plain.2.2, Bool.and_false, Bool.false_eq_true, if_false] at done
  have written (value : Expression) {middle : Compiler}
      (done : define typeId result value.text middle = .ok u c')
      (same : middle.pass.lines = c.pass.lines) (level : middle.pass.depth = c.pass.depth) :
      ∃ computation, Computation.Written computation result c c' ∧
        ∀ (α : Type) (names : String → Option (Numbers α)) (indices : String → Option Nat),
          computation.eval names indices = value.eval names indices := by
    obtain ⟨-, target, written⟩ := define_computes done
    refine ⟨_, ⟨?_, written.text⟩, fun _ _ _ => Computation.eval_single⟩
    rw [written.lines, same, level]
  split at done
  · obtain ⟨name, _, naming, done⟩ := bind_ok.mp done
    obtain ⟨-, rfl⟩ := typeName_ok.mp naming
    obtain ⟨computation, written, value⟩ :=
      written (.cast name type.components type.columns expression) done rfl rfl
    exact ⟨computation, true, written, value⟩
  · obtain ⟨computation, written, value⟩ := written expression done rfl rfl
    refine ⟨computation, false, written, fun α names indices => ?_⟩
    rw [value]
    cases expression.eval names indices <;> rfl

theorem requireHelper_ok {helper : Helper} (done : requireHelper helper c = .ok u c') :
    ∃ session stale, c' = { c with session, pass := { c.pass with stale } } := by
  replace done := modify_bind.mp done
  exact ⟨_, _, (modify_ok.mp done).symm⟩

theorem loadRowMajor_computes {packed : Bool}
    (done : loadRowMajor typeId result type expression.text packed c = .ok u c') :
    c.Apart c' ∧ ∃ lines, Computation.Written ⟨lines, .name (temporary result)⟩ result c c' ∧
      ∀ (α : Type) (names : String → Option (Numbers α)) (indices : String → Option Nat),
        Computation.eval ⟨lines, .name (temporary result)⟩ names indices =
          expression.eval names indices >>= Numbers.readRows? type.columns type.components
            (type.columns = type.components || packed) := by
  unfold loadRowMajor at done
  cases transposed : (decide (type.columns = type.components) || packed) with
  | true =>
    simp only [transposed, if_true] at done
    obtain ⟨name, -, done⟩ := lift_bind.mp done
    replace done := modify_bind.mp done
    obtain ⟨_, defined, defining, done⟩ := bind_ok.mp done
    obtain rfl := modifyPass_ok.mp done
    let raw := s!"{temporary result}_raw"
    have defining : define typeId result (Expression.transpose (.name raw)).text _ =
      .ok () defined := defining
    obtain ⟨apart, target, written⟩ := define_computes defining
    refine ⟨{ apart with },
      [⟨s!"{name} {raw}", raw, expression⟩, ⟨target, temporary result, .transpose (.name raw)⟩],
      ⟨?_, written.text⟩, fun α names indices => ?_⟩
    · rw [written.lines]
      simp only [Array.toList_push, append_assoc]
      rfl
    · exact Computation.eval_transposed
  | false =>
    simp only [transposed, Bool.false_eq_true, if_false] at done
    cases conversion : Helper.rowMajor? type.columns type.components with
    | none =>
      simp only [conversion] at done
      exact (fail_ok done).elim
    | some helper =>
      simp only [conversion] at done
      obtain ⟨_, _, requiring, done⟩ := bind_ok.mp done
      obtain ⟨session, stale, rfl⟩ := requireHelper_ok requiring
      have done : define typeId result
        (Expression.convert type.columns type.components expression).text _ = .ok u c' := done
      obtain ⟨apart, target, written⟩ := define_computes done
      exact ⟨{ apart with }, _, { written with },
        fun α names indices => Computation.eval_single⟩

theorem load_matrix (words : inst.words = [typeId, result, pointer])
    (typed : c.program.getType typeId = .ok type) (isMatrix : type.isMatrix = true)
    (plain : type.isOpaque = false) (byRows : pointer ∈ c.pass.rowMajor)
    (text : c.textOf pointer = .ok expression.text) (done : load inst c = .ok u c') :
    c.Apart c' ∧ ∃ lines, Computation.Written ⟨lines, .name (temporary result)⟩ result c c' ∧
      ∀ (α : Type) (names : String → Option (Numbers α)) (indices : String → Option Nat),
        Computation.eval ⟨lines, .name (temporary result)⟩ names indices =
          expression.eval names indices >>= Numbers.readRows? type.columns type.components
            (type.columns = type.components || pointer ∈ c.pass.packed) := by
  have isArray : type.isArray = false := by simpa using (Bool.and_eq_true_iff.mp isMatrix).2
  obtain ⟨_, _, _, _, source, first, second, third, typing, spelled, loading⟩ := load_ok done
  simp only [Instruction.word?, words] at first second third
  cases first
  cases second
  cases third
  obtain rfl := Except.ok.inj (typed.symm.trans typing)
  obtain rfl := Except.ok.inj (text.symm.trans spelled)
  obtain ⟨_, backing, done⟩ := loading plain
  obtain ⟨backing, rfl⟩ := setBacking_ok backing
  simp only [isArray, isMatrix, byRows, decide_true, Bool.and_self, Bool.false_eq_true, if_false,
    if_true] at done
  obtain ⟨apart, lines, written, value⟩ := loadRowMajor_computes done
  exact ⟨{ apart with }, lines, { written with }, value⟩

theorem literalPath_matrix {path : String}
    (matrix : c.program.IsMatrixType id columnId entryId type column entry)
    (inside : InMatrix type.columns type.components numbers)
    (found : c.literalPath id numbers = .ok path) (whole : Expression) :
    ∃ part : Expression, part.text = whole.text ++ path ∧
      ∀ (α : Type) (names : String → Option (Numbers α)) (indices : String → Option Nat),
        (∀ number, indices (toString number) = some number) →
        part.eval names indices = whole.eval names indices >>= Numbers.follow numbers := by
  cases inside with
  | @column number inside =>
    simp only [Compiler.literalPath, matrix.typed, matrix.numeric.1, matrix.unlike.1,
      matrix.parent, Bool.false_and, Bool.false_eq_true, if_false, bind, Except.bind, pure,
      Except.pure] at found
    obtain rfl := Except.ok.inj found
    refine ⟨.index whole (toString number), ?_, fun α names indices literal => ?_⟩
    · rw [Expression.text_index]
      simp only [toString, String.append_assoc, String.append_empty]
    · simp only [Expression.eval, literal]
      cases whole.eval names indices <;> simp [Numbers.follow]
  | @entry number row inside below =>
    simp only [Compiler.literalPath, matrix.typed, matrix.numeric.1, matrix.unlike.1,
      matrix.parent, matrix.columnTyped, matrix.columnNumeric.1, matrix.columnIsVector,
      matrix.columnParent, Bool.false_and, Bool.false_eq_true, if_false, if_true, bind,
      Except.bind, pure, Except.pure] at found
    obtain rfl := Except.ok.inj found
    refine ⟨.component (.index whole (toString number)) (componentLetter row), ?_,
      fun α names indices literal => ?_⟩
    · rw [Expression.text_component, Expression.text_index]
      simp only [toString, String.append_assoc, String.append_empty]
    · have letter := Expression.letterIndex?_componentLetter (below.trans_le matrix.short)
      simp only [Expression.eval, literal, letter]
      cases whole.eval names indices <;> simp [Numbers.follow]

theorem compositeExtract_computes {partType whole : Id}
    (words : inst.words = partType :: result :: whole :: numbers)
    (composed : c.program.typeOf? whole = some id)
    (matrix : c.program.IsMatrixType id columnId entryId type column entry)
    (inside : InMatrix type.columns type.components numbers)
    (text : c.textOf whole = .ok expression.text) (done : compositeExtract inst c = .ok u c') :
    ∃ target part, Computation.Written
        ⟨[⟨target, temporary result, part⟩], .name (temporary result)⟩ result c c' ∧
      ∀ (α : Type) (names : String → Option (Numbers α)) (indices : String → Option Nat),
        (∀ number, indices (toString number) = some number) →
        part.eval names indices = expression.eval names indices >>= Numbers.follow numbers := by
  have first : inst.word? 0 = some partType := by simp [Instruction.word?, words]
  have second : inst.word? 1 = some result := by simp [Instruction.word?, words]
  have third : inst.word? 2 = some whole := by simp [Instruction.word?, words]
  replace done := (word_known third).mp done
  obtain ⟨_, found, done⟩ := text_bind.mp done
  obtain rfl := Except.ok.inj (text.symm.trans found)
  replace done := get_bind.mp done
  simp only [composed] at done
  obtain ⟨path, followed, done⟩ := lift_bind.mp done
  rw [words, drop_succ_cons, drop_succ_cons, drop_succ_cons,
    drop_zero] at followed
  replace done := (word_known first).mp done
  replace done := (word_known second).mp done
  obtain ⟨part, spelled, value⟩ := literalPath_matrix matrix inside followed (.enclosed expression)
  have spelled : part.text = enclose expression.text ++ path := spelled
  rw [← spelled] at done
  obtain ⟨-, target, written⟩ := define_computes done
  exact ⟨target, part, written, value⟩

end Emit

end SpirvMetal
