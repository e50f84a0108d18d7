import SpirvMetal.Proofs.Repeat.Recompile
import SpirvMetal.Proofs.RowMajor.Access

/-!
Parts of a matrix that is stored by rows, read in two ways: through a chain of indices that goes on
into the matrix, and from the whole matrix once it is loaded.
-/

namespace SpirvMetal

variable {α : Type}

/-- A part of a matrix, and the ids of the results that it is read with. -/
structure MatrixPart where
  base : Id
  /-- Whether the chain starts with a step among the neighbours of its base. -/
  fromPointer : Bool
  path : List Id
  steps : List Id
  numbers : List Nat
  matrixType : Id
  partType : Id
  matrixPointerType : Id
  partPointerType : Id
  matrixPointer : Id
  partPointer : Id
  matrix : Id
  part : Id
  extracted : Id

namespace MatrixPart

variable (part : MatrixPart)

def chainOp : Spirv.Op := if part.fromPointer then .ptrAccessChain else .accessChain

def direct : List Instruction := [
  ⟨part.chainOp, part.partPointerType :: part.partPointer :: part.base :: (part.path ++ part.steps),
    part.base :: (part.path ++ part.steps)⟩,
  ⟨.load, [part.partType, part.part, part.partPointer], [part.partPointer]⟩]

/-- A chain that leads to the matrix, a load, and the part of what is loaded. -/
def throughWhole : List Instruction := [
  ⟨part.chainOp, part.matrixPointerType :: part.matrixPointer :: part.base :: part.path,
    part.base :: part.path⟩,
  ⟨.load, [part.matrixType, part.matrix, part.matrixPointer], [part.matrixPointer]⟩,
  ⟨.compositeExtract, part.partType :: part.extracted :: part.matrix :: part.numbers,
    [part.matrix]⟩]

/-- The chain leads to a matrix of the given type that is stored by rows, and on to the part. -/
structure Fits (c : Compiler) (indices : String → Option Nat) (place : Place) (type : ValueType) :
    Prop where
  placed : c.place part.base part.path part.fromPointer = .ok place
  placeType : place.type = part.matrixType
  byRows : place.rowMajor = true
  continues : c.Continues part.base part.path part.fromPointer
  matrixType : ∃ columnId entryId column entry,
    c.program.IsMatrixType part.matrixType columnId entryId type column entry
  inside : InMatrix type.columns type.components part.numbers
  denoted : List.Forall₂ (c.Denotes indices) part.steps part.numbers
  partType : ∀ next, c.place part.base (part.path ++ part.steps) part.fromPointer = .ok next →
    next.type = part.partType
  extracts : c.program.typeOf? part.matrix = some part.matrixType
  new : part.matrixPointer ∉ c.pass.packed

end MatrixPart

namespace ValueType

variable (type : ValueType) (packed : Bool)

/-- Whether a whole matrix is transposed when it is loaded; otherwise it is converted. -/
def isTransposed : Bool := type.columns = type.components || packed

def entryPlace (column row : Nat) : Nat × Nat :=
  storedEntry type.columns type.components (type.isTransposed packed) column row

def stored (entries : Nat → Nat → α) : Numbers α :=
  .ofStored type.columns type.components (type.isTransposed packed) entries

def loaded (entries : Nat → Nat → α) : Numbers α :=
  .matrix type.columns type.components fun column row =>
    entries (type.entryPlace packed column row).1 (type.entryPlace packed column row).2

end ValueType

namespace Emit

variable {c c' : Compiler} {u : Unit} {part : MatrixPart} {indices : String → Option Nat}
  {place : Place} {type : ValueType}

theorem mem_addNew_self (list : List Id) (id : Id) : id ∈ addNew list id := by
  unfold addNew
  split <;> simp_all

theorem lower_chain {words references : List Nat} : lower ⟨part.chainOp, words, references⟩ =
      accessChain ⟨part.chainOp, words, references⟩ part.fromPointer := by
  unfold MatrixPart.chainOp
  cases part.fromPointer <;> rfl

theorem direct_computes (fits : part.Fits c indices place type)
    (done : part.direct.forM lower c = .ok u c') :
    ∃ computation casts partType, Computation.Written computation part.part c c' ∧
      (part.numbers.length = 2 → partType.components = 1 ∧ partType.columns = 1) ∧
      ∀ (α : Type) (names : String → Option (Numbers α)) (stored : Numbers α),
        names place.text = some stored →
        computation.eval names indices = stored.follow part.numbers >>= viewed casts partType := by
  obtain ⟨_, middle, chaining, done⟩ := bind_ok.mp done
  obtain ⟨_, _, loading, done⟩ := bind_ok.mp done
  obtain ⟨-, rfl⟩ := pure_ok.mp done
  rw [lower_chain] at chaining
  obtain ⟨next, _, placed, _, apart, lines, text, _, _⟩ := accessChain_ok rfl chaining
  have found := placed
  rw [Compiler.place_append fits.continues, fits.placed] at found
  obtain ⟨_, _, _, _, matrix⟩ := fits.matrixType
  rw [← fits.placeType] at matrix
  obtain ⟨⟨expression, reads⟩, partType, typed, plain, unarrayed, single, small⟩ :=
    Compiler.Reads.part matrix fits.inside fits.denoted found
  rw [fits.partType next placed, ← apart.program] at typed
  rw [reads.text] at text
  obtain ⟨computation, casts, written, value⟩ :=
    load_part rfl typed ⟨plain, unarrayed, single⟩ text loading
  refine ⟨computation, casts, partType, ⟨?_, written.text⟩, small, fun α names stored named => ?_⟩
  · rw [written.lines, lines, apart.depth]
  · rw [value, reads.value α names stored named]

theorem whole_computes (fits : part.Fits c indices place type)
    (literal : ∀ number, indices (toString number) = some number)
    (done : part.throughWhole.forM lower c = .ok u c') :
    ∃ computation, Computation.Written computation part.extracted c c' ∧
      ∀ (α : Type) (names : String → Option (Numbers α)) (stored : Numbers α),
        names place.text = some stored →
        computation.eval names indices =
          stored.readRows? type.columns type.components (type.isTransposed place.packed) >>=
            Numbers.follow part.numbers := by
  obtain ⟨_, pointed, chaining, done⟩ := bind_ok.mp done
  obtain ⟨_, loaded, loading, done⟩ := bind_ok.mp done
  obtain ⟨_, _, extracting, done⟩ := bind_ok.mp done
  obtain ⟨-, rfl⟩ := pure_ok.mp done
  rw [lower_chain] at chaining
  obtain ⟨_, _, placed, typed, apart, lines, text, packed, rowMajor⟩ := accessChain_ok rfl chaining
  obtain rfl := Except.ok.inj (fits.placed.symm.trans placed)
  obtain ⟨_, _, _, _, matrix⟩ := fits.matrixType
  rw [fits.placeType] at typed
  obtain rfl := Except.ok.inj (matrix.typed.symm.trans typed)
  have high : 1 < type.components := matrix.high
  simp only [fits.byRows, matrix.isMatrix, Bool.and_self, if_true] at rowMajor
  have byRows : part.matrixPointer ∈ pointed.pass.rowMajor := rowMajor ▸ mem_addNew_self ..
  have packs : decide (part.matrixPointer ∈ pointed.pass.packed) = place.packed := by
    rw [packed]
    cases place.packed <;> simp [high, fits.new, mem_addNew_self]
  have matrix' := matrix
  rw [← apart.program] at matrix'
  have text : pointed.textOf part.matrixPointer = .ok (Expression.name place.text).text := text
  obtain ⟨apart', first, written, read⟩ :=
    load_matrix rfl matrix'.typed matrix.isMatrix matrix.numeric.2 byRows text loading
  rw [← apart'.program] at matrix'
  obtain ⟨_, -, extracting⟩ := need_bind.mp extracting
  have composed : loaded.program.typeOf? part.matrix = some part.matrixType := by
    rw [apart'.program, apart.program, fits.extracts]
  obtain ⟨target, last, written', taken⟩ := compositeExtract_computes rfl composed matrix'
    fits.inside
    (textOf_of_find written.text) extracting
  refine ⟨⟨first ++ [⟨target, temporary part.extracted, last⟩], .name (temporary part.extracted)⟩,
    ⟨?_, written'.text⟩, fun α names stored named => ?_⟩
  · rw [written'.lines, written.lines, lines, apart'.depth, apart.depth]
    simp
  · rw [Computation.eval_part fun names => taken α names indices literal, read]
    simp only [Expression.eval, named, packs]
    rfl

/-- A part that is loaded through a chain is the one in the same place of the matrix as it is
stored. It is that of the whole matrix, whatever is stored, exactly if it is one entry and the entry
is stored in its own place. An oblong matrix is loaded with a conversion, as its helper writes it. -/
theorem rowMajor_part_agrees_iff (α : Type) [Nontrivial α] {c c₁ c₂ : Compiler} {u₁ u₂ : Unit}
    (fits : part.Fits c indices place type)
    (literal : ∀ number, indices (toString number) = some number)
    (direct : part.direct.forM lower c = .ok u₁ c₁)
    (throughWhole : part.throughWhole.forM lower c = .ok u₂ c₂) :
    IsConversion type.columns type.components ∧ ∃ chained extracted : Computation,
      chained.Written part.part c c₁ ∧ extracted.Written part.extracted c c₂ ∧
      (∀ (entries : Nat → Nat → α) (names : String → Option (Numbers α)),
        names place.text = some (type.stored place.packed entries) →
        (∀ value, chained.eval names indices = some value →
          (type.stored place.packed entries).follow part.numbers = some value) ∧
        extracted.eval names indices =
          (type.loaded place.packed entries).follow part.numbers) ∧
      ((∀ (entries : Nat → Nat → α) (names : String → Option (Numbers α)),
          names place.text = some (type.stored place.packed entries) →
          chained.eval names indices = extracted.eval names indices) ↔
        ∃ column row, part.numbers = [column, row] ∧
          type.entryPlace place.packed column row = (column, row)) := by
  obtain ⟨chained, casts, partType, written, small, value⟩ := direct_computes fits direct
  obtain ⟨extracted, written', value'⟩ := whole_computes fits literal throughWhole
  obtain ⟨_, _, _, _, matrix⟩ := fits.matrixType
  refine ⟨isConversion .., chained, extracted, written, written',
    fun entries names named => ⟨fun _ found => ?_, ?_⟩, ?_⟩
  · rw [value α names _ named] at found
    obtain ⟨seen, followed, viewed⟩ := Option.bind_eq_some_iff.mp found
    rw [followed, viewed_same viewed]
  · rw [value' α names _ named]
    exact congrArg (· >>= Numbers.follow part.numbers) Numbers.readRows?_ofStored
  -- the texts read nothing but the matrix, so it is enough to look at what is stored
  have contents : (∀ (entries : Nat → Nat → α) (names : String → Option (Numbers α)),
      names place.text = some (type.stored place.packed entries) →
      chained.eval names indices = extracted.eval names indices) ↔
      ∀ entries : Nat → Nat → α,
        (type.stored place.packed entries).follow part.numbers >>= viewed casts partType =
          (type.stored place.packed entries).readRows? type.columns type.components
            (type.isTransposed place.packed) >>= Numbers.follow part.numbers := by
    refine ⟨fun agree entries => ?_, fun agree entries names named => ?_⟩
    · rw [← value α (fun _ => some (type.stored place.packed entries)) _ rfl, agree entries _ rfl,
        value' α _ _ rfl]
    · rw [value α names _ named, value' α names _ named, agree]
  rw [contents]
  refine Numbers.part_agrees_iff matrix.wide matrix.high fits.inside (fun _ _ => viewed_same) ?_
  intro two number
  obtain ⟨one, single⟩ := small two
  simp [viewed, Numbers.cast?, one, single]

/-- A buffer with a matrix that is stored by rows and an index. An entry in the column of that index
is read in both ways. -/
def indexedMatrix : Spirv.Module where
  entryPoints := [.entry .glCompute 20 []]
  annotations := [⟨.decorate, none, none, [.idRef 9, .decoration .block]⟩,
    .onMember 9 0 .offset [0], .onMember 9 0 .rowMajor [], .onMember 9 0 .matrixStride [16],
    .onMember 9 1 .offset [48]]
  globals := [⟨.typeVoid, none, some 2, []⟩, ⟨.typeFloat, none, some 3, [.literal 32]⟩,
    ⟨.typeVector, none, some 4, [.idRef 3, .literal 3]⟩,
    ⟨.typeMatrix, none, some 6, [.idRef 4, .literal 2]⟩,
    ⟨.typeInt, none, some 7, [.literal 32, .literal 1]⟩,
    ⟨.constant, some 7, some 8, [.literal 0]⟩,
    ⟨.constant, some 7, some 15, [.literal 1]⟩,
    ⟨.constant, some 7, some 16, [.literal 2]⟩,
    ⟨.typeStruct, none, some 9, [.idRef 6, .idRef 7]⟩, .pointer 10 .storageBuffer 9,
    .variable 14 10 .storageBuffer, .pointer 11 .storageBuffer 3, .pointer 12 .storageBuffer 6,
    .pointer 13 .storageBuffer 7,
    ⟨.typeFunction, none, some 5, [.idRef 2]⟩]
  functions := [.ofBody 2 20 5 21 [⟨.accessChain, some 13, some 35, [.idRef 14, .idRef 15]⟩,
    ⟨.load, some 7, some 36, [.idRef 35]⟩,
    ⟨.accessChain, some 11, some 30, [.idRef 14, .idRef 8, .idRef 36, .idRef 16]⟩,
    ⟨.load, some 3, some 31, [.idRef 30]⟩, ⟨.accessChain, some 12, some 32, [.idRef 14, .idRef 8]⟩,
    ⟨.load, some 6, some 33, [.idRef 32]⟩,
    ⟨.compositeExtract, some 3, some 34, [.idRef 33, .literal 1, .literal 2]⟩]]

def indexedEntry : MatrixPart where
  base := 14
  fromPointer := false
  path := [8]
  steps := [36, 16]
  numbers := [1, 2]
  matrixType := 6
  partType := 3
  matrixPointerType := 12
  partPointerType := 11
  matrixPointer := 32
  partPointer := 30
  matrix := 33
  part := 31
  extracted := 34

def loadIndex : Emit Unit := do
  prepare
  [⟨.accessChain, [13, 35, 14, 15], [14, 15]⟩, ⟨.load, [7, 36, 35], [35]⟩].forM lower

def after? (action : Emit Unit) (c : Compiler) : Option Compiler :=
  match action c with
  | .ok _ c' => some c'
  | .error _ _ => none

theorem after?_some {action : Emit Unit} (found : after? action c = some c') :
    action c = .ok () c' := by
  unfold after? at found
  split at found
  · cases found
    assumption
  · cases found

theorem ok_of_any {ε β : Type} {result : Except ε β} {accepts : β → Bool}
    (found : result.toOption.any accepts = true) :
    ∃ value, result = .ok value ∧ accepts value = true := by
  cases result with
  | error fault => cases found
  | ok value => exact ⟨value, rfl, found⟩

def indexIsOne (text : String) : Option Nat :=
  if text = "_36" then some 1 else some (Nat.ofDigitChars 10 text.toList 0)

theorem ofDigitChars_toString (number : Nat) :
    Nat.ofDigitChars 10 (toString number).toList 0 = number := by
  rw [Nat.toString_eq_repr, Nat.toList_repr, Nat.ofDigitChars_ten_toDigits]

theorem indexIsOne_literal (number : Nat) : indexIsOne (toString number) = some number := by
  have other : toString number ≠ "_36" := by
    intro same
    have read := ofDigitChars_toString number
    rw [same] at read
    subst read
    exact absurd same (by decide +kernel)
  rw [indexIsOne, if_neg other, ofDigitChars_toString]

def floats (components columns : Nat) (id : Id) (parent : Option Id) : ValueType :=
  { base := .float, width := 32, components, columns, baseId := id, parent }

theorem rowMajor_part_agrees_iff_indexed :
    ∃ program c c₁ c₂ place, ∃ chained extracted : Computation,
      Program.ofModule indexedMatrix = .ok program ∧
      loadIndex (Compiler.new program {}) = .ok () c ∧
      indexedEntry.Fits c indexIsOne place (floats 3 2 6 (some 4)) ∧
      indexedEntry.direct.forM lower c = .ok () c₁ ∧
      indexedEntry.throughWhole.forM lower c = .ok () c₂ ∧
      chained.Written 31 c c₁ ∧ extracted.Written 34 c c₂ ∧
      ∀ (entries : Nat → Nat → Nat) (names : String → Option (Numbers Nat)),
        names place.text = some ((floats 3 2 6 (some 4)).stored place.packed entries) →
        chained.eval names indexIsOne = extracted.eval names indexIsOne := by
  have computed : (Program.ofModule indexedMatrix).toOption.any (fun program =>
      (after? loadIndex (Compiler.new program {})).any (fun c =>
      (c.place 14 [8] false).toOption.any (fun place =>
        place.type = 6 ∧ place.rowMajor = true ∧ place.packed = false) ∧
      (c.place 14 [8, 36, 16] false).toOption.any (fun place => place.type = 3) ∧
      (c.textOf 36).toOption.any (· = "_36") ∧ (c.textOf 16).toOption.any (· = "2") ∧
      c.literalIndex? 36 = none ∧ c.literalIndex? 16 = some 2 ∧
      c.program.typeAt? 6 = some (floats 3 2 6 (some 4)) ∧
      c.program.typeAt? 4 = some (floats 3 1 4 (some 3)) ∧
      c.program.typeAt? 3 = some (floats 1 1 3 none) ∧
      c.program.typeOf? 33 = some 6 ∧ 32 ∉ c.pass.packed ∧
      (after? (indexedEntry.direct.forM lower) c).isSome ∧
      (after? (indexedEntry.throughWhole.forM lower) c).isSome)) = true := by
    decide +kernel
  obtain ⟨program, loaded, computed⟩ := ok_of_any computed
  obtain ⟨c, started, facts⟩ := (Option.any_eq_true _ _).mp computed
  obtain ⟨matrixPlace, entryPlace, dynamic, fixed, unknown, known, matrixType, columnType,
    entryType,
    loadedType, new, direct, whole⟩ := of_decide_eq_true facts
  obtain ⟨place, placed, facts⟩ := ok_of_any matrixPlace
  obtain ⟨placeType, byRows, unpacked⟩ := of_decide_eq_true facts
  obtain ⟨c₁, direct⟩ := Option.isSome_iff_exists.mp direct
  obtain ⟨c₂, whole⟩ := Option.isSome_iff_exists.mp whole
  have column : c.Denotes indexIsOne 36 1 := by
    obtain ⟨text, spelled, same⟩ := ok_of_any dynamic
    obtain rfl := of_decide_eq_true same
    exact ⟨fun text found => by cases spelled.symm.trans found; rfl,
      fun _ found => by cases unknown.symm.trans found⟩
  have row : c.Denotes indexIsOne 16 2 := by
    obtain ⟨text, spelled, same⟩ := ok_of_any fixed
    obtain rfl := of_decide_eq_true same
    exact ⟨fun text found => by cases spelled.symm.trans found; exact indexIsOne_literal 2,
      fun _ found => by cases known.symm.trans found; rfl⟩
  have fits : indexedEntry.Fits c indexIsOne place (floats 3 2 6 (some 4)) :=
    { placed, placeType, byRows
      continues := .inl (by decide)
      matrixType := ⟨4, 3, _, _, Program.getType_ok.mpr matrixType, rfl, ⟨rfl, rfl⟩, rfl,
        Program.getType_ok.mpr columnType, rfl, ⟨rfl, rfl⟩, rfl, by decide, rfl,
        Program.getType_ok.mpr entryType, ⟨rfl, rfl, rfl⟩, rfl⟩
      inside := .entry (by decide) (by decide)
      denoted := .cons column (.cons row .nil)
      partType := fun next found => by
        obtain ⟨_, placed, typed⟩ := ok_of_any entryPlace
        cases placed.symm.trans found
        exact of_decide_eq_true typed
      extracts := loadedType
      new }
  obtain ⟨-, chained, extracted, written, written', -, agree⟩ := rowMajor_part_agrees_iff Nat fits
    indexIsOne_literal (after?_some direct) (after?_some whole)
  exact ⟨program, c, c₁, c₂, place, chained, extracted, loaded, after?_some started, fits,
    after?_some direct, after?_some whole, written, written',
    agree.mpr ⟨1, 2, rfl, by rw [unpacked]; decide⟩⟩

/-- A buffer with a square matrix that is stored by rows, of which a column is read in both ways. -/
def squareMatrix : Spirv.Module where
  entryPoints := [.entry .glCompute 20 []]
  annotations := [⟨.decorate, none, none, [.idRef 9, .decoration .block]⟩,
    .onMember 9 0 .offset [0], .onMember 9 0 .rowMajor [], .onMember 9 0 .matrixStride [16]]
  globals := [⟨.typeVoid, none, some 2, []⟩, ⟨.typeFloat, none, some 3, [.literal 32]⟩,
    ⟨.typeVector, none, some 4, [.idRef 3, .literal 4]⟩,
    ⟨.typeMatrix, none, some 6, [.idRef 4, .literal 4]⟩,
    ⟨.typeInt, none, some 7, [.literal 32, .literal 1]⟩,
    ⟨.constant, some 7, some 8, [.literal 0]⟩,
    ⟨.constant, some 7, some 15, [.literal 1]⟩,
    ⟨.typeStruct, none, some 9, [.idRef 6]⟩, .pointer 10 .storageBuffer 9,
    .variable 14 10 .storageBuffer, .pointer 11 .storageBuffer 4, .pointer 12 .storageBuffer 6,
    ⟨.typeFunction, none, some 5, [.idRef 2]⟩]
  functions := [.ofBody 2 20 5 21 [
    ⟨.accessChain, some 11, some 30, [.idRef 14, .idRef 8, .idRef 15]⟩,
    ⟨.load, some 4, some 31, [.idRef 30]⟩, ⟨.accessChain, some 12, some 32, [.idRef 14, .idRef 8]⟩,
    ⟨.load, some 6, some 33, [.idRef 32]⟩,
    ⟨.compositeExtract, some 4, some 34, [.idRef 33, .literal 1]⟩]]

def chainedColumn : Computation :=
  ⟨[⟨"float4 _31", "_31", .index (.name "_14._m0") "1"⟩], .name "_31"⟩

def extractedColumn : Computation :=
  ⟨[⟨"float4x4 _33_raw", "_33_raw", .name "_14._m0"⟩,
    ⟨"float4x4 _33", "_33", .transpose (.name "_33_raw")⟩,
    ⟨"float4 _34", "_34", .index (.name "_33") "1"⟩], .name "_34"⟩

theorem chainedColumn_eval {entries : Fin 4 → Fin 4 → α} (one : indices "1" = some 1) :
    chainedColumn.eval (fun _ => some (.matrix 4 4 entries)) indices =
      some (.vector 4 fun row => entries 1 row) := by
  simp [chainedColumn, Computation.eval, Assignment.run, Expression.eval, one, Numbers.part?]

theorem extractedColumn_eval {entries : Fin 4 → Fin 4 → α} (one : indices "1" = some 1) :
    extractedColumn.eval (fun _ => some (.matrix 4 4 entries)) indices =
      some (.vector 4 fun row => entries row 1) := by
  simp [extractedColumn, Computation.eval, Assignment.run, Expression.eval, one, Numbers.part?,
    Numbers.transpose?]

/-- The second column through the chain is the second row. -/
theorem square_column_differs : ∃ program text c, Program.ofModule squareMatrix = .ok program ∧
      compile (Compiler.new program {}) = .ok text c ∧ text = c.output ∧
      (chainedColumn.lines ++ extractedColumn.lines).map (·.text) <:+:
        c.pass.lines.toList.map (·.text) ∧
      ∃ entries : Fin 4 → Fin 4 → Nat,
        chainedColumn.eval (fun _ => some (.matrix 4 4 entries)) indexIsOne ≠
          extractedColumn.eval (fun _ => some (.matrix 4 4 entries)) indexIsOne := by
  have computed : (compiled? squareMatrix {}).any (fun c =>
      (chainedColumn.lines ++ extractedColumn.lines).map (·.text) <:+:
        c.pass.lines.toList.map (·.text)) = true := by
    decide +kernel
  obtain ⟨program, text, c, loaded, compiled, written⟩ := compiled?_decide computed
  obtain ⟨_, _, _, output⟩ := compile_first rfl compiled
  have one : indexIsOne "1" = some 1 := indexIsOne_literal 1
  refine ⟨program, text, c, loaded, compiled, output.symm, written, fun _ row => row, ?_⟩
  rw [chainedColumn_eval one, extractedColumn_eval one]
  intro same
  simp only [Option.some.injEq, Numbers.vector.injEq, heq_eq_eq, true_and] at same
  exact absurd (congrFun same 0) (by decide)

/-- The product reads what was stored to the variable, not the matrix that was loaded. -/
theorem stored_matrix_overwritten : ∃ program text stop,
      Program.ofModule { squareMatrix with
        names := [namesakes.name 40 "_33_raw"]
        globals := squareMatrix.globals ++
          [.pointer 13 .function 6]
        functions := [namesakes.function 20 21 [
          .variable 40 13 .function,
          ⟨.accessChain, some 11, some 30, [.idRef 14, .idRef 8, .idRef 15]⟩,
          ⟨.load, some 4, some 31, [.idRef 30]⟩,
          ⟨.accessChain, some 12, some 32, [.idRef 14, .idRef 8]⟩,
          ⟨.load, some 6, some 33, [.idRef 32]⟩,
          ⟨.store, none, none, [.idRef 40, .idRef 33]⟩,
          ⟨.matrixTimesVector, some 4, some 34, [.idRef 33, .idRef 31]⟩]] } = .ok program ∧
      compile (Compiler.new program {}) = .ok text stop ∧
      ["float4x4 _33_raw = _14._m0;", "float4x4 _33 = transpose(_33_raw);", "_33_raw = _33;",
        "float4 _34 = (_31 * _33_raw);"] <:+: stop.pass.lines.toList.map (·.text) :=
  compiled?_decide (by decide +kernel)

end Emit

end SpirvMetal
