import SpirvMetal.Metal.Compile
import SpirvMetal.Proofs.Interface.Planned
import SpirvMetal.Proofs.Layout.Loose
import SpirvMetal.Proofs.Store.Sorting

/-!
What the survey of an entry point leaves alone.
-/

set_option synthInstance.maxSize 2048

namespace SpirvMetal

open Spirv (BuiltIn StorageClass)

/-- A function without what the survey adds to the entry point. -/
def Function.outline (function : Function) : Function :=
  { function with locals := [], fixupsIn := [], fixupsOut := [] }

theorem Function.outline_addLocal (function : Function) (id : Id) :
    (function.addLocal id).outline = function.outline := by
  unfold addLocal
  split <;> rfl

namespace Program

variable {program after : Program}

theorem foldl_view {α β : Type} (view : Program → β) {step : Program → α → Program}
    (kept : ∀ program item, view (step program item) = view program) (items : List α)
    (program : Program) : view (items.foldl step program) = view program := by
  induction items generalizing program with
  | nil => rfl
  | cons item rest ih => exact (ih (step program item)).trans (kept program item)

/-- A program without names and decorations. -/
def bare (program : Program) : Program := { program with notes := ∅ }

theorem bare_legalizeName (program : Program) (taken : List String) (id : Id) :
    (program.legalizeName taken id).bare = program.bare := by
  unfold legalizeName
  dsimp only
  split <;> rfl

theorem bare_legalizeStruct (program : Program) (entry : Id × ValueType) :
    (program.legalizeStruct entry).bare = program.bare := by
  have members (program : Program) (member : Nat) :
      (program.legalizeMember entry.1 member).bare = program.bare := by
    unfold legalizeMember
    dsimp only
    split <;> rfl
  exact (bare_legalizeName ..).trans (foldl_view bare members ..)

/-- The program with legal names, apart from that of the entry point. -/
def legalized (program : Program) : Program :=
  let functionNames := Name.reservedForFunctions ++ Name.reserved
  let program := (program.vars.map (·.1)).foldl (·.legalizeName Name.reserved ·) program
  let program := (program.functions.map (·.1)).foldl (·.legalizeName functionNames ·) program
  (program.types.filter (·.2.isStruct)).foldl (·.legalizeStruct ·) program

theorem bare_legalized (program : Program) : program.legalized.bare = program.bare := by
  have names (taken : List String) (ids : List Id) (program : Program) :
      (ids.foldl (·.legalizeName taken ·) program).bare = program.bare :=
    foldl_view bare (fun program id => program.bare_legalizeName taken id) ids program
  rw [legalized, foldl_view bare bare_legalizeStruct, names, names]

theorem fields_of_bare (same : after.bare = program.bare) :
    after.records = program.records ∧ after.entryPoints = program.entryPoints ∧
      after.defaultEntry = program.defaultEntry := by
  simp only [bare, Program.mk.injEq] at same
  exact ⟨same.1, same.2.2.2.1, same.2.2.2.2.1⟩

theorem entryPoint_legalized (program : Program) :
    program.legalized.entryPoint = program.entryPoint := by
  obtain ⟨-, points, start⟩ := fields_of_bare program.bare_legalized
  rw [entryPoint, entryPoint, points, start]

/-- The program with the name of the entry point made legal. -/
def renameEntry (program : Program) (entry : Id) (point : EntryPoint) : Program :=
  let name := Name.legal (Name.reservedForFunctions ++ Name.reserved) point.name
  let entryPoints :=
    match program.entryPoints.find? entry with
    | some point => program.entryPoints.insert entry { point with name }
    | none => program.entryPoints
  { program with entryPoints }.setName entry name

theorem legalizeNames_eq (program : Program) (entry : Id) :
    program.legalizeNames entry = program.entryPoint.map (program.legalized.renameEntry entry) := by
  have computed : program.legalizeNames entry =
    (do return program.legalized.renameEntry entry (← program.legalized.entryPoint)) := rfl
  rw [computed, entryPoint_legalized]
  cases program.entryPoint <;> rfl

theorem records_renameEntry (program : Program) (entry : Id) (point : EntryPoint) :
    (program.renameEntry entry point).records = program.records := rfl

theorem legalizeNames_ok {entry : Id} (named : program.legalizeNames entry = .ok after) :
    ∃ point, program.entryPoint = .ok point ∧ after = program.legalized.renameEntry entry point := by
  rw [legalizeNames_eq] at named
  cases entered : program.entryPoint with
  | error fault =>
    rw [entered] at named
    cases named
  | ok point =>
    rw [entered] at named
    exact ⟨point, rfl, (Except.ok.inj named).symm⟩

theorem legalizeNames_records {entry : Id} (named : program.legalizeNames entry = .ok after) :
    after.records = program.records := by
  obtain ⟨point, -, rfl⟩ := legalizeNames_ok named
  rw [records_renameEntry, (fields_of_bare program.bare_legalized).1]

theorem callGraph_eq (same : after.records = program.records) (entry : Id) :
    after.callGraph entry = program.callGraph entry := by
  have callees (function : Id) : after.directCallees function = program.directCallees function := by
    simp only [directCallees, getFunction, expect, record?, same]
  have visits (fuel : Nat) : after.visitCalls fuel = program.visitCalls fuel := by
    induction fuel with
    | zero => rfl
    | succ fuel ih =>
      funext path function graph
      simp only [visitCalls, callees, ih]
  simp only [callGraph, visits, depth, same]

variable {view : Function → Function}

theorem Extends.reserveSetAll (program : Program) (count : Nat) {records : List Record}
    (based : ∀ record ∈ records, record.BasedBelow (program.bound + count)) :
    Extends view program ((program.reserve count).2.setAll program.bound records) :=
  (Extends.reserve program count).thenSetAll (Nat.le_refl _) based

theorem Extends.addBuiltinInput (program : Program) (builtin : BuiltIn) (type : ValueType) :
    Extends view program (program.addBuiltinInput builtin type).2 := by
  have based : ∀ record ∈ ([.type { type with baseId := program.bound },
      .type ({ type with baseId := program.bound }.pointerTo program.bound .input),
      .variable { type := program.bound + 1, storage := .input, builtin := true }] : List Record),
      record.BasedBelow (program.bound + 3) := by
    simp [Record.BasedBelow, ValueType.pointerTo]
  exact (Extends.reserveSetAll program 3 based).thenNotes rfl

theorem Extends.addAuxBuffer (program : Program) (slot : Nat) :
    Extends view program (program.addAuxBuffer slot).2 := by
  have based : ∀ record ∈ ([.type { ValueType.scalar .uint 32 with baseId := program.bound },
      .type ({ ValueType.scalar .uint 32 with baseId := program.bound }.arrayOf program.bound
        (.literal 0)),
      .type { ValueType.scalar .struct 0 with
        members := [program.bound + 1], baseId := program.bound + 2 },
      .type ({ ValueType.scalar .struct 0 with
        members := [program.bound + 1], baseId := program.bound + 2 }.pointerTo (program.bound + 2)
          .uniform),
      .variable { type := program.bound + 3, storage := .uniform }] : List Record),
      record.BasedBelow (program.bound + 5) := by
    simp [Record.BasedBelow, ValueType.pointerTo, ValueType.arrayOf]
  exact (Extends.reserveSetAll program 5 based).thenNotes rfl

theorem Extends.addInterfaceStruct (program : Program) (storage : StorageClass)
    (members : List Id) : Extends view program (program.addInterfaceStruct storage members).2 := by
  have based : ∀ record ∈ ([
      .type { base := .struct, width := 0, storage, baseId := program.bound, members },
      .type (ValueType.pointerTo
        { base := .struct, width := 0, storage, baseId := program.bound, members }
        program.bound storage),
      .variable { type := program.bound + 1, storage }] : List Record),
      record.BasedBelow (program.bound + 3) := by
    simp [Record.BasedBelow, ValueType.pointerTo]
  exact (Extends.reserveSetAll program 3 based).thenNotes rfl

theorem Loose.addBuiltinInput (loose : program.Loose) (builtin : BuiltIn) (type : ValueType) :
    (program.addBuiltinInput builtin type).2.Loose := by
  refine setName (setDecoration ?_ ..) ..
  exact loose.of_notes rfl

theorem Loose.addAuxBuffer (loose : program.Loose) (slot : Nat) :
    (program.addAuxBuffer slot).2.Loose := by
  refine setDecoration (setDecoration (setName (setMemberDecoration ?_ ..) ..) ..) ..
  refine setMemberName (setName (setDecoration (setDecoration ?_ ..) ..) ..) ..
  exact loose.of_notes rfl

theorem Loose.addInterfaceStruct (loose : program.Loose) (storage : StorageClass)
    (members : List Id) : (program.addInterfaceStruct storage members).2.Loose := by
  refine setDecoration ?_ ..
  exact loose.of_notes rfl

theorem Loose.closeStorageImage {var : Id} (loose : program.Loose)
    (closed : program.closeStorageImage var = .ok after) : after.Loose := by
  obtain ⟨⟨_, type⟩, _, closed⟩ := Except.bind_ok.mp closed
  dsimp only at closed
  split at closed
  · cases closed
    exact loose
  · cases closed
    exact (loose.setDecoration ..).setDecoration ..

theorem records_closeStorageImage {var : Id} (closed : program.closeStorageImage var = .ok after) :
    after.records = program.records := by
  obtain ⟨⟨_, type⟩, _, closed⟩ := Except.bind_ok.mp closed
  dsimp only at closed
  split at closed <;> cases closed <;> rfl

end Program

end SpirvMetal
