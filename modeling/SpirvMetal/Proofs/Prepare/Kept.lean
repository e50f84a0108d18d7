import SpirvMetal.Proofs.Prepare.Steps

/-!
What the preparation keeps of a program, and what the survey of an entry point leaves alone.
-/

namespace SpirvMetal

open Program
open Spirv (BuiltIn Decoration StorageClass)

namespace Program

/-- The decorations of an id and of its members are the same, up to names and access. -/
structure KeepsMarks (before after : Program) (id : Id) : Prop where
  builtin : after.builtin? id = before.builtin? id
  own : ∀ decoration, decoration.restrictsAccess = false →
    (after.decorations id).has decoration = (before.decorations id).has decoration ∧
      (after.decorations id).get decoration = (before.decorations id).get decoration
  members : ∀ member,
    (after.memberDecorations id member).values = (before.memberDecorations id member).values

namespace KeepsMarks

variable {program before middle after : Program} {id other : Id}
  {change : Decorations → Decorations}

theorem of_notes (same : after.notes? id = before.notes? id) : KeepsMarks before after id where
  builtin := by simp only [builtin?, decorations, decorations?, same]
  own _ _ := by simp only [decorations, decorations?, same, and_self]
  members _ := by simp only [memberDecorations_eq_member?, same]

theorem refl (program : Program) (id : Id) : KeepsMarks program program id := of_notes rfl

theorem trans (first : KeepsMarks before middle id) (second : KeepsMarks middle after id) :
    KeepsMarks before after id where
  builtin := second.builtin.trans first.builtin
  own decoration free :=
    have later := second.own decoration free
    have earlier := first.own decoration free
    ⟨later.1.trans earlier.1, later.2.trans earlier.2⟩
  members member := (second.members member).trans (first.members member)

theorem modifyOwn (builtin : ∀ d, (change d).builtin? = d.builtin?)
    (kept : ∀ d decoration, decoration.restrictsAccess = false →
      (change d).has decoration = d.has decoration ∧ (change d).get decoration = d.get decoration) :
    KeepsMarks program (program.modifyOwn other change) id where
  builtin := by
    rw [builtin?, decorations_modifyOwn]
    split
    · rename_i same
      subst same
      exact builtin _
    · rfl
  own decoration free := by
    rw [decorations_modifyOwn]
    split
    · rename_i same
      subst same
      exact kept _ _ free
    · exact ⟨rfl, rfl⟩
  members member := by
    rw [memberDecorations_eq, memberDecorations_eq, memberNotes_modifyOwn]

theorem modifyMember {index : Nat}
    (kept : ∀ d, (change d).values = d.values) :
    KeepsMarks program (program.modifyMember other index change) id where
  builtin := by simp only [builtin?, decorations_modifyMember]
  own _ _ := by simp only [decorations_modifyMember, and_self]
  members member := by
    rw [memberDecorations_modifyMember]
    split
    · rename_i same
      obtain ⟨rfl, rfl⟩ := same
      exact kept _
    · rfl

theorem setName (program : Program) (other : Id) (name : String) :
    KeepsMarks program (program.setName other name) id :=
  modifyOwn (fun _ => rfl) fun _ _ _ => ⟨rfl, rfl⟩

theorem setStandIn (program : Program) (other : Id) (text : String) :
    KeepsMarks program (program.setStandIn other text) id :=
  modifyOwn (fun _ => rfl) fun _ _ _ => ⟨rfl, rfl⟩

theorem setDecoration (program : Program) (other : Id) {decoration : Decoration} (value : Nat)
    (restricts : decoration.restrictsAccess = true) :
    KeepsMarks program (program.setDecoration other decoration value) id := by
  refine modifyOwn (fun d => ?_) fun d kept free => ?_
  · rw [Decorations.builtin?_set, if_neg]
    rintro rfl
    cases restricts
  · simp [Decorations.has_set, Decorations.get_set, ne_of_restrictsAccess restricts free]

theorem foldl {α : Type} {step : Program → α → Program}
    (kept : ∀ program item, KeepsMarks program (step program item) id) (items : List α)
    (program : Program) : KeepsMarks program (items.foldl step program) id := by
  induction items generalizing program with
  | nil => exact refl program id
  | cons item rest ih => exact (kept program item).trans (ih _)

theorem nameInputs (program : Program) : KeepsMarks program program.nameInputs id :=
  foldl (fun program (input : Id × BuiltIn) => setName program input.1 (Builtin.name input.2))
    program.builtinInputs program

theorem legalizeName (taken : List String) (program : Program) (other : Id) :
    KeepsMarks program (program.legalizeName taken other) id := by
  unfold Program.legalizeName
  dsimp only
  split
  · exact refl program id
  · exact setName ..

theorem legalizeStruct (program : Program) (entry : Id × ValueType) :
    KeepsMarks program (program.legalizeStruct entry) id := by
  refine (foldl (fun program member => ?_) _ program).trans (legalizeName ..)
  unfold legalizeMember
  dsimp only
  split
  · exact refl program id
  · exact modifyMember fun _ => rfl

theorem legalizeNames {entry : Id} (named : program.legalizeNames entry = .ok after) :
    KeepsMarks program after id := by
  obtain ⟨point, -, rfl⟩ := legalizeNames_ok named
  have structs (program : Program) (entries : List (Id × ValueType)) :
      KeepsMarks program (entries.foldl (·.legalizeStruct ·) program) id :=
    foldl legalizeStruct entries program
  have names (program : Program) (taken : List String) (ids : List Id) :
      KeepsMarks program (ids.foldl (·.legalizeName taken ·) program) id :=
    foldl (legalizeName taken) ids program
  have named : KeepsMarks program program.legalized id :=
    (names ..).trans ((names ..).trans (structs ..))
  have same (entryPoints : IdMap EntryPoint) :
      KeepsMarks program.legalized { program.legalized with entryPoints } id := of_notes rfl
  exact (named.trans (same _)).trans (setName ..)

theorem closeStorageImage {var : Id} (closed : program.closeStorageImage var = .ok after) :
    KeepsMarks program after id := by
  obtain ⟨⟨_, type⟩, _, closed⟩ := Except.bind_ok.mp closed
  dsimp only at closed
  split at closed
  · cases closed
    exact refl program id
  · cases closed
    exact (setDecoration program var 0 rfl).trans (setDecoration _ var 0 rfl)

end KeepsMarks

variable {program : Program} {id : Nat}

theorem records_nameInputs (program : Program) : program.nameInputs.records = program.records := by
  have kept (program : Program) (input : Id × BuiltIn) :
      (program.setName input.1 (Builtin.name input.2)).records = program.records := rfl
  exact foldl_view records kept program.builtinInputs program

theorem notes?_modifyNotes_of_ne {other : Id} {change : Notes → Notes} (differ : id ≠ other) :
    (program.modifyNotes other change).notes? id = program.notes? id := by
  rw [notes?_modifyNotes, if_neg differ]

theorem notes?_addBuiltinInput (builtin : BuiltIn) (type : ValueType) (below : id < program.bound) :
    (program.addBuiltinInput builtin type).2.notes? id = program.notes? id := by
  have differ : id ≠ program.bound + 2 := by omega
  exact (notes?_modifyNotes_of_ne differ).trans (notes?_modifyNotes_of_ne differ)

theorem notes?_addAuxBuffer (slot : Nat) (below : id < program.bound) :
    (program.addAuxBuffer slot).2.notes? id = program.notes? id := by
  have array : id ≠ program.bound + 1 := by omega
  have struct : id ≠ program.bound + 2 := by omega
  have var : id ≠ program.bound + 4 := by omega
  iterate 3 refine (notes?_modifyNotes_of_ne var).trans ?_
  iterate 4 refine (notes?_modifyNotes_of_ne struct).trans ?_
  exact notes?_modifyNotes_of_ne array

theorem record?_setAll (program : Program) (first : Nat) (records : List Record) (id : Nat) :
    (program.setAll first records).record? id = program.record? id ∨
      first ≤ id ∧ ∃ record ∈ records, (program.setAll first records).record? id = some record := by
  induction records generalizing program first with
  | nil => exact .inl rfl
  | cons record rest ih =>
    rcases ih (program.set first record) (first + 1) with same | ⟨above, other, listed, found⟩
    · rw [record?_set] at same
      split at same
      · rename_i here
        exact .inr ⟨Nat.le_of_eq here.symm, record, List.mem_cons_self, same⟩
      · exact .inl same
    · exact .inr ⟨by omega, other, List.mem_cons_of_mem record listed, found⟩

theorem find?_resultTypes_setAll {first : Nat} {records : List Record} (below : id < first) :
    (program.setAll first records).resultTypes.find? id = program.resultTypes.find? id := by
  induction records generalizing program first with
  | nil => rfl
  | cons record rest ih =>
    rw [setAll, ih (by omega)]
    cases record with
    | «variable» var => exact (Assoc.find?_insert ..).trans (if_neg (Nat.ne_of_lt below))
    | _ => rfl

theorem Bounded.record?_eq_none (bounded : program.Bounded) (above : program.bound ≤ id) :
    program.record? id = none := by
  cases found : program.record? id with
  | none => rfl
  | some record =>
    have below := (bounded.below id record found).1
    omega

theorem Bounded.record?_reserve (bounded : program.Bounded) (count : Nat) (records : List Record)
    (id : Nat) :
    ((program.reserve count).2.setAll program.bound records).record? id = program.record? id ∨
      program.record? id = none ∧ ∃ record ∈ records,
        ((program.reserve count).2.setAll program.bound records).record? id = some record := by
  rcases record?_setAll (program.reserve count).2 program.bound records id with same | ⟨above, found⟩
  · exact .inl same
  · exact .inr ⟨bounded.record?_eq_none above, found⟩

end Program

namespace Compiler

variable {scope : Scope} {c c' : Compiler} {id : Nat}

/-- What is stored under new ids: types, and variables that are no buffers, apart from the one for
swizzles. -/
inductive Adds (c : Compiler) : Record → Prop
  | type (type : ValueType) : Adds c (.type type)
  | var {var : Variable}
      (storage : var.storage.isBuffer = false ∨ c.plan.usesSwizzle = true) : Adds c (.variable var)

theorem Change.record (bounded : c.program.Bounded) (change : Change scope c c') (id : Nat) :
    (c'.program.record? id).map (·.mapFunction Function.given) =
        (c.program.record? id).map (·.mapFunction Function.given) ∨
      c.program.record? id = none ∧ ∃ record, c'.program.record? id = some record ∧
        c.Adds record := by
  have grown (count : Nat) (records : List Record) (adds : ∀ record ∈ records, c.Adds record)
      {after : Program}
      (same : after.records = ((c.program.reserve count).2.setAll c.program.bound records).records) :
      (after.record? id).map (·.mapFunction Function.given) =
          (c.program.record? id).map (·.mapFunction Function.given) ∨
        c.program.record? id = none ∧ ∃ record, after.record? id = some record ∧ c.Adds record := by
    have found : after.record? id =
        ((c.program.reserve count).2.setAll c.program.bound records).record? id := by
      rw [Program.record?, same, Program.record?]
    rcases bounded.record?_reserve count records id with same | ⟨absent, record, listed, stored⟩
    · exact .inl (by rw [found, same])
    · exact .inr ⟨absent, record, found.trans stored, adds record listed⟩
  have same {after : Program} (same : after.records = c.program.records) :
      (after.record? id).map (·.mapFunction Function.given) =
        (c.program.record? id).map (·.mapFunction Function.given) := by
    rw [Program.record?, same, Program.record?]
  cases change with
  | declares _ _ =>
    refine grown 3 [.type _, .type _, .variable _] ?_ rfl
    simp only [List.forall_mem_cons]
    exact ⟨.type _, .type _, .var (.inl rfl), by simp⟩
  | namesInputs => exact .inl (same c.program.records_nameInputs)
  | addsAux swizzles =>
    refine grown 5 [.type _, .type _, .type _, .type _, .variable _] ?_ rfl
    simp only [List.forall_mem_cons]
    exact ⟨.type _, .type _, .type _, .type _, .var (.inr swizzles), by simp⟩
  | legalizes named => exact .inl (same (legalizeNames_records named))
  | closes closed => exact .inl (same (records_closeStorageImage closed))
  | addsType _ =>
    refine grown 1 [.type _] ?_ rfl
    simp only [List.forall_mem_cons]
    exact ⟨.type _, by simp⟩
  | builds stage _ =>
    refine grown 3 [.type _, .type _, .variable _] ?_ rfl
    simp only [List.forall_mem_cons]
    exact ⟨.type _, .type _, .var (.inl (by rcases stage with rfl | rfl <;> rfl)), by simp⟩
  | modifies continues changed =>
    refine .inl ?_
    obtain ⟨found, stored, _, _, _, records⟩ := modifyFunction_ok changed
    rw [records]
    split
    · rename_i same
      rw [same, Program.functionAt?_some.mp stored]
      simp [Record.mapFunction, (continues _).given]
    · rfl
  | refers _ _ _ =>
    refine grown 2 [.type _, .variable _] ?_ rfl
    simp only [List.forall_mem_cons]
    exact ⟨.type _, .var (.inl rfl), by simp⟩
  | standsIn _ =>
    refine grown 1 [.variable _] ?_ rfl
    simp only [List.forall_mem_cons]
    exact ⟨.var (.inl rfl), by simp⟩
  | _ => exact .inl rfl

theorem notes?_building (storage : StorageClass) (types : List Id) (below : id < c.program.bound) :
    (c.building storage types).program.notes? id = c.program.notes? id := by
  have struct : id ≠ c.program.bound := by omega
  have var : id ≠ c.program.bound + 2 := by omega
  refine (Program.notes?_modifyNotes_of_ne var).trans ?_
  exact (Program.notes?_modifyNotes_of_ne struct).trans (Program.notes?_modifyNotes_of_ne struct)

theorem Change.stored (bounded : c.program.Bounded) (change : Change scope c c') :
    c.program.Extends (fun function => function) c'.program ∨ ∃ function change,
      (∀ function, Function.Continues function (change function)) ∧
        c.program.modifyFunction function change = .ok c'.program ∧
        (scope.threads ∨ ∀ function, (change function).outline = function.outline) := by
  cases change with
  | declares => exact .inl (.addBuiltinInput ..)
  | namesInputs => exact .inl (.of_records_eq c.program.records_nameInputs)
  | addsAux => exact .inl (.addAuxBuffer ..)
  | legalizes named => exact .inl (.of_records_eq (legalizeNames_records named))
  | closes closed => exact .inl (.of_records_eq (records_closeStorageImage closed))
  | addsType => exact .inl (.addType ..)
  | builds => exact .inl ((Program.Extends.addInterfaceStruct ..).thenNotes rfl)
  | modifies continues changed allowed => exact .inr ⟨_, _, continues, changed, allowed⟩
  | reserves => exact .inl (.reserve ..)
  | @refers storage _ type pointee stored _ =>
    have based : (pointee.pointerTo type storage).baseId < c.program.bound :=
      (bounded.type_below stored).2
    exact .inl (withReference_extends based)
  | standsIn => exact .inl withStandIn_extends
  | _ => exact .inl (.of_records_eq rfl)

theorem Change.extends (bounded : c.program.Bounded) (change : Change scope c c') :
    c.program.Extends Function.given c'.program := by
  rcases change.stored bounded with same | ⟨_, _, continues, changed, _⟩
  · exact same.blur
  · exact .modifyFunction (fun function => (continues function).given) changed

theorem Change.marks (change : Change scope c c') (below : id < c.program.bound)
    (other : id ∉ c.plan.interfaceStructs) : c.program.KeepsMarks c'.program id := by
  cases change with
  | declares => exact .of_notes (Program.notes?_addBuiltinInput _ _ below)
  | namesInputs => exact .nameInputs c.program
  | addsAux => exact .of_notes (Program.notes?_addAuxBuffer _ below)
  | legalizes named => exact .legalizeNames named
  | closes closed => exact .closeStorageImage closed
  | builds => exact .of_notes (notes?_building _ _ below)
  | decorates announced =>
    have differ : id ≠ _ := fun same => other (same ▸ announced)
    exact .of_notes (Program.notes?_modifyNotes_of_ne differ)
  | aliases => exact .setStandIn ..
  | aliasesMember => exact .modifyMember fun _ => rfl
  | modifies _ changed =>
    obtain ⟨_, _, notes, _⟩ := modifyFunction_ok changed
    exact .of_notes (by rw [Program.notes?, notes, Program.notes?])
  | refers => exact .of_notes (withReference_notes below)
  | standsIn =>
    refine .trans (.setName c.program _ _) (.of_notes (withStandIn_notes below))
  | lays _ kept => exact .modifyMember fun d => congrArg (·.values) (kept d)
  | _ => exact .of_notes rfl

theorem Change.resultTypes_eq (change : Change scope c c') (below : id < c.program.bound) :
    c'.program.resultTypes.find? id = c.program.resultTypes.find? id := by
  have fresh (count : Nat) (records : List Record) :
      ((c.program.reserve count).2.setAll c.program.bound records).resultTypes.find? id =
        c.program.resultTypes.find? id := Program.find?_resultTypes_setAll below
  cases change with
  | legalizes named =>
    obtain ⟨point, -, rfl⟩ := legalizeNames_ok named
    have same := congrArg (·.resultTypes.find? id) c.program.bare_legalized
    exact same
  | closes closed =>
    obtain ⟨_, _, closed⟩ := Except.bind_ok.mp closed
    dsimp only at closed
    split at closed <;> cases closed <;> rfl
  | modifies _ changed =>
    obtain ⟨found, _, rfl⟩ := modify_ok.mp changed
    rfl
  | namesInputs =>
    have kept (program : Program) (input : Id × BuiltIn) :
        (program.setName input.1 (Builtin.name input.2)).resultTypes = program.resultTypes := rfl
    exact congrArg (·.find? id) (foldl_view _ kept c.program.builtinInputs c.program)
  | declares => exact fresh 3 [.type _, .type _, .variable _]
  | addsAux => exact fresh 5 [.type _, .type _, .type _, .type _, .variable _]
  | builds => exact fresh 3 [.type _, .type _, .variable _]
  | addsType => exact fresh 1 [.type _]
  | refers => exact fresh 2 [.type _, .variable _]
  | standsIn => exact fresh 1 [.variable _]
  | _ => rfl

/-- What has become of a program: it has grown, and what it had is still decorated as it was. -/
structure Since (origin : Program) (c : Compiler) : Prop where
  program : origin.Extends Function.given c.program
  bounded : c.program.Bounded
  marks : ∀ id < origin.bound, origin.KeepsMarks c.program id
  resultTypes : ∀ id < origin.bound, c.program.resultTypes.find? id = origin.resultTypes.find? id
  structs : ∀ struct ∈ c.plan.interfaceStructs, origin.bound ≤ struct

namespace Since

variable {origin : Program}

theorem start (bounded : c.program.Bounded) (none : c.plan.interfaceStructs = []) :
    Since c.program c :=
  ⟨.refl _, bounded, fun id _ => .refl _ id, fun _ _ => rfl, by simp [none]⟩

theorem change (since : Since origin c) (change : Change scope c c') : Since origin c' where
  program := since.program.trans (change.extends since.bounded)
  bounded := (change.extends since.bounded).bounded since.bounded
  marks id below := by
    refine (since.marks id below).trans (change.marks (Nat.lt_of_lt_of_le below since.program.bound) ?_)
    exact fun announced => Nat.not_le_of_lt below (since.structs id announced)
  resultTypes id below :=
    (change.resultTypes_eq (Nat.lt_of_lt_of_le below since.program.bound)).trans
      (since.resultTypes id below)
  structs struct announced := by
    cases change with
    | plan fixed _ =>
      exact since.structs struct (congrArg Plan.interfaceStructs fixed ▸ announced)
    | builds =>
      rcases mem_addNew.mp announced with announced | rfl
      · exact since.structs struct announced
      · exact since.program.bound
    | _ => exact since.structs struct announced

end Since

end Compiler

namespace Program.Loose

variable {program : Program}

theorem withReference (loose : program.Loose) (pointer : ValueType) (decorations : Decorations) :
    (program.withReference pointer decorations).Loose := by
  unfold Program.withReference
  refine modifyOwn ?_ ..
  exact loose.of_notes rfl

theorem withStandIn (loose : program.Loose) (global : Id) (var : Variable) :
    (program.withStandIn global var).Loose := by
  have named := loose.setName global (Name.avoidTemporary (program.plainName global) "v")
  unfold Program.withStandIn
  refine modifyNotes ?_ ?_
  · exact named.of_notes rfl
  · exact named.note global

end Program.Loose

namespace Compiler

variable {scope : Scope} {c c' : Compiler}

structure Surveys (before after : Compiler) : Prop where
  program : before.program.Extends Function.outline after.program
  callGraph : after.plan.callGraph = before.plan.callGraph
  entry : after.plan.entry = before.plan.entry
  session : after.session = before.session

theorem Change.surveys (bounded : c.program.Bounded) (change : Change scope c c')
    (surveying : ¬ scope.threads) : c.Surveys c' where
  program := by
    rcases change.stored bounded with same | ⟨_, _, _, changed, allowed⟩
    · exact same.blur
    · exact .modifyFunction (allowed.resolve_left surveying) changed
  callGraph := by
    cases change with
    | plan fixed _ =>
      have same := congrArg Plan.callGraph fixed
      exact same
    | _ => rfl
  entry := by
    cases change with
    | plan fixed _ =>
      have same := congrArg Plan.entry fixed
      exact same
    | _ => rfl
  session := by cases change <;> rfl

theorem Prepares.surveys (bounded : c.program.Bounded) (prepares : Prepares scope c c')
    (surveying : ¬ scope.threads) : c.Surveys c' := by
  induction prepares with
  | refl => exact ⟨.refl _, rfl, rfl, rfl⟩
  | tail _ change ih =>
    have next := change.surveys (ih.program.bounded bounded) surveying
    exact ⟨ih.program.trans next.program, next.callGraph.trans ih.callGraph,
      next.entry.trans ih.entry, next.session.trans ih.session⟩

theorem Change.loose (change : Change scope c c') (unlaid : ¬ scope.lays)
    (loose : c.program.Loose) : c'.program.Loose := by
  cases change with
  | declares => exact loose.addBuiltinInput ..
  | namesInputs => exact Program.Loose.foldl (fun _ _ loose => loose.setName ..) _ loose
  | addsAux => exact loose.addAuxBuffer ..
  | legalizes named => exact loose.legalizeNames named
  | closes closed => exact loose.closeStorageImage closed
  | builds => exact ((loose.addInterfaceStruct ..).setName ..).setName ..
  | decorates _ unpacked => exact loose.modifyMember (fun _ _ => unpacked) ..
  | @aliases var text => exact loose.modifyOwn var ({ · with standIn := some text })
  | aliasesMember => exact loose.modifyMember (by intro _ unpacked; exact unpacked) ..
  | modifies _ changed => exact loose.modifyFunction changed
  | refers => exact loose.withReference ..
  | standsIn => exact loose.withStandIn ..
  | lays _ _ allowed => exact (unlaid allowed).elim
  | _ => exact loose.of_notes rfl

theorem Prepares.loose (prepares : Prepares scope c c') (unlaid : ¬ scope.lays)
    (loose : c.program.Loose) :
    c'.program.Loose ∧ c'.plan.packableStructs = c.plan.packableStructs := by
  refine prepares.keeps
    (fun c' => c'.program.Loose ∧ c'.plan.packableStructs = c.plan.packableStructs)
    (fun _ _ change before => ⟨change.loose unlaid before.1, ?_⟩) ⟨loose, rfl⟩
  rw [← before.2]
  cases change with
  | plan fixed _ =>
    have same := congrArg Plan.packableStructs fixed
    exact same
  | picks allowed => exact (unlaid allowed).elim
  | _ => rfl

end Compiler

namespace Emit

variable {c c' : Compiler} {u : Unit}

theorem survey_ok (bounded : c.program.Bounded) (done : survey c = .ok u c') :
    ∃ point graph, c.program.entryPoint = .ok point ∧ c.program.callGraph point.id = .ok graph ∧
      c.program.Extends Function.outline c'.program ∧ c'.plan.entry = point.id ∧
      c'.plan.callGraph = graph ∧ c'.session = c.session := by
  obtain ⟨point, named, graph, active, entered, naming, called, _, prepares⟩ :=
    survey_changes done False False
  have records := Program.legalizeNames_records naming
  have growth : c.program.Extends Function.outline named := .of_records_eq records
  have surveys := prepares.surveys (growth.bounded bounded) not_false
  exact ⟨point, graph, entered, (Program.callGraph_eq records point.id).symm.trans called,
    growth.trans surveys.program, surveys.entry, surveys.callGraph, surveys.session⟩

/-- Nothing is packed, and no struct is to be laid out, when the globals have been passed on. -/
theorem loose_before_layout {m : Spirv.Module} {options : Options} {program : Program}
    {surveyed threaded : Compiler} (loaded : Program.ofModule m = .ok program)
    (surveying : survey (Compiler.new program options) = .ok () surveyed)
    (threading : threadGlobals surveyed = .ok () threaded) :
    threaded.program.Loose ∧ threaded.plan.packableStructs = [] := by
  obtain ⟨_, _, _, _, _, naming, _, _, prepares⟩ := survey_changes surveying True False
  have threads : Compiler.Prepares (Preparing.AnyType True False) surveyed threaded :=
    Keeps.keeps threading
  exact Compiler.Prepares.loose (prepares.trans threads) not_false
    ((Program.ofModule_loose loaded).legalizeNames naming)

end Emit

end SpirvMetal
