import SpirvMetal.Proofs.Passes.Instruction
import SpirvMetal.Proofs.Program.Growth

/-!
Two states that the same text is written in. They differ at most in the names of some ids, in the
marks on bindings that were used, and in the number of passes.
-/

namespace SpirvMetal

open Spirv (Decoration)

variable {α β : Type}

def Decorations.nameless (d : Decorations) : Decorations := { d with name := "" }

def Options.unmarked (options : Options) : Options :=
  { options with resourceBindings := options.resourceBindings.map ({ · with used := false }) }

theorem Except.bind_same {ε : Type} {result : Except ε α} {first second : α → Except ε β}
    (same : ∀ a, result = .ok a → first a = second a) : (result >>= first) = (result >>= second) :=
      by
  cases result with
  | error fault => rfl
  | ok a => exact same a rfl

theorem mapM_congr {m : Type → Type} [Monad m] [LawfulMonad m] {list : List α} {f g : α → m β}
    (same : ∀ a ∈ list, f a = g a) : list.mapM f = list.mapM g := by
  induction list with
  | nil => rfl
  | cons a rest ih =>
    rw [List.mapM_cons, List.mapM_cons, same a (by simp), ih fun b member => same b (by simp
      [member])]

theorem foldlM_congr {list : List α} {f g : β → α → Except Fault β}
    (same : ∀ a ∈ list, ∀ b, f b a = g b a) (start : β) : list.foldlM f start = list.foldlM g start
      := by
  induction list generalizing start with
  | nil => rfl
  | cons a rest ih =>
    rw [List.foldlM_cons, List.foldlM_cons, same a (by simp)]
    exact bind_congr fun next => ih (fun b member => same b (by simp [member])) next

/-- Programs that differ at most in the names of ids. -/
structure Program.Renamed (before after : Program) : Prop where
  records : after.records = before.records
  resultTypes : after.resultTypes = before.resultTypes
  entryPoints : after.entryPoints = before.entryPoints
  defaultEntry : after.defaultEntry = before.defaultEntry
  arrayLengths : after.arrayLengths = before.arrayLengths
  own : ∀ id, (after.decorations id).nameless = (before.decorations id).nameless
  members : ∀ id, after.memberNotes id = before.memberNotes id

namespace Program.Renamed

variable {before middle after : Program}

theorem refl (program : Program) : program.Renamed program :=
  ⟨rfl, rfl, rfl, rfl, rfl, fun _ => rfl, fun _ => rfl⟩

section

variable (renamed : before.Renamed after)

include renamed

theorem hasDecoration (id : Id) (decoration : Decoration) :
    after.hasDecoration id decoration = before.hasDecoration id decoration :=
  congrArg (·.has decoration) (renamed.own id)

theorem getDecoration (id : Id) (decoration : Decoration) :
    after.getDecoration id decoration = before.getDecoration id decoration :=
  congrArg (·.get decoration) (renamed.own id)

theorem alike : before.Alike after :=
  { renamed with
    decorated := fun id decoration _ => renamed.hasDecoration id decoration
    valued := fun id decoration _ => renamed.getDecoration id decoration }

theorem symm : after.Renamed before :=
  { renamed.alike.symm with own := fun id => (renamed.own id).symm }

end

theorem trans (first : before.Renamed middle) (second : middle.Renamed after) :
    before.Renamed after :=
  { first.alike.trans second.alike with own := fun id => (second.own id).trans (first.own id) }

theorem view {α : Type} (renamed : before.Renamed after) (view : Program → α)
    (blind : ∀ (program : Program) (notes : IdMap Notes), view { program with notes } = view
      program) :
    view after = view before := by
  have same : after = { before with notes := after.notes } := by
    obtain ⟨records, notes, resultTypes, entryPoints, defaultEntry, arrayLengths⟩ := after
    obtain ⟨rfl, rfl, rfl, rfl, rfl, _, _⟩ := renamed
    rfl
  rw [same]
  exact blind _ _

end Program.Renamed

namespace Compiler

/-- Ids whose names may be read anywhere: all that are not variables, what stands outside of
functions, and the globals that parameters stand for. -/
inductive Shared (c : Compiler) : Id → Prop
  | other {id : Id} (found : c.program.variableAt? id = none) : Shared c id
  | constant {id : Id} {constant : Constant} (member : (id, constant) ∈ c.program.constants) :
      Shared c id
  | undefined {id type : Id} (member : (id, type) ∈ c.program.undefineds) : Shared c id
  | base {id : Id} {type : ValueType} (found : c.program.typeAt? id = some type) :
      Shared c type.baseId
  | length {id constant : Id} {type : ValueType} (found : c.program.typeAt? id = some type)
      (member : .spec constant ∈ type.dimensions) : Shared c constant
  | global {id global : Id} {var : Variable} (found : c.program.variableAt? id = some var)
      (base : var.base = some global) : Shared c global
  | table {id : Id} (member : id ∈ c.plan.lookupTables) : Shared c id
  | position {id : Id} (found : c.plan.builtinInputs.find? .fragCoord = some id) : Shared c id

/-- The second state looks like the first, but for the names of the ids that have `moved`. Nothing
that may be read anywhere has moved, nor anything at all that the entry point could read. -/
class Mirrors (moved : outParam (Id → Prop)) (c : outParam Compiler) (d : Compiler) : Prop where
  program : c.program.Renamed d.program
  options : d.options.unmarked = c.options.unmarked
  session : d.session = c.session
  plan : d.plan = c.plan
  pass : d.pass = c.pass
  prepared : d.prepared = c.prepared
  names : ∀ id, ¬ moved id → d.program.name id = c.program.name id
  shared : ∀ id, c.Shared id → ¬ moved id
  pairs : ∀ id image sampler, c.pass.sampledImages.find? id = some (image, sampler) →
    ¬ moved image ∧ ¬ moved sampler
  entry : c.inEntry = true → ∀ id, ¬ moved id

variable {moved : Id → Prop} {c c' d d' : Compiler}

theorem Shared.congr (records : c'.program.records = c.program.records) (plan : c'.plan = c.plan)
    {id : Id} (shared : c'.Shared id) : c.Shared id := by
  have looked (id : Id) : c'.program.record? id = c.program.record? id :=
    congrArg (·.get? id) records
  have collected {α : Type} (select : Record → Option α) :
      c'.program.collect select = c.program.collect select := by
    rw [Program.collect, Program.collect, records]
  cases shared with
  | other found => exact .other (by rwa [Program.variableAt?, looked] at found)
  | constant member => exact .constant (by rwa [Program.constants, collected] at member)
  | undefined member => exact .undefined (by rwa [Program.undefineds, collected] at member)
  | base found => exact .base (by rwa [Program.typeAt?, looked] at found)
  | length found member => exact .length (by rwa [Program.typeAt?, looked] at found) member
  | global found stands => exact .global (by rwa [Program.variableAt?, looked] at found) stands
  | table member => exact .table (plan ▸ member)
  | position found => exact .position (plan ▸ found)

def Paired (moved : Id → Prop) (pass : Pass) : Prop :=
  ∀ id image sampler, pass.sampledImages.find? id = some (image, sampler) →
    ¬ moved image ∧ ¬ moved sampler

theorem Mirrors.next (mirrors : Mirrors moved c d) (program : c'.program.Renamed d'.program)
    (options : d'.options.unmarked = c'.options.unmarked) (session : d'.session = c'.session)
    (pass : d'.pass = c'.pass) (prepared : d'.prepared = c'.prepared)
    (records : c'.program.records = c.program.records)
    (names : ∀ id, c'.program.name id = c.program.name id)
    (names' : ∀ id, d'.program.name id = d.program.name id) (plan : c'.plan = c.plan)
    (plan' : d'.plan = d.plan) (paired : Paired moved c.pass → Paired moved c'.pass)
    (current : c'.pass.currentFunction = c.pass.currentFunction) : Mirrors moved c' d' where
  program := program
  options := options
  session := session
  plan := by rw [plan', mirrors.plan, plan]
  pass := pass
  prepared := prepared
  names id stays := by rw [names', mirrors.names id stays, names]
  shared id shared := mirrors.shared id (shared.congr records plan)
  pairs := paired mirrors.pairs
  entry inside := mirrors.entry (by rwa [inEntry, current, plan] at inside)

end Compiler

class Stays (moved : Id → Prop) (id : Id) : Prop where
  stays : ¬ moved id

class StayAll (moved : Id → Prop) (ids : List Id) : Prop where
  stay : ∀ id ∈ ids, ¬ moved id

section

variable {moved : Id → Prop}
variable {rest : List Id} {id : Id}

instance StayAll.nil : StayAll moved [] := ⟨by simp⟩

instance StayAll.cons (id : Id) (rest : List Id) [Stays moved id] [StayAll moved rest] :
    StayAll moved (id :: rest) where
  stay other member := by
    rcases List.mem_cons.mp member with rfl | member
    · exact Stays.stays
    · exact StayAll.stay other member

instance StayAll.drop (count : Nat) (ids : List Id) [StayAll moved ids] :
    StayAll moved (ids.drop count) where
  stay id member := StayAll.stay id (List.mem_of_mem_drop member)

instance StayAll.append (first second : List Id) [StayAll moved first] [StayAll moved second] :
    StayAll moved (first ++ second) where
  stay id member := by
    rcases List.mem_append.mp member with member | member
    · exact StayAll.stay id member
    · exact StayAll.stay id member

instance StayAll.word? (inst : Instruction) (index : Nat) [StayAll moved inst.words] :
    StayAll moved (inst.word? index).toList where
  stay id member := StayAll.stay id (List.mem_of_getElem? (Option.mem_toList.mp member))

theorem StayAll.stays {ids : List Id} (all : StayAll moved ids) (member : id ∈ ids) :
    Stays moved id := ⟨all.stay id member⟩

theorem StayAll.split {first second : List Id} (all : StayAll moved (first ++ second)) :
    StayAll moved first ∧ StayAll moved second :=
  ⟨⟨fun id member => all.stay id (List.mem_append_left _ member)⟩,
    ⟨fun id member => all.stay id (List.mem_append_right _ member)⟩⟩

theorem StayAll.head (all : StayAll moved (id :: rest)) : Stays moved id := ⟨all.stay id (by simp)⟩

theorem StayAll.tail (all : StayAll moved (id :: rest)) :
    StayAll moved rest := ⟨fun other member => all.stay other (by simp [member])⟩

end

namespace Compiler.Mirrors

variable {moved : Id → Prop} {c d : Compiler} [mirrors : Mirrors moved c d]
variable {α : Type} {id : Id}

include mirrors

@[simp] theorem session_eq : d.session = c.session := mirrors.session

@[simp] theorem plan_eq : d.plan = c.plan := mirrors.plan

@[simp] theorem pass_eq : d.pass = c.pass := mirrors.pass

theorem options_view (view : Options → α)
    (blind : ∀ options : Options, view options.unmarked = view options) :
    view d.options = view c.options := by
  rw [← blind d.options, mirrors.options, blind]

@[simp] theorem supports (major minor : Nat) :
    d.options.supports major minor = c.options.supports major minor :=
  options_view (·.supports major minor) fun _ => rfl

@[simp] theorem isIos : d.options.isIos = c.options.isIos := options_view (·.isIos) fun _ => rfl

@[simp] theorem isMacos : d.options.isMacos = c.options.isMacos :=
  options_view (·.isMacos) fun _ => rfl

@[simp] theorem captureOutput : d.options.captureOutput = c.options.captureOutput :=
  options_view (·.captureOutput) fun _ => rfl

@[simp] theorem enablePointSize : d.options.enablePointSize = c.options.enablePointSize :=
  options_view (·.enablePointSize) fun _ => rfl

@[simp] theorem fixupClipSpace : d.options.fixupClipSpace = c.options.fixupClipSpace :=
  options_view (·.fixupClipSpace) fun _ => rfl

@[simp] theorem flipVertexY : d.options.flipVertexY = c.options.flipVertexY :=
  options_view (·.flipVertexY) fun _ => rfl

@[simp] theorem texelBufferWidth : d.options.texelBufferWidth = c.options.texelBufferWidth :=
  options_view (·.texelBufferWidth) fun _ => rfl

@[simp] theorem outputBufferIndex : d.options.outputBufferIndex = c.options.outputBufferIndex :=
  options_view (·.outputBufferIndex) fun _ => rfl

@[simp] theorem indirectParamsBufferIndex :
    d.options.indirectParamsBufferIndex = c.options.indirectParamsBufferIndex :=
  options_view (·.indirectParamsBufferIndex) fun _ => rfl

@[simp] theorem capturesOutput : d.capturesOutput = c.capturesOutput := by
  simp [Compiler.capturesOutput]

@[simp] theorem inEntry : d.inEntry = c.inEntry := by simp [Compiler.inEntry]

theorem alike : c.program.Alike d.program := mirrors.program.alike

@[simp] theorem records : d.program.records = c.program.records := mirrors.program.records

@[simp] theorem arrayLengths : d.program.arrayLengths = c.program.arrayLengths :=
  mirrors.program.arrayLengths

@[simp] theorem record? (id : Id) : d.program.record? id = c.program.record? id :=
  alike.record?_eq id

@[simp] theorem variableAt? (id : Id) : d.program.variableAt? id = c.program.variableAt? id :=
  alike.variableAt?_eq id

@[simp] theorem constantAt? (id : Id) : d.program.constantAt? id = c.program.constantAt? id :=
  alike.constantAt?_eq id

@[simp] theorem typeAt? (id : Id) : d.program.typeAt? id = c.program.typeAt? id :=
  alike.typeAt?_eq id

@[simp] theorem importedSetAt? (id : Id) :
    d.program.importedSetAt? id = c.program.importedSetAt? id :=
  mirrors.program.view (·.importedSetAt? id) fun _ _ => rfl

@[simp] theorem getType (id : Id) : d.program.getType id = c.program.getType id :=
  alike.getType_eq id

@[simp] theorem getVariable (id : Id) : d.program.getVariable id = c.program.getVariable id :=
  alike.getVariable_eq id

@[simp] theorem getFunction (id : Id) : d.program.getFunction id = c.program.getFunction id :=
  alike.getFunction_eq id

@[simp] theorem getConstant (id : Id) : d.program.getConstant id = c.program.getConstant id :=
  alike.expect_eq ..

@[simp] theorem constantWord (id : Id) : d.program.constantWord id = c.program.constantWord id :=
  alike.constantWord_eq id

@[simp] theorem pointee (id : Id) : d.program.pointee id = c.program.pointee id :=
  alike.pointee_eq id

@[simp] theorem dataType (id : Id) : d.program.dataType id = c.program.dataType id :=
  alike.dataType_eq id

@[simp] theorem typeOf? (id : Id) : d.program.typeOf? id = c.program.typeOf? id :=
  alike.typeOf?_eq id

@[simp] theorem expressionType (id : Id) :
    d.program.expressionType id = c.program.expressionType id :=
  alike.expressionType_eq id

@[simp] theorem entryPoint : d.program.entryPoint = c.program.entryPoint :=
  mirrors.program.view (·.entryPoint) fun _ _ => rfl

@[simp] theorem depth : d.program.depth = c.program.depth :=
  mirrors.program.view (·.depth) fun _ _ => rfl

@[simp] theorem vars : d.program.vars = c.program.vars :=
  mirrors.program.view (·.vars) fun _ _ => rfl

@[simp] theorem constants : d.program.constants = c.program.constants :=
  mirrors.program.view (·.constants) fun _ _ => rfl

@[simp] theorem undefineds : d.program.undefineds = c.program.undefineds :=
  mirrors.program.view (·.undefineds) fun _ _ => rfl

@[simp] theorem dimensionLength (dimension : Dimension) :
    d.program.dimensionLength dimension = c.program.dimensionLength dimension :=
  mirrors.program.view (·.dimensionLength dimension) fun _ _ => rfl

@[simp] theorem elementCount (dimensions : List Dimension) :
    d.program.elementCount dimensions = c.program.elementCount dimensions :=
  mirrors.program.view (·.elementCount dimensions) fun _ _ => rfl

@[simp] theorem structureBlocks (blocks : List Block) (first : Id) :
    SpirvMetal.structureBlocks d.program blocks first =
      SpirvMetal.structureBlocks c.program blocks first :=
  Structure.structureBlocks_eq alike blocks first

theorem neededElsewhere (defined : IdMap Hoist.Definition) (fuel : Nat)
    (pending visited : List (Id × Id)) :
    Hoist.neededElsewhere d.program defined fuel pending visited =
      Hoist.neededElsewhere c.program defined fuel pending visited := by
  have forwarded (inst : Instruction) : d.program.isForwarded inst = c.program.isForwarded inst :=
    mirrors.program.view (·.isForwarded inst) fun _ _ => rfl
  induction fuel generalizing pending visited with
  | zero => rfl
  | succ fuel ih =>
    cases pending with
    | nil => rfl
    | cons use rest => simp only [Hoist.neededElsewhere, forwarded, ih]

@[simp] theorem hoistedResults (blocks : List Block) :
    d.program.hoistedResults blocks = c.program.hoistedResults blocks := by
  have defined : Hoist.definitions d.program blocks = Hoist.definitions c.program blocks :=
    mirrors.program.view (Hoist.definitions · blocks) fun _ _ => rfl
  have ends : Hoist.iterationEndResults d.program blocks =
      Hoist.iterationEndResults c.program blocks :=
    mirrors.program.view (Hoist.iterationEndResults · blocks) fun _ _ => rfl
  have phis : Hoist.phiResults d.program blocks = Hoist.phiResults c.program blocks :=
    mirrors.program.view (Hoist.phiResults · blocks) fun _ _ => rfl
  have declarable : Hoist.isDeclarable d.program = Hoist.isDeclarable c.program :=
    mirrors.program.view Hoist.isDeclarable fun _ _ => rfl
  simp only [Program.hoistedResults, defined, neededElsewhere, ends, phis, declarable]

@[simp] theorem baseVariable (var : Id) : d.baseVariable var = c.baseVariable var := by
  simp [Compiler.baseVariable]

@[simp] theorem backingVariable? (id : Id) : d.backingVariable? id = c.backingVariable? id := by
  simp [Compiler.backingVariable?]

@[simp] theorem isTable (var : Id) : d.isTable var = c.isTable var := by
  simp [Compiler.isTable]

@[simp] theorem isBufferArray (var : Id) : d.isBufferArray var = c.isBufferArray var := by
  simp [Compiler.isBufferArray]

@[simp] theorem hasDecoration (id : Id) (decoration : Decoration) :
    d.program.hasDecoration id decoration = c.program.hasDecoration id decoration :=
  mirrors.program.hasDecoration id decoration

@[simp] theorem getDecoration (id : Id) (decoration : Decoration) :
    d.program.getDecoration id decoration = c.program.getDecoration id decoration :=
  mirrors.program.getDecoration id decoration

@[simp] theorem builtin? (id : Id) : d.program.builtin? id = c.program.builtin? id :=
  congrArg (·.builtin?) (mirrors.program.own id)

@[simp] theorem standIn? (id : Id) : d.program.standIn? id = c.program.standIn? id :=
  congrArg (·.standIn) (mirrors.program.own id)

@[simp] theorem memberDecorations (id member : Nat) :
    d.program.memberDecorations id member = c.program.memberDecorations id member :=
  alike.memberDecorations_eq id member

@[simp] theorem memberName (id member : Nat) :
    d.program.memberName id member = c.program.memberName id member := by
  simp [Program.memberName]

@[simp] theorem plainMemberName (id member : Nat) :
    d.program.plainMemberName id member = c.program.plainMemberName id member := by
  simp [Program.plainMemberName]

@[simp] theorem memberBuiltin? (id member : Nat) :
    d.program.memberBuiltin? id member = c.program.memberBuiltin? id member :=
  alike.memberBuiltin?_eq id member

@[simp] theorem memberStandIn? (id member : Nat) :
    d.program.memberStandIn? id member = c.program.memberStandIn? id member := by
  simp [Program.memberStandIn?]

@[simp] theorem hasMemberDecoration (id member : Nat) (decoration : Decoration) :
    d.program.hasMemberDecoration id member decoration =
      c.program.hasMemberDecoration id member decoration := by
  simp [Program.hasMemberDecoration]

@[simp] theorem isMemberPacked (id member : Nat) :
    d.program.isMemberPacked id member = c.program.isMemberPacked id member := by
  simp [Program.isMemberPacked]

@[simp] theorem isBuiltinBlock (id : Id) :
    d.program.isBuiltinBlock id = c.program.isBuiltinBlock id :=
  alike.isBuiltinBlock_eq id

@[simp] theorem plainName (id : Id) [Stays moved id] :
    d.program.plainName id = c.program.plainName id := by
  simp only [Program.plainName, mirrors.names id Stays.stays]

@[simp] theorem nameOf (id : Id) [Stays moved id] : d.nameOf id = c.nameOf id := by
  simp [Compiler.nameOf]

omit mirrors in
theorem stays_of_shared (mirrors : Mirrors moved c d) (shared : c.Shared id) :
    Stays moved id := ⟨mirrors.shared id shared⟩

omit mirrors in
theorem stays_of_selected (mirrors : Mirrors moved c d) {select : Record → Option α}
    (differ : ∀ record a, select record = some a → record.asVariable? = none) {a : α}
    (found : (c.program.record? id).bind select = some a) : Stays moved id := by
  obtain ⟨record, stored, selected⟩ := Option.bind_eq_some_iff.mp found
  refine mirrors.stays_of_shared (.other ?_)
  rw [Program.variableAt?, stored, Option.bind_some, differ record a selected]

omit mirrors in
theorem stays_of_constant (mirrors : Mirrors moved c d) {constant : Constant}
    (found : c.program.constantAt? id = some constant) : Stays moved id :=
  mirrors.stays_of_selected (fun record a selected => by cases record <;> first | rfl | cases
    selected)
    found

omit mirrors in
theorem stays_of_type (mirrors : Mirrors moved c d) {type : ValueType}
    (found : c.program.typeAt? id = some type) : Stays moved id :=
  mirrors.stays_of_selected (fun record a selected => by cases record <;> first | rfl | cases
    selected)
    found

omit mirrors in
theorem stays_of_function (mirrors : Mirrors moved c d) {function : Function}
    (found : c.program.functionAt? id = some function) : Stays moved id :=
  mirrors.stays_of_selected (fun record a selected => by cases record <;> first | rfl | cases
    selected)
    found

end Compiler.Mirrors

end SpirvMetal
