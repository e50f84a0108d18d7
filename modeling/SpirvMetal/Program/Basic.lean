import SpirvMetal.Error
import SpirvMetal.Program.Decorations
import SpirvMetal.Program.Record

/-!
A program: records addressed by id, notes on ids, and entry points. Records are stored once by the
loader; afterwards a program only grows, on fresh ids.
-/

namespace SpirvMetal

open Spirv (Op StorageClass Decoration BuiltIn ExecutionModel ExecutionMode)

def Record.kind : Record → RecordKind
  | .type _ => .type
  | .variable _ => .variable
  | .constant _ => .constant
  | .function _ => .function
  | .undefined _ => .undefined
  | .importedSet _ => .importedSet

structure EntryPoint where
  id : Id
  name : String
  model : ExecutionModel
  interface : List Id := []
  modes : List ExecutionMode := []
  workgroupSize : Nat × Nat × Nat := (1, 1, 1)

structure Program where
  records : Arena Record
  notes : IdMap Notes := ∅
  resultTypes : IdMap Id := ∅
  entryPoints : IdMap EntryPoint := ∅
  defaultEntry : Id := 0
  arrayLengths : List Id := []

namespace Program

variable (program : Program)

def empty (bound : Nat) : Program := { records := { bound } }

def bound : Nat := program.records.bound

def reserve (count : Nat) : Id × Program :=
  let (first, records) := program.records.reserve count
  (first, { program with records })

def set (id : Id) (record : Record) : Program :=
  let resultTypes :=
    match record with
    | .variable var => program.resultTypes.insert id var.type
    | _ => program.resultTypes
  { program with records := program.records.set id record, resultTypes }

def record? (id : Id) : Option Record := program.records.get? id

def typeAt? (id : Id) : Option ValueType := (program.record? id).bind Record.asType?

def variableAt? (id : Id) : Option Variable := (program.record? id).bind Record.asVariable?

def constantAt? (id : Id) : Option Constant := (program.record? id).bind Record.asConstant?

def functionAt? (id : Id) : Option Function := (program.record? id).bind Record.asFunction?

def undefinedAt? (id : Id) : Option Id := (program.record? id).bind Record.asUndefined?

def importedSetAt? (id : Id) : Option ImportedSet := (program.record? id).bind Record.asImportedSet?

def expect {α : Type} (lookup : Lookup) (select : Record → Option α) (id : Id) : Except Fault α :=
  match program.record? id with
  | none => .error (.internal (.noRecord id lookup))
  | some record =>
    match select record with
    | some found => .ok found
    | none => .error (.internal (.wrongKind id record.kind lookup))

def getType : Id → Except Fault ValueType := program.expect { kind := .type } Record.asType?

def getVariable : Id → Except Fault Variable :=
  program.expect { kind := .variable } Record.asVariable?

def getConstant : Id → Except Fault Constant :=
  program.expect { kind := .constant } Record.asConstant?

def getFunction : Id → Except Fault Function :=
  program.expect { kind := .function } Record.asFunction?

def getUndefined : Id → Except Fault Id := program.expect { kind := .undefined } Record.asUndefined?

def modify {α : Type} (kind : RecordKind) (select : Record → Option α) (wrap : α → Record)
    (id : Id) (change : α → α) : Except Fault Program := do
  let found ← program.expect { kind, update := true } select id
  return { program with records := program.records.set id (wrap (change found)) }

def modifyType (id : Id) (change : ValueType → ValueType) : Except Fault Program :=
  program.modify .type Record.asType? .type id change

def modifyVariable (id : Id) (change : Variable → Variable) : Except Fault Program :=
  program.modify .variable Record.asVariable? .variable id change

def modifyConstant (id : Id) (change : Constant → Constant) : Except Fault Program :=
  program.modify .constant Record.asConstant? .constant id change

def modifyFunction (id : Id) (change : Function → Function) : Except Fault Program :=
  program.modify .function Record.asFunction? .function id change

def modifyUndefined (id : Id) (change : Id → Id) : Except Fault Program :=
  program.modify .undefined Record.asUndefined? .undefined id change

def collect {α : Type} (select : Record → Option α) : List (Id × α) :=
  program.records.toList.filterMap fun (id, record) => (select record).map (id, ·)

def types : List (Id × ValueType) := program.collect Record.asType?

def vars : List (Id × Variable) := program.collect Record.asVariable?

def constants : List (Id × Constant) := program.collect Record.asConstant?

def functions : List (Id × Function) := program.collect Record.asFunction?

def undefineds : List (Id × Id) := program.collect Record.asUndefined?

def globals : List (Id × Variable) := program.vars.filter (·.2.storage ≠ .function)

def setResultType (id type : Id) : Program :=
  { program with resultTypes := program.resultTypes.insert id type }

def typeOf? (id : Id) : Option Id :=
  match program.record? id with
  | some (.variable var) => some var.type
  | some (.constant constant) => some constant.type
  | some (.undefined type) => some type
  | _ => program.resultTypes.find? id

def expressionType (id : Id) : Except Fault ValueType :=
  match program.typeOf? id with
  | some type => program.getType type
  | none => .error (.internal (.noType id))

def pointee (id : Id) : Except Fault (Id × ValueType) := do
  let type ← program.getType id
  match type.pointer, type.parent with
  | true, some parent => return (parent, ← program.getType parent)
  | _, _ => return (id, type)

def dataType (var : Id) : Except Fault (Id × ValueType) := do
  program.pointee (← program.getVariable var).type

def notes? (id : Id) : Option Notes := program.notes.find? id

def modifyNotes (id : Id) (change : Notes → Notes) : Program :=
  { program with notes := program.notes.insert id (change ((program.notes? id).getD {})) }

def modifyOwn (id : Id) (change : Decorations → Decorations) : Program :=
  program.modifyNotes id fun notes => { notes with own := change notes.own }

def modifyMember (id member : Nat) (change : Decorations → Decorations) : Program :=
  program.modifyNotes id (·.modifyMember member change)

def decorations? (id : Id) : Option Decorations := (program.notes? id).map (·.own)

def memberDecorations? (id member : Nat) : Option Decorations :=
  (program.notes? id).bind (·.member? member)

def decorations (id : Id) : Decorations := (program.decorations? id).getD {}

def memberDecorations (id member : Nat) : Decorations :=
  (program.memberDecorations? id member).getD {}

def name (id : Id) : String := (program.decorations id).name

def memberName (id member : Nat) : String := (program.memberDecorations id member).name

def setName (id : Id) (name : String) : Program := program.modifyOwn id ({ · with name })

def setMemberName (id member : Nat) (name : String) : Program :=
  program.modifyMember id member ({ · with name })

def hasDecoration (id : Id) (decoration : Decoration) : Bool :=
  (program.decorations id).has decoration

def getDecoration (id : Id) (decoration : Decoration) : Nat :=
  (program.decorations id).get decoration

def setDecoration (id : Id) (decoration : Decoration) (value : Nat) : Program :=
  program.modifyOwn id (·.set decoration value)

def unsetDecoration (id : Id) (decoration : Decoration) : Program :=
  program.modifyOwn id (·.unset decoration)

def hasMemberDecoration (id member : Nat) (decoration : Decoration) : Bool :=
  (program.memberDecorations id member).has decoration

def getMemberDecoration (id member : Nat) (decoration : Decoration) : Nat :=
  (program.memberDecorations id member).get decoration

def setMemberDecoration (id member : Nat) (decoration : Decoration) (value : Nat) : Program :=
  program.modifyMember id member (·.set decoration value)

def builtin? (id : Id) : Option BuiltIn := (program.decorations id).builtin?

def memberBuiltin? (id member : Nat) : Option BuiltIn :=
  (program.memberDecorations id member).builtin?

def isBuiltinBlock (struct : Id) : Bool :=
  ((program.notes? struct).getD {}).members.any (·.builtin?.isSome)

def isMemberPacked (id member : Nat) : Bool := (program.memberDecorations id member).packed

def setMemberPacked (id member : Nat) : Program :=
  program.modifyMember id member ({ · with packed := true })

def standIn? (id : Id) : Option String := (program.decorations id).standIn

def setStandIn (id : Id) (text : String) : Program :=
  program.modifyOwn id ({ · with standIn := some text })

def memberStandIn? (id member : Nat) : Option String :=
  (program.memberDecorations id member).standIn

def setMemberStandIn (id member : Nat) (text : String) : Program :=
  program.modifyMember id member ({ · with standIn := some text })

def entryPoint : Except Fault EntryPoint :=
  match program.entryPoints.find? program.defaultEntry with
  | some entry => .ok entry
  | none => .error (.internal (.noEntryPoint program.defaultEntry))

def executionModel : Except Fault ExecutionModel := return (← program.entryPoint).model

def constantWord (id : Id) : Except Fault Nat := do
  match (← program.getConstant id).word? with
  | some word => return word
  | none => .error (.internal (.notScalar id))

def constantWord? (id : Id) : Option Nat := (program.constantWord id).toOption

/-- The number of elements of a dimension: zero for lengths known only when it runs, the default
value for specialization constants. -/
def dimensionLength : Dimension → Nat
  | .literal count => count
  | .spec constant => (program.constantWord? constant).getD 0

def elementCount (dimensions : List Dimension) : Nat :=
  dimensions.foldl (fun count dimension => count * max (program.dimensionLength dimension) 1) 1

/-- A bound on how deep types and constants of the program can nest. -/
def depth : Nat := program.records.items.size + 1

end Program

end SpirvMetal
