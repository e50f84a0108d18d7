import SpirvMetal.Spirv.Grammar

/-!
Reading a module from its words: a header of five words, then instructions, each with its length in
the high half of its first word.
-/

namespace SpirvMetal.Spirv

abbrev Reader := StateT (List Nat) Option

inductive NumberType
  | int (width : Nat)
  | float (width : Nat)

abbrev NumberTypes := IdMap NumberType

namespace Reader

def word : Reader Nat
  | [] => none
  | first :: rest => some (first, rest)

def atEnd : Reader Bool := fun words => some (words.isEmpty, words)

def bytes (word : Nat) : List UInt8 :=
  [word, word / 256, word / 65536, word / 16777216].map Nat.toUInt8

/-- Bytes up to a zero byte, as text; the words that the bytes and the zero occupy are consumed. -/
def text : Reader String := fun words =>
  let content := words.flatMap bytes
  let kept := content.takeWhile (· ≠ 0)
  if kept.length = content.length then none
  else do
    let value ← String.fromUTF8? ⟨kept.toArray⟩
    some (value, words.drop (kept.length / 4 + 1))

def number (type : Option NumberType) : Reader Operand := do
  match type with
  | none | some (.int 8) | some (.int 16) | some (.int 32) | some (.float 16)
  | some (.float 32) => return .literal (← word)
  | some (.int 64) | some (.float 64) =>
    let low ← word
    let high ← word
    return .wideLiteral (low + high * 4294967296)
  | some _ => failure

def enumerant {α : Type} (ofCode? : Nat → Option α) (wrap : α → Operand) : Reader (List Operand) :=
  do
    let code ← word
    match ofCode? code with
    | some value => return [wrap value]
    | none => failure

def simple : Kind → Reader (List Operand)
  | .idRef => return [.idRef (← word)]
  | .scopeId => return [.scopeId (← word)]
  | .semanticsId => return [.semanticsId (← word)]
  | .literal => return [.literal (← word)]
  | .extInst => return [.extInst (← word)]
  | .text => return [.text (← text)]
  | .phiPair => return [.idRef (← word), .idRef (← word)]
  | .mask kind => do
    let bits ← word
    if kind.accepts bits then return [.mask kind bits] else failure
  | .storageClass => enumerant StorageClass.ofCode? .storageClass
  | .dim => enumerant Dim.ofCode? .dim
  | .imageFormat => enumerant ImageFormat.ofCode? .imageFormat
  | .accessQualifier => enumerant AccessQualifier.ofCode? .accessQualifier
  | .decoration => enumerant Decoration.ofCode? .decoration
  | .builtIn => enumerant BuiltIn.ofCode? .builtIn
  | .executionModel => enumerant ExecutionModel.ofCode? .executionModel
  | .executionMode => enumerant ExecutionMode.ofCode? .executionMode
  | .checked kind => do
    let code ← word
    if kind.accepts code then return [.checked kind code] else failure
  | .typedNumber | .switchCase | .specOp => failure

def argumentKinds : Operand → List Kind
  | .mask kind bits =>
    kind.arguments.flatMap fun (bit, kinds) => if bits &&& bit ≠ 0 then kinds else []
  | .decoration value => value.arguments
  | .executionMode value => value.arguments
  | _ => []

def withArguments (kind : Kind) : Reader (List Operand) := do
  let operands ← simple kind
  let arguments ← (operands.flatMap argumentKinds).mapM simple
  return operands ++ arguments.flatten

/-- An opcode and its operands, each exactly once. The opcode may again be one that wraps an
opcode; each level consumes a word, so the words left bound the depth. -/
def specOp : Nat → Reader (List Operand)
  | 0 => failure
  | depth + 1 => do
    let code ← word
    match Op.ofCode? (code % 65536) with
    | none => failure
    | some op =>
      let operands ← op.signature.slots.mapM fun slot =>
        match slot.kind with
        | .specOp => specOp depth
        | kind => withArguments kind
      return .specOp op :: operands.flatten

/-- An operand position of an instruction. The types of numbers decide how wide a constant of type
`type` is, and how wide the cases of a switch on `selector` are. -/
def operand (types : NumberTypes) (type : Option Id) (selector : Option Id) :
    Kind → Reader (List Operand)
  | .typedNumber => return [← number (type.bind types.find?)]
  | .switchCase => return [← number (selector.bind types.find?), .idRef (← word)]
  | .specOp => do specOp ((← get).length)
  | kind => withArguments kind

def repeated (read : Reader (List Operand)) : Nat → Reader (List Operand)
  | 0 => return []
  | count + 1 => do
    if ← atEnd then return []
    let first ← read
    return first ++ (← repeated read count)

/-- The operands of an instruction, after `before`. Once the words have run out only positions that
may stay empty can follow. -/
def operands (types : NumberTypes) (type : Option Id) :
    List Slot → List Operand → Reader (List Operand)
  | [], before => return before
  | slot :: slots, before => do
    let selector := (before.head?).bind Operand.reference?
    let read := operand types type selector slot.kind
    match slot, ← atEnd with
    | .one _, true => failure
    | _, true => return before
    | .one _, false | .optional _, false => operands types type slots (before ++ (← read))
    | .many _, false =>
      operands types type slots (before ++ (← repeated read ((← get).length)))

def optionalWord (present : Bool) : Reader (Option Nat) :=
  if present then some <$> word else return none

def instruction (types : NumberTypes) (op : Op) : Reader Instruction := do
  let signature := op.signature
  let resultType ← optionalWord signature.hasType
  let resultId ← optionalWord signature.hasResult
  let read ← operands types resultType signature.slots []
  if ← atEnd then return ⟨op, resultType, resultId, read⟩ else failure

end Reader

def NumberTypes.note (types : NumberTypes) (inst : Instruction) : NumberTypes :=
  match inst.resultId, inst.op, inst.operands with
  | some id, .typeInt, .literal width :: _ => types.insert id (.int width)
  | some id, .typeFloat, .literal width :: _ => types.insert id (.float width)
  | some id, _, _ =>
    match inst.resultType.bind types.find? with
    | some type => types.insert id type
    | none => types
  | none, _, _ => types

def frames (words : List Nat) : Option (List (Op × List Nat)) :=
  match words with
  | [] => some []
  | first :: rest => do
    let length := first / 65536
    if length = 0 ∨ rest.length < length - 1 then none
    let op ← Op.ofCode? (first % 65536)
    let later ← frames (rest.drop (length - 1))
    return (op, rest.take (length - 1)) :: later
termination_by words.length
decreasing_by simp only [List.length_drop, List.length_cons]; omega

def instructions (types : NumberTypes) : List (Op × List Nat) → Option (List Instruction)
  | [] => some []
  | (op, words) :: rest => do
    let (inst, _) ← Reader.instruction types op words
    let later ← instructions (types.note inst) rest
    return inst :: later

inductive Role
  | import | entryPoint | executionMode | name | decorating | other
  | location
  | global
  /-- Global outside of functions, an ordinary instruction inside. -/
  | globalOrLocal
  | functionStart | functionEnd | parameter | label | terminator
  | ordinary

def Op.role : Op → Role
  | .extInstImport => .import
  | .entryPoint => .entryPoint
  | .executionMode => .executionMode
  | .debugName | .memberName => .name
  | .decorate | .memberDecorate | .decorationGroup | .groupDecorate => .decorating
  | .capability | .extension | .memoryModel | .string | .source | .sourceExtension
  | .moduleProcessed => .other
  | .line | .noLine => .location
  | .typeVoid | .typeBool | .typeInt | .typeFloat | .typeVector | .typeMatrix | .typeImage
  | .typeSampler | .typeSampledImage | .typeArray | .typeRuntimeArray | .typeStruct | .typeOpaque
  | .typePointer | .typeFunction | .typeEvent
  | .constantTrue | .constantFalse | .constant | .constantComposite | .constantSampler
  | .constantNull | .specConstantTrue | .specConstantFalse | .specConstant
  | .specConstantComposite | .specConstantOp => .global
  | .varDecl | .undef => .globalOrLocal
  | .function => .functionStart
  | .functionEnd => .functionEnd
  | .functionParameter => .parameter
  | .label => .label
  | .branch | .branchConditional | .switch | .ret | .returnValue | .kill | .terminateInvocation
  | .ignoreIntersectionKHR | .unreachable => .terminator
  | _ => .ordinary

structure Assembly where
  module : Module
  function : Option Function := none
  block : Option Block := none

namespace Assembly

def global (a : Assembly) (inst : Instruction) : Assembly :=
  { a with module := { a.module with globals := a.module.globals ++ [inst] } }

def append? (a : Assembly) (inst : Instruction) : Option Assembly := do
  let block ← a.block
  return { a with block := some { block with instructions := block.instructions ++ [inst] } }

def closeBlock? (a : Assembly) : Option Assembly := do
  let function ← a.function
  let block ← a.block
  return { a with
    function := some { function with blocks := function.blocks ++ [block] }
    block := none }

def add (a : Assembly) (inst : Instruction) : Option Assembly :=
  let m := a.module
  match inst.op.role with
  | .import => some { a with module := { m with imports := m.imports ++ [inst] } }
  | .entryPoint => some { a with module := { m with entryPoints := m.entryPoints ++ [inst] } }
  | .executionMode =>
    some { a with module := { m with executionModes := m.executionModes ++ [inst] } }
  | .name => some { a with module := { m with names := m.names ++ [inst] } }
  | .decorating => some { a with module := { m with annotations := m.annotations ++ [inst] } }
  | .other => some { a with module := { m with others := m.others ++ [inst] } }
  | .location => some ((a.append? inst).getD (a.global inst))
  | .global => some (a.global inst)
  | .globalOrLocal => if a.function.isNone then some (a.global inst) else a.append? inst
  | .functionStart =>
    if a.function.isSome then none else some { a with function := some { definition := inst } }
  | .functionEnd =>
    match a.function, a.block with
    | some function, none =>
      some { a with module := { m with functions := m.functions ++ [function] }, function := none }
    | _, _ => none
  | .parameter => do
    let function ← a.function
    let extended := { function with parameters := function.parameters ++ [inst] }
    return { a with function := some extended }
  | .label =>
    if a.function.isSome ∧ a.block.isNone then some { a with block := some { label := inst } }
    else none
  | .terminator => (a.append? inst).bind closeBlock?
  | .ordinary => a.append? inst

end Assembly

namespace Module

def ofInstructions? (bound : Nat) (list : List Instruction) : Option Module := do
  let done ← list.foldlM Assembly.add { module := { bound := some bound } }
  if done.function.isNone ∧ done.block.isNone then some done.module else none

def ofWords? : List Nat → Option Module
  | 0x07230203 :: _ :: _ :: bound :: _ :: rest => do
    ofInstructions? bound (← instructions ∅ (← frames rest))
  | _ => none

end Module

end SpirvMetal.Spirv
