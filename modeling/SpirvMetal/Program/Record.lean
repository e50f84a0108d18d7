import SpirvMetal.Program.ValueType
import SpirvMetal.Spirv.Op

/-!
The records of a program other than types: variables, constants, functions and what they consist of.
-/

namespace SpirvMetal

open Spirv (Op StorageClass)

/-- An instruction of a block: result type and result id, where the opcode has them, followed by the
operands, all as plain words. -/
structure Instruction where
  op : Op
  words : List Nat
  references : List Id
deriving DecidableEq

structure Variable where
  type : Id
  storage : StorageClass
  initializer : Option Id := none
  builtin : Bool := false
  base : Option Id := none
deriving DecidableEq

inductive ConstantValue
  | bool (value : Bool)
  | scalar (bits : Nat)
  | composite (parts : List Id)
  | null
  | operation (op : Op) (words : List Nat)
deriving DecidableEq

structure Constant where
  type : Id
  value : ConstantValue
  specialization : Bool
deriving DecidableEq

def Constant.word? (constant : Constant) : Option Nat :=
  match constant.value with
  | .scalar bits => some (bits % 4294967296)
  | .bool value => some value.toNat
  | .null => some 0
  | .composite _ | .operation _ _ => none

inductive ImportedSet
  | glslStd450
  | other
deriving DecidableEq

structure Parameter where
  id : Id
  type : Id
  threaded : Bool
deriving DecidableEq

structure Block where
  label : Id
  /-- A merge instruction, if there is one, and the terminator come last. -/
  instructions : List Instruction
deriving DecidableEq

namespace Block

def terminator? (block : Block) : Option Instruction := block.instructions.getLast?

def merge? (block : Block) : Option Instruction :=
  match block.instructions.reverse with
  | _ :: candidate :: _ =>
    if candidate.op = .selectionMerge ∨ candidate.op = .loopMerge then some candidate else none
  | _ => none

def body (block : Block) : List Instruction :=
  block.instructions.take
    (block.instructions.length - 1 - if block.merge?.isSome then 1 else 0)

end Block

/-- Statements at the start or end of an entry point that move values between its variables and its
interface. They refer to ids only, so they stay valid from pass to pass. -/
inductive Fixup
  | initializeOutput (var : Id)
  | copyInToLocal (var : Id) (member index : Option Nat) (block : Id) (blockMember : Nat)
  | copyLocalToOut (var : Id) (member index : Option Nat) (block : Id) (blockMember : Nat)
    (components : Nat)
  | padOutput (var : Id) (block : Id) (blockMember : Nat) (components : Nat)
  | bindCapturedOutput (block : Id)
  | bindSwizzleConstant (var : Id)
  | computeSamplePosition (var : Id)
deriving DecidableEq

structure Function where
  returnType : Id
  functionType : Id
  parameters : List Parameter := []
  locals : List Id := []
  blocks : List Block := []
  fixupsIn : List Fixup := []
  fixupsOut : List Fixup := []
deriving DecidableEq

namespace Function

def addLocal (function : Function) (id : Id) : Function :=
  if id ∈ function.locals then function else { function with locals := function.locals ++ [id] }

def addParameter (function : Function) (parameter : Parameter) : Function :=
  { function with parameters := function.parameters ++ [parameter] }

def instructions (function : Function) : List Instruction :=
  function.blocks.flatMap (·.instructions)

end Function

inductive Record
  | type (type : ValueType)
  | variable (var : Variable)
  | constant (constant : Constant)
  | function (function : Function)
  | undefined (type : Id)
  | importedSet (set : ImportedSet)
deriving DecidableEq

namespace Record

def asType? : Record → Option ValueType
  | .type found => some found
  | _ => none

def asVariable? : Record → Option Variable
  | .variable found => some found
  | _ => none

def asConstant? : Record → Option Constant
  | .constant found => some found
  | _ => none

def asFunction? : Record → Option Function
  | .function found => some found
  | _ => none

def asUndefined? : Record → Option Id
  | .undefined found => some found
  | _ => none

def asImportedSet? : Record → Option ImportedSet
  | .importedSet found => some found
  | _ => none

end Record

end SpirvMetal
