import SpirvMetal.Metal.Constant
import SpirvMetal.Metal.Enclose
import SpirvMetal.Metal.Usage

/-!
Values while code is written: the operands of an instruction, texts of operands, temporaries for
results, and where pointers point to.
-/

namespace SpirvMetal

open Spirv (Dim)

namespace Compiler

variable (c : Compiler)

def backingVariable? (id : Id) : Option Id :=
  if (c.program.variableAt? id).isSome then some id else c.pass.backing.find? id

def textAs (id : Id) (signed : Bool) : Except Fault String := do
  let text ← c.textOf id
  castSignedness text (← c.program.expressionType id) signed

def callText (name : String) (arguments : List Id) : Except Fault String := do
  return applied name (← arguments.mapM c.textOf)

def isTable (var : Id) : Bool := c.baseVariable var ∈ c.plan.lookupTables

def pointerSpace (pointer : Id) : Except Fault AddressSpace := do
  match c.backingVariable? pointer with
  | some var =>
    if c.isTable var then return .constant else return (← c.argumentSpace var).space
  | none => return c.addressSpace (← c.program.expressionType pointer)

def isBufferArray (var : Id) : Bool :=
  match c.program.variableAt? (c.baseVariable var) with
  | none => false
  | some found =>
    (found.storage = .uniform || found.storage = .storageBuffer) &&
      match c.program.pointee found.type with
      | .ok (_, type) => type.isArray && type.isStruct
      | .error _ => false

def samplerText (id : Id) : Except Fault String :=
  match c.pass.sampledImages.find? id with
  | some (_, sampler) => c.textOf sampler
  | none => return Name.withSuffix (← c.textOf id) "Smplr"

def swizzleText (id : Id) : Except Fault String := do
  let image :=
    match c.pass.sampledImages.find? id with
    | some (image, _) => image
    | none => id
  let text := (← c.textOf image).map fun char => if char = '.' then '_' else char
  return Name.withSuffix text "Swzl"

def needsSampler (type : ValueType) : Bool :=
  type.base = .sampledImage && type.dim? ≠ some .dimBuffer

def needsSwizzle (type : Id) : Except Fault Bool := do
  if c.plan.auxBuffer.isNone then return false
  let (_, found) ← c.program.pointee type
  return found.isSampled && found.dim? ≠ some .dimBuffer

end Compiler

namespace Emit

def need (inst : Instruction) (count : Nat) : Emit Unit := do
  if inst.words.length < count then
    fail (.internal (.atLeast inst.op count inst.words.length))

def word (inst : Instruction) (index : Nat) : Emit Nat :=
  match inst.word? index with
  | some word => return word
  | none => fail .aborted

def text (id : Id) : Emit String := do (← get).textOf id

def textAs (id : Id) (signed : Bool) : Emit String := do (← get).textAs id signed

def getType (id : Id) : Emit ValueType := do (← get).program.getType id

def typeName (id : Id) : Emit String := do (← get).typeName id

def temporary (result : Id) : String := s!"_{result}"

def setText (result : Id) (text : String) : Emit Unit :=
  modifyPass fun pass => { pass with expressions := pass.expressions.insert result text }

def define (type result : Id) (value : String) : Emit Unit := do
  let c ← get
  let name := temporary result
  if result ∈ c.pass.hoisted then statement s!"{name} = {value};"
  else statement s!"{← c.declaration type name} = {value};"
  setText result name

def declare (type result : Id) : Emit String := do
  let c ← get
  let name := temporary result
  if result ∉ c.pass.hoisted then statement s!"{← c.declaration type name};"
  setText result name
  return name

def setBacking (result source : Id) : Emit Unit := do
  if let some var := (← get).backingVariable? source then
    modifyPass fun pass => { pass with backing := pass.backing.insert result var }

def inherit (result source : Id) (pass : Pass) : Pass :=
  { pass with
    sampledImages :=
      match pass.sampledImages.find? source with
      | some pair => pass.sampledImages.insert result pair
      | none => pass.sampledImages
    rowMajor := if source ∈ pass.rowMajor then addNew pass.rowMajor result else pass.rowMajor
    packed := if source ∈ pass.packed then addNew pass.packed result else pass.packed }

def forward (result source : Id) (text : String) : Emit Unit := do
  setText result text
  setBacking result source
  modifyPass (inherit result source)

end Emit

end SpirvMetal
