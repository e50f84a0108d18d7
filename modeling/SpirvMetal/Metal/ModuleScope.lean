import SpirvMetal.Metal.Constant
import SpirvMetal.Metal.Struct

/-!
What stands outside of functions: specialization constants, structs, and tables of constants.
-/

namespace SpirvMetal

namespace Compiler

variable (c : Compiler)

/-- Specialization constants that the host can set when it builds the pipeline. They need version
1.2, and arrays cannot be sized by them. -/
def isFunctionConstant (id : Id) : Bool :=
  c.options.supports 1 2 && c.program.hasDecoration id .specId && id ∉ c.program.arrayLengths

/-- Whether a constant is one that the host can set, or an operation on such; `fuel` bounds how deep
operations nest. -/
def reachesFunctionConstant : Nat → Id → Except Fault Bool
  | 0, _ => .error .aborted
  | fuel + 1, id =>
    match c.program.constantAt? id with
    | none => .ok false
    | some constant =>
      if constant.specialization then
        match constant.value with
        | .operation _ words => words.anyM (reachesFunctionConstant fuel)
        | _ => .ok (c.isFunctionConstant id)
      else .ok false

def dependsOnFunctionConstant (words : List Nat) : Except Fault Bool :=
  words.anyM (c.reachesFunctionConstant c.program.depth)

def isDeclaredStruct (id : Id) (type : ValueType) : Bool :=
  let isBlock := c.program.hasDecoration id .block || c.program.hasDecoration id .bufferBlock
  type.isStruct && !type.pointer && !type.isArray && type.baseId = id &&
    id ∉ c.plan.interfaceStructs && !(isBlock && c.program.isBuiltinBlock id)

end Compiler

namespace Emit

def derivedConstant (id : Id) (constant : Constant) (words : List Nat) : Emit Unit := do
  let c ← get
  let name := c.constantName id
  if id ∈ c.program.arrayLengths then
    if ← c.dependsOnFunctionConstant words then
      fail (.unsupported (.arrayLengthFromFunctionConstant name))
  let declaration ← c.declaration constant.type name
  statement s!"constant {declaration} = {← c.constantText id};"

def specConstant (id : Id) : Emit Unit := do
  let c ← get
  let constant ← c.program.getConstant id
  let type ← c.typeName constant.type
  let name := c.constantName id
  match constant.value with
  | .operation _ words => derivedConstant id constant words
  | _ =>
    let value ← c.constantText id
    let number := c.program.getDecoration id .specId
    if c.isFunctionConstant id then
      let tmp := s!"{name}_tmp"
      statement s!"constant {type} {tmp} [[function_constant({number})]];"
      statement (s!"constant {type} {name} = " ++
        s!"is_function_constant_defined({tmp}) ? {tmp} : {value};")
    else if c.program.hasDecoration id .specId then
      let setting := s!"SPIRV_CROSS_CONSTANT_ID_{number}"
      statement s!"#ifndef {setting}"
      statement s!"#define {setting} {value}"
      statement "#endif"
      statement s!"constant {type} {name} = {setting};"
    else statement s!"constant {type} {name} = {value};"

/-- Specialization constants and structs, in the order of the program. A blank line separates
constants from what follows; `constantsOpen` tells whether one is due. -/
def constantOrStruct (constantsOpen : Bool) (id : Id) : Emit Bool := do
  let c ← get
  match c.program.constantAt? id, c.program.typeAt? id with
  | some constant, _ =>
    if c.isWorkgroupSize id then
      statement s!"constant uint3 gl_WorkGroupSize = {← c.constantText id};"
      return true
    else if constant.specialization then
      specConstant id
      return true
    else return constantsOpen
  | none, some type =>
    if c.isDeclaredStruct id type then
      if constantsOpen then statement ""
      struct id
      return false
    else return constantsOpen
  | none, none => return constantsOpen

def constantsAndStructs : Emit Unit := do
  let ids := (← get).program.records.toList.map (·.1)
  let constantsOpen ← ids.foldlM constantOrStruct false
  if constantsOpen then statement ""

def table (type : Id) (name : String) (value : Id) : Emit Unit := do
  let c ← get
  let declaration ← c.declaration type name
  statement s!"constant {declaration} = {← c.constantText value};"

def arrayConstants (c : Compiler) : List (Id × Constant) :=
  c.program.constants.filter fun (id, constant) =>
    !constant.specialization && !c.isWorkgroupSize id &&
      (c.program.typeAt? constant.type).any (·.isArray)

def declaredUndefined (type : ValueType) : Bool :=
  !type.isOpaque && !type.pointer && type.base ≠ .void && type.base ≠ .unknown

def lookupTable (id : Id) : Emit Bool := do
  let c ← get
  let var ← c.program.getVariable id
  match var.initializer with
  | none => return false
  | some value =>
    table var.type (c.program.plainName id) value
    return true

def undefinedValue (id type : Id) : Emit Bool := do
  let c ← get
  if !declaredUndefined (← c.program.getType type) then return false
  statement s!"constant {← c.declaration type (c.program.plainName id)} = \x7b\x7d;"
  return true

def moduleConstants : Emit Unit := do
  let c ← get
  let arrays := arrayConstants c
  for (id, constant) in arrays do
    table constant.type (c.constantName id) id
  let tables ← (sortBy (· ≤ ·) c.plan.lookupTables).filterM lookupTable
  let undefineds ← c.program.undefineds.filterM fun (id, type) => undefinedValue id type
  if !(arrays.isEmpty && tables.isEmpty && undefineds.isEmpty) then statement ""

end Emit

end SpirvMetal
