import SpirvMetal.Text.Applied
import SpirvMetal.Metal.Literal
import SpirvMetal.Metal.Operator

/-!
Texts of constants. Specialization constants, arrays and the workgroup size are declared once and
then referred to by name; all others are written out where they are used.
-/

namespace SpirvMetal

open Spirv (Op BuiltIn)

namespace Compiler

variable (c : Compiler)

def isWorkgroupSize (id : Id) : Bool := c.program.builtin? id = some .workgroupSize

def isNamedConstant (id : Id) : Bool :=
  match c.program.constantAt? id with
  | none => false
  | some constant =>
    constant.specialization || c.isWorkgroupSize id ||
      (c.program.typeAt? constant.type).any (·.isArray)

def constantName (id : Id) : String :=
  if c.isWorkgroupSize id then Builtin.name .workgroupSize else c.program.plainName id

def nullText (id : Id) : Except Fault String := do
  let type ← c.program.getType id
  if type.isArray then return "\x7b\x7d"
  else if type.isStruct || type.isMatrix then return s!"{← c.typeName id}" ++ "\x7b\x7d"
  else
    let zero ← Literal.ofScalar type.base 0
    if 1 < type.components then return s!"{← c.typeName id}({zero})" else return zero

def braced (parts : List String) : String := "\x7b " ++ ", ".intercalate parts ++ " \x7d"

def compositeText (id : Id) (type : ValueType) (parts : List String) : Except Fault String := do
  if type.isArray then return braced parts
  else if type.isStruct then return (← c.typeName id) ++ braced parts
  else
    let arguments :=
      match parts with
      | first :: _ :: _ =>
        if !type.isMatrix && parts.all (· = first) then first else ", ".intercalate parts
      | _ => ", ".intercalate parts
    return s!"{← c.typeName id}({arguments})"

/-- Follow literal indices into a constant. An index that leads nowhere stays at its type. -/
def extractPath : List Nat → String → ValueType → Except Fault String
  | [], text, _ => .ok text
  | index :: rest, text, type => do
    let text :=
      if type.isVector then s!"{text}.{componentLetter index}" else s!"{text}[{index}]"
    let inner := if type.isStruct && !type.isArray then type.members[index]? else type.parent
    match inner with
    | some inner => extractPath rest text (← c.program.getType inner)
    | none => extractPath rest text type

def operationText (reference : Id → Except Fault String) (type : Id) (op : Op)
    (words : List Nat) : Except Fault String := do
  let operand (index : Nat) : Except Fault Id :=
    match words[index]? with
    | some word => .ok word
    | none => .error (.internal (.specOperand op index))
  match BinaryOperator.ofOp? op with
  | some operator =>
    let a ← operand 0
    let b ← operand 1
    let left ← reference a
    let right ← reference b
    match operator.signed with
    | none => return s!"({left} {operator.symbol.text} {right})"
    | some signed =>
      let left ← castSignedness left (← c.program.expressionType a) signed
      let right ← castSignedness right (← c.program.expressionType b) signed
      return s!"({left} {operator.symbol.text} {right})"
  | none =>
    match op with
    | .sNegate => return s!"(-{← reference (← operand 0)})"
    | .not => return s!"(~{← reference (← operand 0)})"
    | .logicalNot => return s!"(!{← reference (← operand 0)})"
    | .select =>
      let condition ← reference (← operand 0)
      let accepted ← reference (← operand 1)
      let rejected ← reference (← operand 2)
      return s!"({condition} ? {accepted} : {rejected})"
    | .sConvert | .uConvert | .fConvert =>
      let name ← c.typeName type
      return s!"{name}({← reference (← operand 0)})"
    | .quantizeToF16 => return s!"float(half({← reference (← operand 0)}))"
    | .compositeExtract =>
      let composite ← operand 0
      let text ← reference composite
      c.extractPath (words.drop 1) text (← c.program.expressionType composite)
    | .vectorShuffle =>
      let a ← operand 0
      let b ← operand 1
      let size := (← c.program.expressionType a).components
      let first ← reference a
      let second ← reference b
      let parts := (words.drop 2).map fun component =>
        if component < size then s!"{first}.{componentLetter component}"
        else s!"{second}.{componentLetter (component - size)}"
      return applied (← c.typeName type) parts
    | other => .error (.unsupported (.specConstantOp other))

inductive PartStyle
  | reference
  | element

/-- The text of a constant; `fuel` bounds how deep constants nest. -/
def constantTextWithin : Nat → Id → Except Fault String
  | 0, _ => .error .aborted
  | fuel + 1, id => do
    let part (style : PartStyle) (id : Id) : Except Fault String := do
      match style with
      | .reference =>
        if c.isNamedConstant id then return c.constantName id
      | .element =>
        let constant ← c.program.getConstant id
        if constant.specialization || c.isWorkgroupSize id then return c.constantName id
      constantTextWithin fuel id
    let constant ← c.program.getConstant id
    let type ← c.program.getType constant.type
    match constant.value with
    | .bool value => return if value then "true" else "false"
    | .scalar bits => Literal.ofScalar type.base bits
    | .null => c.nullText constant.type
    | .composite parts =>
      let style := if type.isArray then PartStyle.element else .reference
      c.compositeText constant.type type (← parts.mapM (part style))
    | .operation op words => c.operationText (part .reference) constant.type op words

def constantText (id : Id) : Except Fault String := c.constantTextWithin c.program.depth id

def constantReference (id : Id) : Except Fault String :=
  if c.isNamedConstant id then .ok (c.constantName id) else c.constantText id

def textOf (id : Id) : Except Fault String :=
  match c.pass.expressions.find? id with
  | some text => .ok text
  | none =>
    match c.program.record? id with
    | some (.constant _) => c.constantReference id
    | some (.variable _) => .ok (c.nameOf id)
    | some (.undefined _) => .ok (c.program.plainName id)
    | _ => .ok s!"_{id}"

end Compiler

end SpirvMetal
