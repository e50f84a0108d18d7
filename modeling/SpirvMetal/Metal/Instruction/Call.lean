import SpirvMetal.Metal.Instruction.Value

/-!
Calls. The arguments follow the parameters of the callee one by one: own parameters take the
operands of the call, threaded ones the global that they stand for.
-/

namespace SpirvMetal

namespace Compiler

variable (c : Compiler)

inductive Argument
  | value (id : Id)
  | builtin (text : String)

def argumentFor (function : Id) (arguments : List Id) (index : Nat) (parameter : Parameter) :
    Except Fault Argument := do
  if !parameter.threaded then
    match arguments[index]? with
    | some id => return .value id
    | none => .error (.internal (.tooFewArguments function))
  else
    match (← c.program.getVariable parameter.id).base with
    | some global => return .value global
    | none =>
      match c.program.builtin? parameter.id with
      | none => .error (.internal (.aliasesNothing parameter.id))
      | some builtin =>
        let storage := (← c.program.getType parameter.type).storage
        return .builtin (← c.builtinText builtin storage)

def argumentTexts (parameter : Parameter) : Argument → Except Fault (List String)
  | .builtin text => .ok [text]
  | .value id => do
    let text ← c.textOf id
    let (_, type) ← c.program.pointee parameter.type
    let sampler ← if needsSampler type then pure [← c.samplerText id] else pure []
    let swizzle ←
      if ← c.needsSwizzle parameter.type then pure [← c.swizzleText id] else pure []
    return [text] ++ sampler ++ swizzle

end Compiler

namespace Emit

def functionCall (inst : Instruction) : Emit Unit := do
  need inst 3
  let typeId ← word inst 0
  let result ← word inst 1
  let function ← word inst 2
  let c ← get
  let parameters := (← c.program.getFunction function).parameters
  let texts ← parameters.zipIdx.mapM fun (parameter, index) => do
    c.argumentTexts parameter (← c.argumentFor function (inst.words.drop 3) index parameter)
  let call := applied (c.program.plainName function) texts.flatten
  if (← getType typeId).base = .void then statement s!"{call};"
  else define typeId result call

end Emit

end SpirvMetal
