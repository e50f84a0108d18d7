import SpirvMetal.Metal.Instruction.Value

/-!
Barriers and atomic operations.
-/

namespace SpirvMetal

open Spirv (Op)

namespace Barrier

def memoryFlag (semantics : Nat) : String :=
  let has (bits : Nat) : Bool := semantics &&& bits ≠ 0
  if has 0x200 then "mem_device"
  else if has (0x80 ||| 0x100 ||| 0x400) then "mem_threadgroup"
  else if has 0x800 then "mem_texture"
  else "mem_none"

def invocationScope : Nat := 4

def scopeName : Nat → String
  | 0 | 1 => "memory_scope_device"
  | 3 | 4 => "memory_scope_simdgroup"
  | _ => "memory_scope_threadgroup"

end Barrier

namespace Emit

def barrier (executionScope : Option Id) (memoryScope semantics : Id) : Emit Unit := do
  let c ← get
  if c.plan.model = .glCompute || c.plan.model = .kernel then
    let flag := Barrier.memoryFlag (← c.program.constantWord semantics)
    if c.options.isIos && c.options.supports 2 0 then
      let execution ←
        match executionScope with
        | some id => c.program.constantWord id
        | none => pure Barrier.invocationScope
      let scope := Barrier.scopeName (min execution (← c.program.constantWord memoryScope))
      statement s!"threadgroup_barrier(mem_flags::{flag}, {scope});"
    else statement s!"threadgroup_barrier(mem_flags::{flag});"

def controlBarrier (inst : Instruction) : Emit Unit := do
  need inst 3
  if (← get).pass.previousOp ≠ some .memoryBarrier then
    barrier (some (← word inst 0)) (← word inst 1) (← word inst 2)

def memoryBarrier (inst : Instruction) : Emit Unit := do
  need inst 2
  barrier none (← word inst 0) (← word inst 1)

end Emit

namespace Atomic

def function? : Op → Option String
  | .atomicExchange => some "atomic_exchange_explicit"
  | .atomicIAdd => some "atomic_fetch_add_explicit"
  | .atomicISub => some "atomic_fetch_sub_explicit"
  | .atomicSMin | .atomicUMin => some "atomic_fetch_min_explicit"
  | .atomicSMax | .atomicUMax => some "atomic_fetch_max_explicit"
  | .atomicAnd => some "atomic_fetch_and_explicit"
  | .atomicOr => some "atomic_fetch_or_explicit"
  | .atomicXor => some "atomic_fetch_xor_explicit"
  | _ => none

def order : String := "memory_order_relaxed"

def call (name target : String) (values : List String) : String :=
  applied name ([target] ++ values ++ [order])

end Atomic

namespace Emit

def atomicTarget (pointer : Id) : Emit String := do
  let c ← get
  let space ← c.pointerSpace pointer
  match c.program.typeOf? pointer with
  | none => fail (.internal (.atomicPointerWithoutType pointer))
  | some type =>
    let name ← TypeName.numeric (← c.program.pointee type).2.base 1 1
    return s!"(volatile {space.text} atomic_{name}*)&{enclose (← c.textOf pointer)}"

/-- The exchange may fail for no reason, so it is repeated while the value seen is the expected
one. -/
def compareExchange (inst : Instruction) (target : String) : Emit Unit := do
  need inst 8
  let value ← text (← word inst 6)
  let expected ← text (← word inst 7)
  let name ← declare (← word inst 0) (← word inst 1)
  statement "do"
  beginScope
  statement s!"{name} = {expected};"
  let attempt :=
    s!"atomic_compare_exchange_weak_explicit({target}, &{name}, {value}, " ++
      s!"{Atomic.order}, {Atomic.order})"
  endScopeWith ("\x7d" ++ s!" while (!{attempt} && {name} == {expected});")

def atomic (inst : Instruction) : Emit Unit := do
  if inst.op = .atomicCompareExchangeWeak then fail (.unsupported .compareExchangeWeak)
  match inst.atomicPointer? with
  | none => fail (.internal (.atomicWithoutPointer inst.op))
  | some pointer =>
    let target ← atomicTarget pointer
    let defineCall (name : String) (values : List String) : Emit Unit := do
      define (← word inst 0) (← word inst 1) (Atomic.call name target values)
    match inst.op with
    | .atomicStore =>
      need inst 4
      let value ← text (← word inst 3)
      statement (Atomic.call "atomic_store_explicit" target [value] ++ ";")
    | .atomicLoad => defineCall "atomic_load_explicit" []
    | .atomicIIncrement => defineCall "atomic_fetch_add_explicit" ["1"]
    | .atomicIDecrement => defineCall "atomic_fetch_sub_explicit" ["1"]
    | .atomicCompareExchange => compareExchange inst target
    | op =>
      need inst 6
      match Atomic.function? op with
      | some name => defineCall name [← text (← word inst 5)]
      | none => fail (.unsupported (.atomic op))

end Emit

end SpirvMetal
