import SpirvMetal.Metal.Instruction.AccessChain
import SpirvMetal.Metal.Instruction.Arithmetic
import SpirvMetal.Metal.Instruction.Call
import SpirvMetal.Metal.Instruction.Composite
import SpirvMetal.Metal.Instruction.Extended
import SpirvMetal.Metal.Instruction.Image
import SpirvMetal.Metal.Instruction.Memory
import SpirvMetal.Metal.Instruction.Synchronization

/-!
One instruction as text.
-/

namespace SpirvMetal.Emit

open Spirv (Op)

def value (inst : Instruction) : Emit Unit := do
  need inst 3
  match inst.op with
  | .compositeConstruct => compositeConstruct inst
  | .compositeExtract => compositeExtract inst
  | .compositeInsert => compositeInsert inst
  | .vectorShuffle => vectorShuffle inst
  | .vectorExtractDynamic => vectorExtract inst
  | .vectorInsertDynamic => vectorInsert inst
  | _ =>
    let type ← word inst 0
    let result ← word inst 1
    define type result (← arithmetic inst)

def copyObject (inst : Instruction) : Emit Unit := do
  need inst 3
  let source ← word inst 2
  forward (← word inst 1) source (← text source)

def lower (inst : Instruction) : Emit Unit :=
  match inst.op with
  | .nop | .phi | .selectionMerge | .loopMerge | .line | .noLine => return ()
  | .load => load inst
  | .store => store inst
  | .copyMemory => copyMemory inst
  | .accessChain | .inBoundsAccessChain => accessChain inst false
  | .ptrAccessChain => accessChain inst true
  | .copyObject => copyObject inst
  | .functionCall => functionCall inst
  | .extInst => extended inst
  | .controlBarrier => controlBarrier inst
  | .memoryBarrier => memoryBarrier inst
  | op => if op.isAtomic then atomic inst else if op.isImage then image inst else value inst

def instruction (inst : Instruction) : Emit Unit := do
  lower inst
  modifyPass fun pass => { pass with previousOp := some inst.op }

end SpirvMetal.Emit
