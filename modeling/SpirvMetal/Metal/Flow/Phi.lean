import SpirvMetal.Error
import SpirvMetal.Program.Record

/-!
Phis: the value of each depends on the block that control came from.
-/

namespace SpirvMetal

def pairs {α : Type} : List α → List (α × α)
  | a :: b :: rest => (a, b) :: pairs rest
  | _ => []

structure Phi where
  result : Id
  sources : List (Id × Id)

namespace Phi

def ofInstruction (inst : Instruction) : Except Fault Phi :=
  match inst.words with
  | _ :: result :: operands => .ok { result, sources := pairs operands }
  | _ => .error .aborted

def valuesFrom (phi : Phi) (predecessor : Id) : List Id :=
  (phi.sources.filter (·.2 = predecessor)).map (·.1)

end Phi

def Block.phis (block : Block) : Except Fault (List Phi) :=
  (block.body.filter (·.op = .phi)).mapM Phi.ofInstruction

def Block.movesFrom (block : Block) (predecessor : Id) : Except Fault (List (Id × Id)) := do
  return (← block.phis).flatMap fun phi => (phi.valuesFrom predecessor).map (phi.result, ·)

end SpirvMetal
