import SpirvMetal.Spirv.Operand

/-!
A module after reading: its instructions sorted into sections, functions into blocks.
-/

namespace SpirvMetal.Spirv

structure Instruction where
  op : Op
  resultType : Option Id := none
  resultId : Option Id := none
  operands : List Operand := []

namespace Instruction

def words (inst : Instruction) : List Nat :=
  inst.resultType.toList ++ inst.resultId.toList ++ inst.operands.flatMap Operand.words

def references (inst : Instruction) : List Id := inst.operands.filterMap Operand.reference?

end Instruction

structure Block where
  label : Option Instruction := none
  instructions : List Instruction := []

structure Function where
  definition : Option Instruction := none
  parameters : List Instruction := []
  blocks : List Block := []

structure Module where
  bound : Option Nat := none
  imports : List Instruction := []
  entryPoints : List Instruction := []
  executionModes : List Instruction := []
  names : List Instruction := []
  annotations : List Instruction := []
  globals : List Instruction := []
  functions : List Function := []
  /-- Capabilities, sources and the like: only their result ids count. -/
  others : List Instruction := []

def Function.allInstructions (function : Function) : List Instruction :=
  function.definition.toList ++ function.parameters ++
    function.blocks.flatMap fun block => block.label.toList ++ block.instructions

namespace Module

def allInstructions (m : Module) : List Instruction :=
  m.others ++ m.imports ++ m.entryPoints ++ m.executionModes ++ m.names ++ m.annotations ++
    m.globals ++ m.functions.flatMap Function.allInstructions

def leastBound (m : Module) : Nat :=
  match (m.allInstructions.filterMap (·.resultId)).max? with
  | some highest => highest + 1
  | none => 1

end Module

end SpirvMetal.Spirv
