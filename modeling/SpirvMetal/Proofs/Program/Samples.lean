import SpirvMetal.Spirv.Module

/-!
Parts of the modules that results are tried on: an entry point named `main`, decorations of members,
pointers, variables, and functions without parameters whose only block returns at its end.
-/

namespace SpirvMetal.Spirv

def Instruction.entry (model : ExecutionModel) (function : Id) (interface : List Id) :
    Instruction where
  op := .entryPoint
  operands := [.executionModel model, .idRef function, .text "main"] ++ interface.map .idRef

def Instruction.onMember (struct member : Nat) (decoration : Decoration) (arguments : List Nat) :
    Instruction where
  op := .memberDecorate
  operands := [.idRef struct, .literal member, .decoration decoration] ++ arguments.map .literal

def Instruction.pointer (id : Id) (storage : StorageClass) (target : Id) : Instruction :=
  ⟨.typePointer, none, some id, [.storageClass storage, .idRef target]⟩

def Instruction.variable (id type : Id) (storage : StorageClass) : Instruction :=
  ⟨.varDecl, some type, some id, [.storageClass storage]⟩

def Function.ofBody (returned id signature label : Id) (body : List Instruction) : Function where
  definition := some
    ⟨.function, some returned, some id, [.mask .functionControl 0, .idRef signature]⟩
  blocks := [{
    label := some ⟨.label, none, some label, []⟩
    instructions := body ++ [⟨.ret, none, none, []⟩] }]

end SpirvMetal.Spirv
