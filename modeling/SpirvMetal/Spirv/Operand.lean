import SpirvMetal.Store.Arena
import SpirvMetal.Spirv.Enumerant
import SpirvMetal.Spirv.Capability
import SpirvMetal.Spirv.Decoration
import SpirvMetal.Spirv.BuiltIn
import SpirvMetal.Spirv.ExecutionMode
import SpirvMetal.Spirv.Op
import SpirvMetal.Text.Quoted

/-!
Operands as the reader understands them, and the text that names one in a diagnostic.
-/

namespace SpirvMetal.Spirv

inductive MaskKind
  | imageOperands | memoryAccess | selectionControl | loopControl | functionControl
  | memorySemantics | fpFastMathMode
deriving DecidableEq

inductive CheckedKind
  | capability | sourceLanguage | addressingModel | memoryModel | samplerAddressingMode
  | samplerFilterMode | functionParameterAttribute | fpRoundingMode | linkageType | fpDenormMode
  | fpOperationMode | initializationModeQualifier | hostAccessQualifier | loadCacheControl
  | storeCacheControl
deriving DecidableEq

inductive Operand
  | idRef (id : Id)
  | scopeId (id : Id)
  | semanticsId (id : Id)
  | literal (word : Nat)
  | wideLiteral (value : Nat)
  | extInst (number : Nat)
  | specOp (op : Op)
  | text (value : String)
  | mask (kind : MaskKind) (bits : Nat)
  | storageClass (value : StorageClass)
  | dim (value : Dim)
  | decoration (value : Decoration)
  | builtIn (value : BuiltIn)
  | scope (value : Scope)
  | executionModel (value : ExecutionModel)
  | executionMode (value : ExecutionMode)
  | imageFormat (value : ImageFormat)
  | accessQualifier (value : AccessQualifier)
  | checked (kind : CheckedKind) (code : Nat)
deriving DecidableEq

namespace MaskKind

def name : MaskKind → String
  | .imageOperands => "ImageOperands"
  | .memoryAccess => "MemoryAccess"
  | .selectionControl => "SelectionControl"
  | .loopControl => "LoopControl"
  | .functionControl => "FunctionControl"
  | .memorySemantics => "MemorySemantics"
  | .fpFastMathMode => "FPFastMathMode"

def flags : MaskKind → List (Nat × String)
  | .imageOperands => [
    (0x1, "BIAS"), (0x2, "LOD"), (0x4, "GRAD"), (0x8, "CONST_OFFSET"), (0x10, "OFFSET"),
    (0x20, "CONST_OFFSETS"), (0x40, "SAMPLE"), (0x80, "MIN_LOD"), (0x100, "MAKE_TEXEL_AVAILABLE"),
    (0x200, "MAKE_TEXEL_VISIBLE"), (0x400, "NON_PRIVATE_TEXEL"), (0x800, "VOLATILE_TEXEL"),
    (0x1000, "SIGN_EXTEND"), (0x2000, "ZERO_EXTEND"), (0x4000, "NONTEMPORAL"), (0x10000, "OFFSETS")]
  | .memoryAccess => [
    (0x1, "VOLATILE"), (0x2, "ALIGNED"), (0x4, "NONTEMPORAL"), (0x8, "MAKE_POINTER_AVAILABLE"),
    (0x10, "MAKE_POINTER_VISIBLE"), (0x20, "NON_PRIVATE_POINTER"),
    (0x10000, "ALIAS_SCOPE_INTEL_MASK"), (0x20000, "NO_ALIAS_INTEL_MASK")]
  | .selectionControl => [(0x1, "FLATTEN"), (0x2, "DONT_FLATTEN")]
  | .loopControl => [
    (0x1, "UNROLL"), (0x2, "DONT_UNROLL"), (0x4, "DEPENDENCY_INFINITE"),
    (0x8, "DEPENDENCY_LENGTH"), (0x10, "MIN_ITERATIONS"), (0x20, "MAX_ITERATIONS"),
    (0x40, "ITERATION_MULTIPLE"), (0x80, "PEEL_COUNT"), (0x100, "PARTIAL_COUNT"),
    (0x10000, "INITIATION_INTERVAL_INTEL"), (0x20000, "MAX_CONCURRENCY_INTEL"),
    (0x40000, "DEPENDENCY_ARRAY_INTEL"), (0x80000, "PIPELINE_ENABLE_INTEL"),
    (0x100000, "LOOP_COALESCE_INTEL"), (0x200000, "MAX_INTERLEAVING_INTEL"),
    (0x400000, "SPECULATED_ITERATIONS_INTEL"), (0x800000, "NO_FUSION_INTEL"),
    (0x1000000, "LOOP_COUNT_INTEL"), (0x2000000, "MAX_REINVOCATION_DELAY_INTEL")]
  | .functionControl => [
    (0x1, "INLINE"), (0x2, "DONT_INLINE"), (0x4, "PURE"), (0x8, "CONST"),
    (0x10000, "OPT_NONE_INTEL")]
  | .memorySemantics => [
    (0x2, "ACQUIRE"), (0x4, "RELEASE"), (0x8, "ACQUIRE_RELEASE"),
    (0x10, "SEQUENTIALLY_CONSISTENT"), (0x40, "UNIFORM_MEMORY"), (0x80, "SUBGROUP_MEMORY"),
    (0x100, "WORKGROUP_MEMORY"), (0x200, "CROSS_WORKGROUP_MEMORY"),
    (0x400, "ATOMIC_COUNTER_MEMORY"), (0x800, "IMAGE_MEMORY"), (0x1000, "OUTPUT_MEMORY"),
    (0x2000, "MAKE_AVAILABLE"), (0x4000, "MAKE_VISIBLE"), (0x8000, "VOLATILE")]
  | .fpFastMathMode => [
    (0x1, "NOT_NAN"), (0x2, "NOT_INF"), (0x4, "NSZ"), (0x8, "ALLOW_RECIP"), (0x10, "FAST"),
    (0x10000, "ALLOW_CONTRACT_FAST_INTEL"), (0x20000, "ALLOW_REASSOC_INTEL")]

def validBits (kind : MaskKind) : Nat := kind.flags.foldl (fun bits flag => bits ||| flag.1) 0

def accepts (kind : MaskKind) (bits : Nat) : Bool := bits &&& kind.validBits == bits

def describe (kind : MaskKind) (bits : Nat) : String :=
  let set := kind.flags.filter fun flag => bits &&& flag.1 ≠ 0
  if set.isEmpty then "0x0" else " | ".intercalate (set.map (·.2))

end MaskKind

namespace CheckedKind

def name : CheckedKind → String
  | .capability => "Capability"
  | .sourceLanguage => "SourceLanguage"
  | .addressingModel => "AddressingModel"
  | .memoryModel => "MemoryModel"
  | .samplerAddressingMode => "SamplerAddressingMode"
  | .samplerFilterMode => "SamplerFilterMode"
  | .functionParameterAttribute => "FunctionParameterAttribute"
  | .fpRoundingMode => "FPRoundingMode"
  | .linkageType => "LinkageType"
  | .fpDenormMode => "FPDenormMode"
  | .fpOperationMode => "FPOperationMode"
  | .initializationModeQualifier => "InitializationModeQualifier"
  | .hostAccessQualifier => "HostAccessQualifier"
  | .loadCacheControl => "LoadCacheControl"
  | .storeCacheControl => "StoreCacheControl"

def ranges : CheckedKind → List (Nat × Nat)
  | .capability => Capability.known.map fun (code, _) => (code, code)
  | .sourceLanguage => [(0, 11)]
  | .addressingModel => [(0, 2), (5348, 5348)]
  | .memoryModel => [(0, 3)]
  | .samplerAddressingMode => [(0, 4)]
  | .samplerFilterMode => [(0, 1)]
  | .functionParameterAttribute => [(0, 7), (5940, 5940)]
  | .fpRoundingMode => [(0, 3)]
  | .linkageType => [(0, 2)]
  | .fpDenormMode => [(0, 1)]
  | .fpOperationMode => [(0, 1)]
  | .initializationModeQualifier => [(0, 1)]
  | .hostAccessQualifier => [(0, 3)]
  | .loadCacheControl => [(0, 4)]
  | .storeCacheControl => [(0, 3)]

def accepts (kind : CheckedKind) (code : Nat) : Bool :=
  kind.ranges.any fun range => range.1 ≤ code && code ≤ range.2

def describe : CheckedKind → Nat → String
  | .capability, code => (Capability.name? code).getD (toString code)
  | _, code => toString code

end CheckedKind

namespace Operand

def describe : Operand → String
  | .idRef id => s!"IdRef({id})"
  | .scopeId id => s!"IdScope({id})"
  | .semanticsId id => s!"IdMemorySemantics({id})"
  | .literal word => s!"LiteralBit32({word})"
  | .wideLiteral value => s!"LiteralBit64({value})"
  | .extInst number => s!"LiteralExtInstInteger({number})"
  | .specOp op => s!"LiteralSpecConstantOpInteger({op.name})"
  | .text value => s!"LiteralString({Text.quoted value})"
  | .mask kind bits => s!"{kind.name}({kind.name}({kind.describe bits}))"
  | .storageClass value => s!"StorageClass({value.name})"
  | .dim value => s!"Dim({value.name})"
  | .decoration value => s!"Decoration({value.name})"
  | .builtIn value => s!"BuiltIn({value.name})"
  | .scope value => s!"Scope({value.name})"
  | .executionModel value => s!"ExecutionModel({value.name})"
  | .executionMode value => s!"ExecutionMode({value.name})"
  | .imageFormat value => s!"ImageFormat({value.name})"
  | .accessQualifier value => s!"AccessQualifier({value.name})"
  | .checked kind code => s!"{kind.name}({kind.describe code})"

def describe? : Option Operand → String
  | none => "None"
  | some operand => s!"Some({operand.describe})"

def words : Operand → List Nat
  | .idRef word | .scopeId word | .semanticsId word | .literal word | .extInst word => [word]
  | .wideLiteral value => [value % 4294967296, value / 4294967296]
  | .specOp op => [op.code]
  | .mask .fpFastMathMode _ => []
  | .mask _ bits => [bits]
  | .storageClass value => [value.code]
  | .dim value => [value.code]
  | .decoration value => [value.code]
  | .builtIn value => [value.code]
  | .scope value => [value.code]
  | .executionModel value => [value.code]
  | .executionMode value => [value.code]
  | .imageFormat value => [value.code]
  | .accessQualifier value => [value.code]
  | .text _ | .checked _ _ => []

def reference? : Operand → Option Id
  | .idRef id | .scopeId id | .semanticsId id => some id
  | _ => none

end Operand

end SpirvMetal.Spirv
