import SpirvMetal.Spirv.Module

/-!
The operands that each opcode takes, as data: kinds of operands, how often each may occur, and the
arguments that decorations, execution modes and mask bits bring with them.
-/

namespace SpirvMetal.Spirv

inductive Kind
  | idRef | scopeId | semanticsId | literal | extInst | text
  | typedNumber
  | switchCase
  | phiPair
  | specOp
  | mask (kind : MaskKind)
  | storageClass | dim | imageFormat | accessQualifier | decoration | builtIn | executionModel
  | executionMode
  | checked (kind : CheckedKind)
deriving DecidableEq

inductive Slot
  | one (kind : Kind)
  | optional (kind : Kind)
  | many (kind : Kind)

def Slot.kind : Slot → Kind
  | .one kind | .optional kind | .many kind => kind

structure Signature where
  hasType : Bool
  hasResult : Bool
  slots : List Slot

namespace Signature

def value (slots : List Slot) : Signature := ⟨true, true, slots⟩

def result (slots : List Slot) : Signature := ⟨false, true, slots⟩

def plain (slots : List Slot) : Signature := ⟨false, false, slots⟩

def ids (count : Nat) : List Slot := List.replicate count (.one .idRef)

end Signature

open Signature in
def Op.signature : Op → Signature
  | .nop | .functionEnd | .endPrimitive | .kill | .ret | .unreachable | .noLine
  | .terminateInvocation | .ignoreIntersectionKHR | .demoteToHelperInvocation => plain []
  | .undef | .constantTrue | .constantFalse | .constantNull | .specConstantTrue
  | .specConstantFalse | .functionParameter => value []
  | .source =>
    plain [.one (.checked .sourceLanguage), .one .literal, .optional .idRef, .optional .text]
  | .sourceExtension | .extension | .moduleProcessed => plain [.one .text]
  | .debugName => plain [.one .idRef, .one .text]
  | .memberName => plain [.one .idRef, .one .literal, .one .text]
  | .string | .extInstImport | .typeOpaque => result [.one .text]
  | .line => plain [.one .idRef, .one .literal, .one .literal]
  | .extInst => value [.one .idRef, .one .extInst, .many .idRef]
  | .memoryModel => plain [.one (.checked .addressingModel), .one (.checked .memoryModel)]
  | .entryPoint => plain [.one .executionModel, .one .idRef, .one .text, .many .idRef]
  | .executionMode => plain [.one .idRef, .one .executionMode]
  | .capability => plain [.one (.checked .capability)]
  | .typeVoid | .typeBool | .typeSampler | .typeEvent | .decorationGroup | .label => result []
  | .typeInt => result [.one .literal, .one .literal]
  | .typeFloat => result [.one .literal]
  | .typeVector | .typeMatrix => result [.one .idRef, .one .literal]
  | .typeImage =>
    result [.one .idRef, .one .dim, .one .literal, .one .literal, .one .literal, .one .literal,
      .one .imageFormat, .optional .accessQualifier]
  | .typeSampledImage | .typeRuntimeArray => result (ids 1)
  | .typeArray => result (ids 2)
  | .typeStruct => result [.many .idRef]
  | .typePointer => result [.one .storageClass, .one .idRef]
  | .typeFunction => result [.one .idRef, .many .idRef]
  | .constant | .specConstant => value [.one .typedNumber]
  | .constantComposite | .specConstantComposite | .compositeConstruct => value [.many .idRef]
  | .constantSampler =>
    value [.one (.checked .samplerAddressingMode), .one .literal,
      .one (.checked .samplerFilterMode)]
  | .specConstantOp => value [.one .specOp]
  | .function => value [.one (.mask .functionControl), .one .idRef]
  | .functionCall | .accessChain | .inBoundsAccessChain => value [.one .idRef, .many .idRef]
  | .varDecl => value [.one .storageClass, .optional .idRef]
  | .imageTexelPointer | .vectorInsertDynamic | .select | .bitFieldSExtract | .bitFieldUExtract =>
    value (ids 3)
  | .load => value [.one .idRef, .optional (.mask .memoryAccess)]
  | .store => plain (ids 2 ++ [.optional (.mask .memoryAccess)])
  | .copyMemory =>
    plain (ids 2 ++ [.optional (.mask .memoryAccess), .optional (.mask .memoryAccess)])
  | .copyMemorySized =>
    plain (ids 3 ++ [.optional (.mask .memoryAccess), .optional (.mask .memoryAccess)])
  | .ptrAccessChain => value (ids 2 ++ [.many .idRef])
  | .arrayLength => value [.one .idRef, .one .literal]
  | .decorate => plain [.one .idRef, .one .decoration]
  | .memberDecorate => plain [.one .idRef, .one .literal, .one .decoration]
  | .groupDecorate => plain [.one .idRef, .many .idRef]
  | .vectorExtractDynamic | .sampledImage | .imageQuerySizeLod | .imageQueryLod | .iAdd | .fAdd
  | .iSub | .fSub | .iMul | .fMul | .uDiv | .sDiv | .fDiv | .uMod | .sRem | .sMod | .fRem | .fMod
  | .vectorTimesScalar | .matrixTimesScalar | .vectorTimesMatrix | .matrixTimesVector
  | .matrixTimesMatrix | .outerProduct | .dot | .iAddCarry | .uMulExtended | .ordered
  | .unordered | .logicalEqual | .logicalNotEqual | .logicalOr | .logicalAnd | .iEqual
  | .iNotEqual | .uGreaterThan | .sGreaterThan | .uGreaterThanEqual | .sGreaterThanEqual
  | .uLessThan | .sLessThan | .uLessThanEqual | .sLessThanEqual | .fOrdEqual | .fUnordEqual
  | .fOrdNotEqual | .fUnordNotEqual | .fOrdLessThan | .fUnordLessThan | .fOrdGreaterThan
  | .fUnordGreaterThan | .fOrdLessThanEqual | .fUnordLessThanEqual | .fOrdGreaterThanEqual
  | .fUnordGreaterThanEqual | .shiftRightLogical | .shiftRightArithmetic | .shiftLeftLogical
  | .bitwiseOr | .bitwiseXor | .bitwiseAnd | .ptrEqual => value (ids 2)
  | .vectorShuffle | .compositeInsert => value (ids 2 ++ [.many .literal])
  | .compositeExtract => value [.one .idRef, .many .literal]
  | .copyObject | .transpose | .image | .imageQueryFormat | .imageQuerySize | .imageQueryLevels
  | .imageQuerySamples | .convertFToU | .convertFToS | .convertSToF | .convertUToF | .uConvert
  | .sConvert | .fConvert | .quantizeToF16 | .satConvertSToU | .bitcast | .sNegate | .fNegate
  | .anyOf | .allOf | .isNan | .isInf | .isFinite | .isNormal | .signBitSet | .logicalNot | .not
  | .bitReverse | .bitCount | .dPdx | .dPdy | .fwidth | .dPdxFine | .dPdyFine | .fwidthFine
  | .dPdxCoarse | .dPdyCoarse | .fwidthCoarse | .sizeOf | .subgroupBallotKHR => value (ids 1)
  | .imageSampleImplicitLod | .imageSampleProjImplicitLod | .imageFetch | .imageRead =>
    value (ids 2 ++ [.optional (.mask .imageOperands)])
  | .imageSampleExplicitLod | .imageSampleProjExplicitLod =>
    value (ids 2 ++ [.one (.mask .imageOperands)])
  | .imageSampleDrefImplicitLod | .imageSampleProjDrefImplicitLod | .imageGather
  | .imageDrefGather => value (ids 3 ++ [.optional (.mask .imageOperands)])
  | .imageSampleDrefExplicitLod | .imageSampleProjDrefExplicitLod =>
    value (ids 3 ++ [.one (.mask .imageOperands)])
  | .imageWrite => plain (ids 3 ++ [.optional (.mask .imageOperands)])
  | .bitFieldInsert => value (ids 4)
  | .controlBarrier => plain [.one .scopeId, .one .scopeId, .one .semanticsId]
  | .memoryBarrier => plain [.one .scopeId, .one .semanticsId]
  | .atomicLoad | .atomicIIncrement | .atomicIDecrement =>
    value [.one .idRef, .one .scopeId, .one .semanticsId]
  | .atomicStore => plain [.one .idRef, .one .scopeId, .one .semanticsId, .one .idRef]
  | .atomicExchange | .atomicIAdd | .atomicISub | .atomicSMin | .atomicUMin | .atomicSMax
  | .atomicUMax | .atomicAnd | .atomicOr | .atomicXor | .atomicFAddEXT =>
    value [.one .idRef, .one .scopeId, .one .semanticsId, .one .idRef]
  | .atomicCompareExchange | .atomicCompareExchangeWeak =>
    value [.one .idRef, .one .scopeId, .one .semanticsId, .one .semanticsId, .one .idRef,
      .one .idRef]
  | .phi => value [.many .phiPair]
  | .loopMerge => plain (ids 2 ++ [.one (.mask .loopControl)])
  | .selectionMerge => plain [.one .idRef, .one (.mask .selectionControl)]
  | .branch | .returnValue => plain (ids 1)
  | .branchConditional => plain (ids 3 ++ [.many .literal])
  | .switch => plain (ids 2 ++ [.many .switchCase])
  | .groupAll => value [.one .scopeId, .one .idRef]
  | .groupNonUniformElect => value [.one .scopeId]

def Decoration.arguments : Decoration → List Kind
  | .specId | .arrayStride | .matrixStride | .stream | .location | .component | .index | .binding
  | .descriptorSet | .offset | .xfbBuffer | .xfbStride | .inputAttachmentIndex | .alignment
  | .maxByteOffset | .secondaryViewportRelativeNV | .simtCallINTEL | .funcParamIOKindINTEL
  | .globalVariableOffsetINTEL | .numbanksINTEL | .bankwidthINTEL | .maxPrivateCopiesINTEL
  | .maxReplicatesINTEL | .bankBitsINTEL | .forcePow2DepthINTEL | .cacheSizeINTEL
  | .prefetchINTEL | .initiationIntervalINTEL | .maxConcurrencyINTEL | .pipelineEnableINTEL
  | .bufferLocationINTEL | .ioPipeStorageINTEL | .implementInRegisterMapINTEL
  | .fpMaxErrorDecorationINTEL | .latencyControlLabelINTEL | .mmHostInterfaceAddressWidthINTEL
  | .mmHostInterfaceDataWidthINTEL | .mmHostInterfaceLatencyINTEL | .mmHostInterfaceMaxBurstINTEL
  | .mmHostInterfaceWaitRequestINTEL => [.literal]
  | .builtIn => [.builtIn]
  | .uniformId => [.scopeId]
  | .funcParamAttr => [.checked .functionParameterAttribute]
  | .fpRoundingMode => [.checked .fpRoundingMode]
  | .fpFastMathMode => [.mask .fpFastMathMode]
  | .linkageAttributes => [.text, .checked .linkageType]
  | .alignmentId | .maxByteOffsetId | .nodeSharesPayloadLimitsWithAMDX | .nodeMaxPayloadsAMDX
  | .counterBuffer | .aliasScopeINTEL | .noAliasINTEL => [.idRef]
  | .payloadNodeNameAMDX | .clobberINTEL | .userSemantic | .userTypeGOOGLE | .memoryINTEL => [.text]
  | .functionRoundingModeINTEL => [.literal, .checked .fpRoundingMode]
  | .functionDenormModeINTEL => [.literal, .checked .fpDenormMode]
  | .mergeINTEL => [.text, .text]
  | .mathOpDSPModeINTEL => [.literal, .literal]
  | .functionFloatingPointModeINTEL => [.literal, .checked .fpOperationMode]
  | .initModeINTEL => [.checked .initializationModeQualifier]
  | .hostAccessINTEL => [.checked .hostAccessQualifier, .text]
  | .latencyControlConstraintINTEL => [.literal, .literal, .literal]
  | .mmHostInterfaceReadWriteModeINTEL => [.accessQualifier]
  | .cacheControlLoadINTEL => [.literal, .checked .loadCacheControl]
  | .cacheControlStoreINTEL => [.literal, .checked .storeCacheControl]
  | _ => []

def ExecutionMode.arguments : ExecutionMode → List Kind
  | .invocations | .outputVertices | .vecTypeHint | .subgroupSize | .subgroupsPerWorkgroup
  | .denormPreserve | .denormFlushToZero | .signedZeroInfNanPreserve | .roundingModeRTE
  | .roundingModeRTZ | .outputPrimitivesNV | .sharedLocalMemorySizeINTEL | .roundingModeRTPINTEL
  | .roundingModeRTNINTEL | .floatingPointModeALTINTEL | .floatingPointModeIEEEINTEL
  | .maxWorkDimINTEL | .numSIMDWorkitemsINTEL | .schedulerTargetFmaxMhzINTEL
  | .streamingInterfaceINTEL | .registerMapInterfaceINTEL | .namedBarrierCountINTEL => [.literal]
  | .localSize | .localSizeHint | .maxWorkgroupSizeINTEL => [.literal, .literal, .literal]
  | .subgroupsPerWorkgroupId | .maxNodeRecursionAMDX | .shaderIndexAMDX => [.idRef]
  | .localSizeId | .localSizeHintId | .staticNumWorkgroupsAMDX | .maxNumWorkgroupsAMDX =>
    [.idRef, .idRef, .idRef]
  | _ => []

def MaskKind.arguments : MaskKind → List (Nat × List Kind)
  | .imageOperands => [
    (0x1, [.idRef]), (0x2, [.idRef]), (0x4, [.idRef, .idRef]), (0x8, [.idRef]), (0x10, [.idRef]),
    (0x20, [.idRef]), (0x40, [.idRef]), (0x80, [.idRef]), (0x100, [.scopeId]), (0x200, [.scopeId]),
    (0x10000, [.idRef])]
  | .memoryAccess => [
    (0x2, [.literal]), (0x8, [.scopeId]), (0x10, [.scopeId]), (0x10000, [.idRef]),
    (0x20000, [.idRef])]
  | .loopControl =>
    [0x8, 0x10, 0x20, 0x40, 0x80, 0x100, 0x10000, 0x20000, 0x40000, 0x80000, 0x100000, 0x200000,
      0x400000, 0x1000000, 0x2000000].map fun bit => (bit, [.literal])
  | .selectionControl | .functionControl | .memorySemantics | .fpFastMathMode => []

end SpirvMetal.Spirv
