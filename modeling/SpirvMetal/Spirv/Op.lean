/-!
Opcodes of the instructions that the reader knows.
-/

namespace SpirvMetal.Spirv

inductive Op
  | nop | undef | source | sourceExtension | debugName | memberName | string | line | extension
  | extInstImport | extInst | memoryModel | entryPoint | executionMode | capability | typeVoid
  | typeBool | typeInt | typeFloat | typeVector | typeMatrix | typeImage | typeSampler
  | typeSampledImage | typeArray | typeRuntimeArray | typeStruct | typeOpaque | typePointer
  | typeFunction | typeEvent | constantTrue | constantFalse | constant | constantComposite
  | constantSampler | constantNull | specConstantTrue | specConstantFalse | specConstant
  | specConstantComposite | specConstantOp | function | functionParameter | functionEnd
  | functionCall | varDecl | imageTexelPointer | load | store | copyMemory | copyMemorySized
  | accessChain | inBoundsAccessChain | ptrAccessChain | arrayLength | decorate | memberDecorate
  | decorationGroup | groupDecorate | vectorExtractDynamic | vectorInsertDynamic | vectorShuffle
  | compositeConstruct | compositeExtract | compositeInsert | copyObject | transpose | sampledImage
  | imageSampleImplicitLod | imageSampleExplicitLod | imageSampleDrefImplicitLod
  | imageSampleDrefExplicitLod | imageSampleProjImplicitLod | imageSampleProjExplicitLod
  | imageSampleProjDrefImplicitLod | imageSampleProjDrefExplicitLod | imageFetch | imageGather
  | imageDrefGather | imageRead | imageWrite | image | imageQueryFormat | imageQuerySizeLod
  | imageQuerySize | imageQueryLod | imageQueryLevels | imageQuerySamples | convertFToU
  | convertFToS | convertSToF | convertUToF | uConvert | sConvert | fConvert | quantizeToF16
  | satConvertSToU | bitcast | sNegate | fNegate | iAdd | fAdd | iSub | fSub | iMul | fMul | uDiv
  | sDiv | fDiv | uMod | sRem | sMod | fRem | fMod | vectorTimesScalar | matrixTimesScalar
  | vectorTimesMatrix | matrixTimesVector | matrixTimesMatrix | outerProduct | dot | iAddCarry
  | uMulExtended | anyOf | allOf | isNan | isInf | isFinite | isNormal | signBitSet | ordered
  | unordered | logicalEqual | logicalNotEqual | logicalOr | logicalAnd | logicalNot | select
  | iEqual | iNotEqual | uGreaterThan | sGreaterThan | uGreaterThanEqual | sGreaterThanEqual
  | uLessThan | sLessThan | uLessThanEqual | sLessThanEqual | fOrdEqual | fUnordEqual
  | fOrdNotEqual | fUnordNotEqual | fOrdLessThan | fUnordLessThan | fOrdGreaterThan
  | fUnordGreaterThan | fOrdLessThanEqual | fUnordLessThanEqual | fOrdGreaterThanEqual
  | fUnordGreaterThanEqual | shiftRightLogical | shiftRightArithmetic | shiftLeftLogical
  | bitwiseOr | bitwiseXor | bitwiseAnd | not | bitFieldInsert | bitFieldSExtract
  | bitFieldUExtract | bitReverse | bitCount | dPdx | dPdy | fwidth | dPdxFine | dPdyFine
  | fwidthFine | dPdxCoarse | dPdyCoarse | fwidthCoarse | endPrimitive | controlBarrier
  | memoryBarrier | atomicLoad | atomicStore | atomicExchange | atomicCompareExchange
  | atomicCompareExchangeWeak | atomicIIncrement | atomicIDecrement | atomicIAdd | atomicISub
  | atomicSMin | atomicUMin | atomicSMax | atomicUMax | atomicAnd | atomicOr | atomicXor | phi
  | loopMerge | selectionMerge | label | branch | branchConditional | switch | kill | ret
  | returnValue | unreachable | groupAll | noLine | sizeOf | moduleProcessed | groupNonUniformElect
  | ptrEqual | terminateInvocation | subgroupBallotKHR | ignoreIntersectionKHR
  | demoteToHelperInvocation | atomicFAddEXT
deriving DecidableEq

namespace Op

/-- The number in the low half of an instruction's first word, and the name used in diagnostics. -/
def entry : Op → Nat × String
  | .nop => (0, "Nop") | .undef => (1, "Undef") | .source => (3, "Source")
  | .sourceExtension => (4, "SourceExtension") | .debugName => (5, "Name")
  | .memberName => (6, "MemberName") | .string => (7, "String") | .line => (8, "Line")
  | .extension => (10, "Extension") | .extInstImport => (11, "ExtInstImport")
  | .extInst => (12, "ExtInst") | .memoryModel => (14, "MemoryModel")
  | .entryPoint => (15, "EntryPoint") | .executionMode => (16, "ExecutionMode")
  | .capability => (17, "Capability") | .typeVoid => (19, "TypeVoid")
  | .typeBool => (20, "TypeBool") | .typeInt => (21, "TypeInt") | .typeFloat => (22, "TypeFloat")
  | .typeVector => (23, "TypeVector") | .typeMatrix => (24, "TypeMatrix")
  | .typeImage => (25, "TypeImage") | .typeSampler => (26, "TypeSampler")
  | .typeSampledImage => (27, "TypeSampledImage") | .typeArray => (28, "TypeArray")
  | .typeRuntimeArray => (29, "TypeRuntimeArray") | .typeStruct => (30, "TypeStruct")
  | .typeOpaque => (31, "TypeOpaque") | .typePointer => (32, "TypePointer")
  | .typeFunction => (33, "TypeFunction") | .typeEvent => (34, "TypeEvent")
  | .constantTrue => (41, "ConstantTrue") | .constantFalse => (42, "ConstantFalse")
  | .constant => (43, "Constant") | .constantComposite => (44, "ConstantComposite")
  | .constantSampler => (45, "ConstantSampler") | .constantNull => (46, "ConstantNull")
  | .specConstantTrue => (48, "SpecConstantTrue") | .specConstantFalse => (49, "SpecConstantFalse")
  | .specConstant => (50, "SpecConstant") | .specConstantComposite => (51, "SpecConstantComposite")
  | .specConstantOp => (52, "SpecConstantOp") | .function => (54, "Function")
  | .functionParameter => (55, "FunctionParameter") | .functionEnd => (56, "FunctionEnd")
  | .functionCall => (57, "FunctionCall") | .varDecl => (59, "Variable")
  | .imageTexelPointer => (60, "ImageTexelPointer") | .load => (61, "Load")
  | .store => (62, "Store") | .copyMemory => (63, "CopyMemory")
  | .copyMemorySized => (64, "CopyMemorySized") | .accessChain => (65, "AccessChain")
  | .inBoundsAccessChain => (66, "InBoundsAccessChain") | .ptrAccessChain => (67, "PtrAccessChain")
  | .arrayLength => (68, "ArrayLength") | .decorate => (71, "Decorate")
  | .memberDecorate => (72, "MemberDecorate") | .decorationGroup => (73, "DecorationGroup")
  | .groupDecorate => (74, "GroupDecorate") | .vectorExtractDynamic => (77, "VectorExtractDynamic")
  | .vectorInsertDynamic => (78, "VectorInsertDynamic") | .vectorShuffle => (79, "VectorShuffle")
  | .compositeConstruct => (80, "CompositeConstruct")
  | .compositeExtract => (81, "CompositeExtract") | .compositeInsert => (82, "CompositeInsert")
  | .copyObject => (83, "CopyObject") | .transpose => (84, "Transpose")
  | .sampledImage => (86, "SampledImage")
  | .imageSampleImplicitLod => (87, "ImageSampleImplicitLod")
  | .imageSampleExplicitLod => (88, "ImageSampleExplicitLod")
  | .imageSampleDrefImplicitLod => (89, "ImageSampleDrefImplicitLod")
  | .imageSampleDrefExplicitLod => (90, "ImageSampleDrefExplicitLod")
  | .imageSampleProjImplicitLod => (91, "ImageSampleProjImplicitLod")
  | .imageSampleProjExplicitLod => (92, "ImageSampleProjExplicitLod")
  | .imageSampleProjDrefImplicitLod => (93, "ImageSampleProjDrefImplicitLod")
  | .imageSampleProjDrefExplicitLod => (94, "ImageSampleProjDrefExplicitLod")
  | .imageFetch => (95, "ImageFetch") | .imageGather => (96, "ImageGather")
  | .imageDrefGather => (97, "ImageDrefGather") | .imageRead => (98, "ImageRead")
  | .imageWrite => (99, "ImageWrite") | .image => (100, "Image")
  | .imageQueryFormat => (101, "ImageQueryFormat")
  | .imageQuerySizeLod => (103, "ImageQuerySizeLod") | .imageQuerySize => (104, "ImageQuerySize")
  | .imageQueryLod => (105, "ImageQueryLod") | .imageQueryLevels => (106, "ImageQueryLevels")
  | .imageQuerySamples => (107, "ImageQuerySamples") | .convertFToU => (109, "ConvertFToU")
  | .convertFToS => (110, "ConvertFToS") | .convertSToF => (111, "ConvertSToF")
  | .convertUToF => (112, "ConvertUToF") | .uConvert => (113, "UConvert")
  | .sConvert => (114, "SConvert") | .fConvert => (115, "FConvert")
  | .quantizeToF16 => (116, "QuantizeToF16") | .satConvertSToU => (118, "SatConvertSToU")
  | .bitcast => (124, "Bitcast") | .sNegate => (126, "SNegate") | .fNegate => (127, "FNegate")
  | .iAdd => (128, "IAdd") | .fAdd => (129, "FAdd") | .iSub => (130, "ISub")
  | .fSub => (131, "FSub") | .iMul => (132, "IMul") | .fMul => (133, "FMul")
  | .uDiv => (134, "UDiv") | .sDiv => (135, "SDiv") | .fDiv => (136, "FDiv")
  | .uMod => (137, "UMod") | .sRem => (138, "SRem") | .sMod => (139, "SMod")
  | .fRem => (140, "FRem") | .fMod => (141, "FMod")
  | .vectorTimesScalar => (142, "VectorTimesScalar")
  | .matrixTimesScalar => (143, "MatrixTimesScalar")
  | .vectorTimesMatrix => (144, "VectorTimesMatrix")
  | .matrixTimesVector => (145, "MatrixTimesVector")
  | .matrixTimesMatrix => (146, "MatrixTimesMatrix") | .outerProduct => (147, "OuterProduct")
  | .dot => (148, "Dot") | .iAddCarry => (149, "IAddCarry") | .uMulExtended => (151, "UMulExtended")
  | .anyOf => (154, "Any") | .allOf => (155, "All") | .isNan => (156, "IsNan")
  | .isInf => (157, "IsInf") | .isFinite => (158, "IsFinite") | .isNormal => (159, "IsNormal")
  | .signBitSet => (160, "SignBitSet") | .ordered => (162, "Ordered")
  | .unordered => (163, "Unordered") | .logicalEqual => (164, "LogicalEqual")
  | .logicalNotEqual => (165, "LogicalNotEqual") | .logicalOr => (166, "LogicalOr")
  | .logicalAnd => (167, "LogicalAnd") | .logicalNot => (168, "LogicalNot")
  | .select => (169, "Select") | .iEqual => (170, "IEqual") | .iNotEqual => (171, "INotEqual")
  | .uGreaterThan => (172, "UGreaterThan") | .sGreaterThan => (173, "SGreaterThan")
  | .uGreaterThanEqual => (174, "UGreaterThanEqual")
  | .sGreaterThanEqual => (175, "SGreaterThanEqual") | .uLessThan => (176, "ULessThan")
  | .sLessThan => (177, "SLessThan") | .uLessThanEqual => (178, "ULessThanEqual")
  | .sLessThanEqual => (179, "SLessThanEqual") | .fOrdEqual => (180, "FOrdEqual")
  | .fUnordEqual => (181, "FUnordEqual") | .fOrdNotEqual => (182, "FOrdNotEqual")
  | .fUnordNotEqual => (183, "FUnordNotEqual") | .fOrdLessThan => (184, "FOrdLessThan")
  | .fUnordLessThan => (185, "FUnordLessThan") | .fOrdGreaterThan => (186, "FOrdGreaterThan")
  | .fUnordGreaterThan => (187, "FUnordGreaterThan")
  | .fOrdLessThanEqual => (188, "FOrdLessThanEqual")
  | .fUnordLessThanEqual => (189, "FUnordLessThanEqual")
  | .fOrdGreaterThanEqual => (190, "FOrdGreaterThanEqual")
  | .fUnordGreaterThanEqual => (191, "FUnordGreaterThanEqual")
  | .shiftRightLogical => (194, "ShiftRightLogical")
  | .shiftRightArithmetic => (195, "ShiftRightArithmetic")
  | .shiftLeftLogical => (196, "ShiftLeftLogical") | .bitwiseOr => (197, "BitwiseOr")
  | .bitwiseXor => (198, "BitwiseXor") | .bitwiseAnd => (199, "BitwiseAnd") | .not => (200, "Not")
  | .bitFieldInsert => (201, "BitFieldInsert") | .bitFieldSExtract => (202, "BitFieldSExtract")
  | .bitFieldUExtract => (203, "BitFieldUExtract") | .bitReverse => (204, "BitReverse")
  | .bitCount => (205, "BitCount") | .dPdx => (207, "DPdx") | .dPdy => (208, "DPdy")
  | .fwidth => (209, "Fwidth") | .dPdxFine => (210, "DPdxFine") | .dPdyFine => (211, "DPdyFine")
  | .fwidthFine => (212, "FwidthFine") | .dPdxCoarse => (213, "DPdxCoarse")
  | .dPdyCoarse => (214, "DPdyCoarse") | .fwidthCoarse => (215, "FwidthCoarse")
  | .endPrimitive => (219, "EndPrimitive") | .controlBarrier => (224, "ControlBarrier")
  | .memoryBarrier => (225, "MemoryBarrier") | .atomicLoad => (227, "AtomicLoad")
  | .atomicStore => (228, "AtomicStore") | .atomicExchange => (229, "AtomicExchange")
  | .atomicCompareExchange => (230, "AtomicCompareExchange")
  | .atomicCompareExchangeWeak => (231, "AtomicCompareExchangeWeak")
  | .atomicIIncrement => (232, "AtomicIIncrement") | .atomicIDecrement => (233, "AtomicIDecrement")
  | .atomicIAdd => (234, "AtomicIAdd") | .atomicISub => (235, "AtomicISub")
  | .atomicSMin => (236, "AtomicSMin") | .atomicUMin => (237, "AtomicUMin")
  | .atomicSMax => (238, "AtomicSMax") | .atomicUMax => (239, "AtomicUMax")
  | .atomicAnd => (240, "AtomicAnd") | .atomicOr => (241, "AtomicOr")
  | .atomicXor => (242, "AtomicXor") | .phi => (245, "Phi") | .loopMerge => (246, "LoopMerge")
  | .selectionMerge => (247, "SelectionMerge") | .label => (248, "Label")
  | .branch => (249, "Branch") | .branchConditional => (250, "BranchConditional")
  | .switch => (251, "Switch") | .kill => (252, "Kill") | .ret => (253, "Return")
  | .returnValue => (254, "ReturnValue") | .unreachable => (255, "Unreachable")
  | .groupAll => (261, "GroupAll") | .noLine => (317, "NoLine") | .sizeOf => (321, "SizeOf")
  | .moduleProcessed => (330, "ModuleProcessed")
  | .groupNonUniformElect => (333, "GroupNonUniformElect") | .ptrEqual => (401, "PtrEqual")
  | .terminateInvocation => (4416, "TerminateInvocation")
  | .subgroupBallotKHR => (4421, "SubgroupBallotKHR")
  | .ignoreIntersectionKHR => (4448, "IgnoreIntersectionKHR")
  | .demoteToHelperInvocation => (5380, "DemoteToHelperInvocation")
  | .atomicFAddEXT => (6035, "AtomicFAddEXT")

def code (op : Op) : Nat := op.entry.1

def name (op : Op) : String := op.entry.2

def all : List Op := (List.range (atomicFAddEXT.ctorIdx + 1)).map ofNat

def ofCode? (code : Nat) : Option Op := all.find? (·.code == code)

end Op

end SpirvMetal.Spirv
