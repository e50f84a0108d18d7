/-!
Decorations that a module can put on an id or on a struct member.
-/

namespace SpirvMetal.Spirv

inductive Decoration
  | relaxedPrecision | specId | block | bufferBlock | rowMajor | colMajor | arrayStride
  | matrixStride | glslShared | glslPacked | cPacked | builtIn | noPerspective | flat | patch
  | centroid | sample | invariant | restrict | aliased | volatile | constant | coherent
  | nonWritable | nonReadable | uniform | uniformId | saturatedConversion | stream | location
  | component | index | binding | descriptorSet | offset | xfbBuffer | xfbStride | funcParamAttr
  | fpRoundingMode | fpFastMathMode | linkageAttributes | noContraction | inputAttachmentIndex
  | alignment | maxByteOffset | alignmentId | maxByteOffsetId | noSignedWrap | noUnsignedWrap
  | weightTextureQCOM | blockMatchTextureQCOM | explicitInterpAMD | nodeSharesPayloadLimitsWithAMDX
  | nodeMaxPayloadsAMDX | trackFinishWritingAMDX | payloadNodeNameAMDX | overrideCoverageNV
  | passthroughNV | viewportRelativeNV | secondaryViewportRelativeNV | perPrimitiveNV | perViewNV
  | perTaskNV | perVertexKHR | nonUniform | restrictPointer | aliasedPointer
  | hitObjectShaderRecordBufferNV | bindlessSamplerNV | bindlessImageNV | boundSamplerNV
  | boundImageNV | simtCallINTEL | referencedIndirectlyINTEL | clobberINTEL | sideEffectsINTEL
  | vectorComputeVariableINTEL | funcParamIOKindINTEL | vectorComputeFunctionINTEL | stackCallINTEL
  | globalVariableOffsetINTEL | counterBuffer | userSemantic | userTypeGOOGLE
  | functionRoundingModeINTEL | functionDenormModeINTEL | registerINTEL | memoryINTEL
  | numbanksINTEL | bankwidthINTEL | maxPrivateCopiesINTEL | singlepumpINTEL | doublepumpINTEL
  | maxReplicatesINTEL | simpleDualPortINTEL | mergeINTEL | bankBitsINTEL | forcePow2DepthINTEL
  | burstCoalesceINTEL | cacheSizeINTEL | dontStaticallyCoalesceINTEL | prefetchINTEL
  | stallEnableINTEL | fuseLoopsInFunctionINTEL | mathOpDSPModeINTEL | aliasScopeINTEL
  | noAliasINTEL | initiationIntervalINTEL | maxConcurrencyINTEL | pipelineEnableINTEL
  | bufferLocationINTEL | ioPipeStorageINTEL | functionFloatingPointModeINTEL
  | singleElementVectorINTEL | vectorComputeCallableFunctionINTEL | mediaBlockIOINTEL
  | initModeINTEL | implementInRegisterMapINTEL | hostAccessINTEL | fpMaxErrorDecorationINTEL
  | latencyControlLabelINTEL | latencyControlConstraintINTEL | conduitKernelArgumentINTEL
  | registerMapKernelArgumentINTEL | mmHostInterfaceAddressWidthINTEL
  | mmHostInterfaceDataWidthINTEL | mmHostInterfaceLatencyINTEL | mmHostInterfaceReadWriteModeINTEL
  | mmHostInterfaceMaxBurstINTEL | mmHostInterfaceWaitRequestINTEL | stableKernelArgumentINTEL
  | cacheControlLoadINTEL | cacheControlStoreINTEL
deriving DecidableEq

namespace Decoration

def entry : Decoration → Nat × String
  | .relaxedPrecision => (0, "RelaxedPrecision") | .specId => (1, "SpecId") | .block => (2, "Block")
  | .bufferBlock => (3, "BufferBlock") | .rowMajor => (4, "RowMajor") | .colMajor => (5, "ColMajor")
  | .arrayStride => (6, "ArrayStride") | .matrixStride => (7, "MatrixStride")
  | .glslShared => (8, "GLSLShared") | .glslPacked => (9, "GLSLPacked")
  | .cPacked => (10, "CPacked") | .builtIn => (11, "BuiltIn")
  | .noPerspective => (13, "NoPerspective") | .flat => (14, "Flat") | .patch => (15, "Patch")
  | .centroid => (16, "Centroid") | .sample => (17, "Sample") | .invariant => (18, "Invariant")
  | .restrict => (19, "Restrict") | .aliased => (20, "Aliased") | .volatile => (21, "Volatile")
  | .constant => (22, "Constant") | .coherent => (23, "Coherent")
  | .nonWritable => (24, "NonWritable") | .nonReadable => (25, "NonReadable")
  | .uniform => (26, "Uniform") | .uniformId => (27, "UniformId")
  | .saturatedConversion => (28, "SaturatedConversion") | .stream => (29, "Stream")
  | .location => (30, "Location") | .component => (31, "Component") | .index => (32, "Index")
  | .binding => (33, "Binding") | .descriptorSet => (34, "DescriptorSet")
  | .offset => (35, "Offset") | .xfbBuffer => (36, "XfbBuffer") | .xfbStride => (37, "XfbStride")
  | .funcParamAttr => (38, "FuncParamAttr") | .fpRoundingMode => (39, "FPRoundingMode")
  | .fpFastMathMode => (40, "FPFastMathMode") | .linkageAttributes => (41, "LinkageAttributes")
  | .noContraction => (42, "NoContraction") | .inputAttachmentIndex => (43, "InputAttachmentIndex")
  | .alignment => (44, "Alignment") | .maxByteOffset => (45, "MaxByteOffset")
  | .alignmentId => (46, "AlignmentId") | .maxByteOffsetId => (47, "MaxByteOffsetId")
  | .noSignedWrap => (4469, "NoSignedWrap") | .noUnsignedWrap => (4470, "NoUnsignedWrap")
  | .weightTextureQCOM => (4487, "WeightTextureQCOM")
  | .blockMatchTextureQCOM => (4488, "BlockMatchTextureQCOM")
  | .explicitInterpAMD => (4999, "ExplicitInterpAMD")
  | .nodeSharesPayloadLimitsWithAMDX => (5019, "NodeSharesPayloadLimitsWithAMDX")
  | .nodeMaxPayloadsAMDX => (5020, "NodeMaxPayloadsAMDX")
  | .trackFinishWritingAMDX => (5078, "TrackFinishWritingAMDX")
  | .payloadNodeNameAMDX => (5091, "PayloadNodeNameAMDX")
  | .overrideCoverageNV => (5248, "OverrideCoverageNV") | .passthroughNV => (5250, "PassthroughNV")
  | .viewportRelativeNV => (5252, "ViewportRelativeNV")
  | .secondaryViewportRelativeNV => (5256, "SecondaryViewportRelativeNV")
  | .perPrimitiveNV => (5271, "PerPrimitiveNV") | .perViewNV => (5272, "PerViewNV")
  | .perTaskNV => (5273, "PerTaskNV") | .perVertexKHR => (5285, "PerVertexKHR")
  | .nonUniform => (5300, "NonUniform") | .restrictPointer => (5355, "RestrictPointer")
  | .aliasedPointer => (5356, "AliasedPointer")
  | .hitObjectShaderRecordBufferNV => (5386, "HitObjectShaderRecordBufferNV")
  | .bindlessSamplerNV => (5398, "BindlessSamplerNV")
  | .bindlessImageNV => (5399, "BindlessImageNV") | .boundSamplerNV => (5400, "BoundSamplerNV")
  | .boundImageNV => (5401, "BoundImageNV") | .simtCallINTEL => (5599, "SIMTCallINTEL")
  | .referencedIndirectlyINTEL => (5602, "ReferencedIndirectlyINTEL")
  | .clobberINTEL => (5607, "ClobberINTEL") | .sideEffectsINTEL => (5608, "SideEffectsINTEL")
  | .vectorComputeVariableINTEL => (5624, "VectorComputeVariableINTEL")
  | .funcParamIOKindINTEL => (5625, "FuncParamIOKindINTEL")
  | .vectorComputeFunctionINTEL => (5626, "VectorComputeFunctionINTEL")
  | .stackCallINTEL => (5627, "StackCallINTEL")
  | .globalVariableOffsetINTEL => (5628, "GlobalVariableOffsetINTEL")
  | .counterBuffer => (5634, "CounterBuffer") | .userSemantic => (5635, "UserSemantic")
  | .userTypeGOOGLE => (5636, "UserTypeGOOGLE")
  | .functionRoundingModeINTEL => (5822, "FunctionRoundingModeINTEL")
  | .functionDenormModeINTEL => (5823, "FunctionDenormModeINTEL")
  | .registerINTEL => (5825, "RegisterINTEL") | .memoryINTEL => (5826, "MemoryINTEL")
  | .numbanksINTEL => (5827, "NumbanksINTEL") | .bankwidthINTEL => (5828, "BankwidthINTEL")
  | .maxPrivateCopiesINTEL => (5829, "MaxPrivateCopiesINTEL")
  | .singlepumpINTEL => (5830, "SinglepumpINTEL") | .doublepumpINTEL => (5831, "DoublepumpINTEL")
  | .maxReplicatesINTEL => (5832, "MaxReplicatesINTEL")
  | .simpleDualPortINTEL => (5833, "SimpleDualPortINTEL") | .mergeINTEL => (5834, "MergeINTEL")
  | .bankBitsINTEL => (5835, "BankBitsINTEL")
  | .forcePow2DepthINTEL => (5836, "ForcePow2DepthINTEL")
  | .burstCoalesceINTEL => (5899, "BurstCoalesceINTEL")
  | .cacheSizeINTEL => (5900, "CacheSizeINTEL")
  | .dontStaticallyCoalesceINTEL => (5901, "DontStaticallyCoalesceINTEL")
  | .prefetchINTEL => (5902, "PrefetchINTEL") | .stallEnableINTEL => (5905, "StallEnableINTEL")
  | .fuseLoopsInFunctionINTEL => (5907, "FuseLoopsInFunctionINTEL")
  | .mathOpDSPModeINTEL => (5909, "MathOpDSPModeINTEL")
  | .aliasScopeINTEL => (5914, "AliasScopeINTEL") | .noAliasINTEL => (5915, "NoAliasINTEL")
  | .initiationIntervalINTEL => (5917, "InitiationIntervalINTEL")
  | .maxConcurrencyINTEL => (5918, "MaxConcurrencyINTEL")
  | .pipelineEnableINTEL => (5919, "PipelineEnableINTEL")
  | .bufferLocationINTEL => (5921, "BufferLocationINTEL")
  | .ioPipeStorageINTEL => (5944, "IOPipeStorageINTEL")
  | .functionFloatingPointModeINTEL => (6080, "FunctionFloatingPointModeINTEL")
  | .singleElementVectorINTEL => (6085, "SingleElementVectorINTEL")
  | .vectorComputeCallableFunctionINTEL => (6087, "VectorComputeCallableFunctionINTEL")
  | .mediaBlockIOINTEL => (6140, "MediaBlockIOINTEL") | .initModeINTEL => (6147, "InitModeINTEL")
  | .implementInRegisterMapINTEL => (6148, "ImplementInRegisterMapINTEL")
  | .hostAccessINTEL => (6168, "HostAccessINTEL")
  | .fpMaxErrorDecorationINTEL => (6170, "FPMaxErrorDecorationINTEL")
  | .latencyControlLabelINTEL => (6172, "LatencyControlLabelINTEL")
  | .latencyControlConstraintINTEL => (6173, "LatencyControlConstraintINTEL")
  | .conduitKernelArgumentINTEL => (6175, "ConduitKernelArgumentINTEL")
  | .registerMapKernelArgumentINTEL => (6176, "RegisterMapKernelArgumentINTEL")
  | .mmHostInterfaceAddressWidthINTEL => (6177, "MMHostInterfaceAddressWidthINTEL")
  | .mmHostInterfaceDataWidthINTEL => (6178, "MMHostInterfaceDataWidthINTEL")
  | .mmHostInterfaceLatencyINTEL => (6179, "MMHostInterfaceLatencyINTEL")
  | .mmHostInterfaceReadWriteModeINTEL => (6180, "MMHostInterfaceReadWriteModeINTEL")
  | .mmHostInterfaceMaxBurstINTEL => (6181, "MMHostInterfaceMaxBurstINTEL")
  | .mmHostInterfaceWaitRequestINTEL => (6182, "MMHostInterfaceWaitRequestINTEL")
  | .stableKernelArgumentINTEL => (6183, "StableKernelArgumentINTEL")
  | .cacheControlLoadINTEL => (6442, "CacheControlLoadINTEL")
  | .cacheControlStoreINTEL => (6443, "CacheControlStoreINTEL")

def code (decoration : Decoration) : Nat := decoration.entry.1

def name (decoration : Decoration) : String := decoration.entry.2

def all : List Decoration := (List.range (cacheControlStoreINTEL.ctorIdx + 1)).map ofNat

def ofCode? (code : Nat) : Option Decoration := all.find? (·.code == code)

end Decoration

end SpirvMetal.Spirv
