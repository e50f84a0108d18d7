/-!
Modes that an entry point declares.
-/

namespace SpirvMetal.Spirv

inductive ExecutionMode
  | invocations | spacingEqual | spacingFractionalEven | spacingFractionalOdd | vertexOrderCw
  | vertexOrderCcw | pixelCenterInteger | originUpperLeft | originLowerLeft | earlyFragmentTests
  | pointMode | xfb | depthReplacing | depthGreater | depthLess | depthUnchanged | localSize
  | localSizeHint | inputPoints | inputLines | inputLinesAdjacency | triangles
  | inputTrianglesAdjacency | quads | isolines | outputVertices | outputPoints | outputLineStrip
  | outputTriangleStrip | vecTypeHint | contractionOff | initializer | finalizer | subgroupSize
  | subgroupsPerWorkgroup | subgroupsPerWorkgroupId | localSizeId | localSizeHintId
  | nonCoherentColorAttachmentReadEXT | nonCoherentDepthAttachmentReadEXT
  | nonCoherentStencilAttachmentReadEXT | subgroupUniformControlFlowKHR | postDepthCoverage
  | denormPreserve | denormFlushToZero | signedZeroInfNanPreserve | roundingModeRTE
  | roundingModeRTZ | earlyAndLateFragmentTestsAMD | stencilRefReplacingEXT | coalescingAMDX
  | maxNodeRecursionAMDX | staticNumWorkgroupsAMDX | shaderIndexAMDX | maxNumWorkgroupsAMDX
  | stencilRefUnchangedFrontAMD | stencilRefGreaterFrontAMD | stencilRefLessFrontAMD
  | stencilRefUnchangedBackAMD | stencilRefGreaterBackAMD | stencilRefLessBackAMD | outputLinesNV
  | outputPrimitivesNV | derivativeGroupQuadsNV | derivativeGroupLinearNV | outputTrianglesNV
  | pixelInterlockOrderedEXT | pixelInterlockUnorderedEXT | sampleInterlockOrderedEXT
  | sampleInterlockUnorderedEXT | shadingRateInterlockOrderedEXT | shadingRateInterlockUnorderedEXT
  | sharedLocalMemorySizeINTEL | roundingModeRTPINTEL | roundingModeRTNINTEL
  | floatingPointModeALTINTEL | floatingPointModeIEEEINTEL | maxWorkgroupSizeINTEL
  | maxWorkDimINTEL | noGlobalOffsetINTEL | numSIMDWorkitemsINTEL | schedulerTargetFmaxMhzINTEL
  | streamingInterfaceINTEL | registerMapInterfaceINTEL | namedBarrierCountINTEL
deriving DecidableEq

namespace ExecutionMode

def entry : ExecutionMode → Nat × String
  | .invocations => (0, "Invocations") | .spacingEqual => (1, "SpacingEqual")
  | .spacingFractionalEven => (2, "SpacingFractionalEven")
  | .spacingFractionalOdd => (3, "SpacingFractionalOdd") | .vertexOrderCw => (4, "VertexOrderCw")
  | .vertexOrderCcw => (5, "VertexOrderCcw") | .pixelCenterInteger => (6, "PixelCenterInteger")
  | .originUpperLeft => (7, "OriginUpperLeft") | .originLowerLeft => (8, "OriginLowerLeft")
  | .earlyFragmentTests => (9, "EarlyFragmentTests") | .pointMode => (10, "PointMode")
  | .xfb => (11, "Xfb") | .depthReplacing => (12, "DepthReplacing")
  | .depthGreater => (14, "DepthGreater") | .depthLess => (15, "DepthLess")
  | .depthUnchanged => (16, "DepthUnchanged") | .localSize => (17, "LocalSize")
  | .localSizeHint => (18, "LocalSizeHint") | .inputPoints => (19, "InputPoints")
  | .inputLines => (20, "InputLines") | .inputLinesAdjacency => (21, "InputLinesAdjacency")
  | .triangles => (22, "Triangles") | .inputTrianglesAdjacency => (23, "InputTrianglesAdjacency")
  | .quads => (24, "Quads") | .isolines => (25, "Isolines")
  | .outputVertices => (26, "OutputVertices") | .outputPoints => (27, "OutputPoints")
  | .outputLineStrip => (28, "OutputLineStrip")
  | .outputTriangleStrip => (29, "OutputTriangleStrip") | .vecTypeHint => (30, "VecTypeHint")
  | .contractionOff => (31, "ContractionOff") | .initializer => (33, "Initializer")
  | .finalizer => (34, "Finalizer") | .subgroupSize => (35, "SubgroupSize")
  | .subgroupsPerWorkgroup => (36, "SubgroupsPerWorkgroup")
  | .subgroupsPerWorkgroupId => (37, "SubgroupsPerWorkgroupId")
  | .localSizeId => (38, "LocalSizeId") | .localSizeHintId => (39, "LocalSizeHintId")
  | .nonCoherentColorAttachmentReadEXT => (4169, "NonCoherentColorAttachmentReadEXT")
  | .nonCoherentDepthAttachmentReadEXT => (4170, "NonCoherentDepthAttachmentReadEXT")
  | .nonCoherentStencilAttachmentReadEXT => (4171, "NonCoherentStencilAttachmentReadEXT")
  | .subgroupUniformControlFlowKHR => (4421, "SubgroupUniformControlFlowKHR")
  | .postDepthCoverage => (4446, "PostDepthCoverage") | .denormPreserve => (4459, "DenormPreserve")
  | .denormFlushToZero => (4460, "DenormFlushToZero")
  | .signedZeroInfNanPreserve => (4461, "SignedZeroInfNanPreserve")
  | .roundingModeRTE => (4462, "RoundingModeRTE") | .roundingModeRTZ => (4463, "RoundingModeRTZ")
  | .earlyAndLateFragmentTestsAMD => (5017, "EarlyAndLateFragmentTestsAMD")
  | .stencilRefReplacingEXT => (5027, "StencilRefReplacingEXT")
  | .coalescingAMDX => (5069, "CoalescingAMDX")
  | .maxNodeRecursionAMDX => (5071, "MaxNodeRecursionAMDX")
  | .staticNumWorkgroupsAMDX => (5072, "StaticNumWorkgroupsAMDX")
  | .shaderIndexAMDX => (5073, "ShaderIndexAMDX")
  | .maxNumWorkgroupsAMDX => (5077, "MaxNumWorkgroupsAMDX")
  | .stencilRefUnchangedFrontAMD => (5079, "StencilRefUnchangedFrontAMD")
  | .stencilRefGreaterFrontAMD => (5080, "StencilRefGreaterFrontAMD")
  | .stencilRefLessFrontAMD => (5081, "StencilRefLessFrontAMD")
  | .stencilRefUnchangedBackAMD => (5082, "StencilRefUnchangedBackAMD")
  | .stencilRefGreaterBackAMD => (5083, "StencilRefGreaterBackAMD")
  | .stencilRefLessBackAMD => (5084, "StencilRefLessBackAMD")
  | .outputLinesNV => (5269, "OutputLinesNV") | .outputPrimitivesNV => (5270, "OutputPrimitivesNV")
  | .derivativeGroupQuadsNV => (5289, "DerivativeGroupQuadsNV")
  | .derivativeGroupLinearNV => (5290, "DerivativeGroupLinearNV")
  | .outputTrianglesNV => (5298, "OutputTrianglesNV")
  | .pixelInterlockOrderedEXT => (5366, "PixelInterlockOrderedEXT")
  | .pixelInterlockUnorderedEXT => (5367, "PixelInterlockUnorderedEXT")
  | .sampleInterlockOrderedEXT => (5368, "SampleInterlockOrderedEXT")
  | .sampleInterlockUnorderedEXT => (5369, "SampleInterlockUnorderedEXT")
  | .shadingRateInterlockOrderedEXT => (5370, "ShadingRateInterlockOrderedEXT")
  | .shadingRateInterlockUnorderedEXT => (5371, "ShadingRateInterlockUnorderedEXT")
  | .sharedLocalMemorySizeINTEL => (5618, "SharedLocalMemorySizeINTEL")
  | .roundingModeRTPINTEL => (5620, "RoundingModeRTPINTEL")
  | .roundingModeRTNINTEL => (5621, "RoundingModeRTNINTEL")
  | .floatingPointModeALTINTEL => (5622, "FloatingPointModeALTINTEL")
  | .floatingPointModeIEEEINTEL => (5623, "FloatingPointModeIEEEINTEL")
  | .maxWorkgroupSizeINTEL => (5893, "MaxWorkgroupSizeINTEL")
  | .maxWorkDimINTEL => (5894, "MaxWorkDimINTEL")
  | .noGlobalOffsetINTEL => (5895, "NoGlobalOffsetINTEL")
  | .numSIMDWorkitemsINTEL => (5896, "NumSIMDWorkitemsINTEL")
  | .schedulerTargetFmaxMhzINTEL => (5903, "SchedulerTargetFmaxMhzINTEL")
  | .streamingInterfaceINTEL => (6154, "StreamingInterfaceINTEL")
  | .registerMapInterfaceINTEL => (6160, "RegisterMapInterfaceINTEL")
  | .namedBarrierCountINTEL => (6417, "NamedBarrierCountINTEL")

def code (mode : ExecutionMode) : Nat := mode.entry.1

def name (mode : ExecutionMode) : String := mode.entry.2

def all : List ExecutionMode := (List.range (namedBarrierCountINTEL.ctorIdx + 1)).map ofNat

def ofCode? (code : Nat) : Option ExecutionMode := all.find? (·.code == code)

end ExecutionMode

end SpirvMetal.Spirv
