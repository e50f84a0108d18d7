/-!
Small enumerations of the binary format, each with its number and its name.
-/

namespace SpirvMetal.Spirv

inductive ExecutionModel
  | vertex | tessellationControl | tessellationEvaluation | geometry | fragment | glCompute
  | kernel | taskNV | meshNV | rayGenerationNV | intersectionNV | anyHitNV | closestHitNV | missNV
  | callableNV | taskEXT | meshEXT
deriving DecidableEq

namespace ExecutionModel

def entry : ExecutionModel → Nat × String
  | .vertex => (0, "Vertex") | .tessellationControl => (1, "TessellationControl")
  | .tessellationEvaluation => (2, "TessellationEvaluation") | .geometry => (3, "Geometry")
  | .fragment => (4, "Fragment") | .glCompute => (5, "GLCompute") | .kernel => (6, "Kernel")
  | .taskNV => (5267, "TaskNV") | .meshNV => (5268, "MeshNV")
  | .rayGenerationNV => (5313, "RayGenerationNV") | .intersectionNV => (5314, "IntersectionNV")
  | .anyHitNV => (5315, "AnyHitNV") | .closestHitNV => (5316, "ClosestHitNV")
  | .missNV => (5317, "MissNV") | .callableNV => (5318, "CallableNV")
  | .taskEXT => (5364, "TaskEXT") | .meshEXT => (5365, "MeshEXT")

def code (model : ExecutionModel) : Nat := model.entry.1

def name (model : ExecutionModel) : String := model.entry.2

def all : List ExecutionModel := (List.range (meshEXT.ctorIdx + 1)).map ofNat

def ofCode? (code : Nat) : Option ExecutionModel := all.find? (·.code == code)

end ExecutionModel

inductive StorageClass
  | uniformConstant | input | uniform | output | workgroup | crossWorkgroup | privateScope
  | function | generic | pushConstant | atomicCounter | image | storageBuffer | tileImageEXT
  | nodePayloadAMDX | nodeOutputPayloadAMDX | callableDataNV | incomingCallableDataNV
  | rayPayloadNV | hitAttributeNV | incomingRayPayloadNV | shaderRecordBufferNV
  | physicalStorageBuffer | hitObjectAttributeNV | taskPayloadWorkgroupEXT | codeSectionINTEL
  | deviceOnlyINTEL | hostOnlyINTEL
deriving DecidableEq

namespace StorageClass

def entry : StorageClass → Nat × String
  | .uniformConstant => (0, "UniformConstant") | .input => (1, "Input") | .uniform => (2, "Uniform")
  | .output => (3, "Output") | .workgroup => (4, "Workgroup")
  | .crossWorkgroup => (5, "CrossWorkgroup") | .privateScope => (6, "Private")
  | .function => (7, "Function") | .generic => (8, "Generic") | .pushConstant => (9, "PushConstant")
  | .atomicCounter => (10, "AtomicCounter") | .image => (11, "Image")
  | .storageBuffer => (12, "StorageBuffer") | .tileImageEXT => (4172, "TileImageEXT")
  | .nodePayloadAMDX => (5068, "NodePayloadAMDX")
  | .nodeOutputPayloadAMDX => (5076, "NodeOutputPayloadAMDX")
  | .callableDataNV => (5328, "CallableDataNV")
  | .incomingCallableDataNV => (5329, "IncomingCallableDataNV")
  | .rayPayloadNV => (5338, "RayPayloadNV") | .hitAttributeNV => (5339, "HitAttributeNV")
  | .incomingRayPayloadNV => (5342, "IncomingRayPayloadNV")
  | .shaderRecordBufferNV => (5343, "ShaderRecordBufferNV")
  | .physicalStorageBuffer => (5349, "PhysicalStorageBuffer")
  | .hitObjectAttributeNV => (5385, "HitObjectAttributeNV")
  | .taskPayloadWorkgroupEXT => (5402, "TaskPayloadWorkgroupEXT")
  | .codeSectionINTEL => (5605, "CodeSectionINTEL") | .deviceOnlyINTEL => (5936, "DeviceOnlyINTEL")
  | .hostOnlyINTEL => (5937, "HostOnlyINTEL")

def code (storage : StorageClass) : Nat := storage.entry.1

def name (storage : StorageClass) : String := storage.entry.2

def all : List StorageClass := (List.range (hostOnlyINTEL.ctorIdx + 1)).map ofNat

def ofCode? (code : Nat) : Option StorageClass := all.find? (·.code == code)

end StorageClass

inductive Dim
  | dim1D | dim2D | dim3D | dimCube | dimRect | dimBuffer | dimSubpassData | dimTileImageDataEXT
deriving DecidableEq

namespace Dim

def entry : Dim → Nat × String
  | .dim1D => (0, "Dim1D") | .dim2D => (1, "Dim2D") | .dim3D => (2, "Dim3D")
  | .dimCube => (3, "DimCube") | .dimRect => (4, "DimRect") | .dimBuffer => (5, "DimBuffer")
  | .dimSubpassData => (6, "DimSubpassData") | .dimTileImageDataEXT => (4173, "DimTileImageDataEXT")

def code (dim : Dim) : Nat := dim.entry.1

def name (dim : Dim) : String := dim.entry.2

def all : List Dim := (List.range (dimTileImageDataEXT.ctorIdx + 1)).map ofNat

def ofCode? (code : Nat) : Option Dim := all.find? (·.code == code)

end Dim

inductive ImageFormat
  | unknown | rgba32f | rgba16f | r32f | rgba8 | rgba8Snorm | rg32f | rg16f | r11fG11fB10f | r16f
  | rgba16 | rgb10A2 | rg16 | rg8 | r16 | r8 | rgba16Snorm | rg16Snorm | rg8Snorm | r16Snorm
  | r8Snorm | rgba32i | rgba16i | rgba8i | r32i | rg32i | rg16i | rg8i | r16i | r8i | rgba32ui
  | rgba16ui | rgba8ui | r32ui | rgb10a2ui | rg32ui | rg16ui | rg8ui | r16ui | r8ui | r64ui | r64i
deriving DecidableEq

namespace ImageFormat

def entry : ImageFormat → Nat × String
  | .unknown => (0, "Unknown") | .rgba32f => (1, "Rgba32f") | .rgba16f => (2, "Rgba16f")
  | .r32f => (3, "R32f") | .rgba8 => (4, "Rgba8") | .rgba8Snorm => (5, "Rgba8Snorm")
  | .rg32f => (6, "Rg32f") | .rg16f => (7, "Rg16f") | .r11fG11fB10f => (8, "R11fG11fB10f")
  | .r16f => (9, "R16f") | .rgba16 => (10, "Rgba16") | .rgb10A2 => (11, "Rgb10A2")
  | .rg16 => (12, "Rg16") | .rg8 => (13, "Rg8") | .r16 => (14, "R16") | .r8 => (15, "R8")
  | .rgba16Snorm => (16, "Rgba16Snorm") | .rg16Snorm => (17, "Rg16Snorm")
  | .rg8Snorm => (18, "Rg8Snorm") | .r16Snorm => (19, "R16Snorm") | .r8Snorm => (20, "R8Snorm")
  | .rgba32i => (21, "Rgba32i") | .rgba16i => (22, "Rgba16i") | .rgba8i => (23, "Rgba8i")
  | .r32i => (24, "R32i") | .rg32i => (25, "Rg32i") | .rg16i => (26, "Rg16i")
  | .rg8i => (27, "Rg8i") | .r16i => (28, "R16i") | .r8i => (29, "R8i")
  | .rgba32ui => (30, "Rgba32ui") | .rgba16ui => (31, "Rgba16ui") | .rgba8ui => (32, "Rgba8ui")
  | .r32ui => (33, "R32ui") | .rgb10a2ui => (34, "Rgb10a2ui") | .rg32ui => (35, "Rg32ui")
  | .rg16ui => (36, "Rg16ui") | .rg8ui => (37, "Rg8ui") | .r16ui => (38, "R16ui")
  | .r8ui => (39, "R8ui") | .r64ui => (40, "R64ui") | .r64i => (41, "R64i")

def code (format : ImageFormat) : Nat := format.entry.1

def name (format : ImageFormat) : String := format.entry.2

def all : List ImageFormat := (List.range (r64i.ctorIdx + 1)).map ofNat

def ofCode? (code : Nat) : Option ImageFormat := all.find? (·.code == code)

end ImageFormat

inductive AccessQualifier
  | readOnly | writeOnly | readWrite
deriving DecidableEq

namespace AccessQualifier

def entry : AccessQualifier → Nat × String
  | .readOnly => (0, "ReadOnly") | .writeOnly => (1, "WriteOnly") | .readWrite => (2, "ReadWrite")

def code (access : AccessQualifier) : Nat := access.entry.1

def name (access : AccessQualifier) : String := access.entry.2

def all : List AccessQualifier := (List.range (readWrite.ctorIdx + 1)).map ofNat

def ofCode? (code : Nat) : Option AccessQualifier := all.find? (·.code == code)

end AccessQualifier

inductive Scope
  | crossDevice | device | workgroup | subgroup | invocation | queueFamily | shaderCallKHR
deriving DecidableEq

namespace Scope

def entry : Scope → Nat × String
  | .crossDevice => (0, "CrossDevice") | .device => (1, "Device") | .workgroup => (2, "Workgroup")
  | .subgroup => (3, "Subgroup") | .invocation => (4, "Invocation")
  | .queueFamily => (5, "QueueFamily") | .shaderCallKHR => (6, "ShaderCallKHR")

def code (scope : Scope) : Nat := scope.entry.1

def name (scope : Scope) : String := scope.entry.2

def all : List Scope := (List.range (shaderCallKHR.ctorIdx + 1)).map ofNat

def ofCode? (code : Nat) : Option Scope := all.find? (·.code == code)

end Scope

end SpirvMetal.Spirv
