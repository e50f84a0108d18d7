/-!
Values that the pipeline itself provides or consumes.
-/

namespace SpirvMetal.Spirv

inductive BuiltIn
  | position | pointSize | clipDistance | cullDistance | vertexId | instanceId | primitiveId
  | invocationId | layer | viewportIndex | tessLevelOuter | tessLevelInner | tessCoord
  | patchVertices | fragCoord | pointCoord | frontFacing | sampleId | samplePosition | sampleMask
  | fragDepth | helperInvocation | numWorkgroups | workgroupSize | workgroupId | localInvocationId
  | globalInvocationId | localInvocationIndex | workDim | globalSize | enqueuedWorkgroupSize
  | globalOffset | globalLinearId | subgroupSize | subgroupMaxSize | numSubgroups
  | numEnqueuedSubgroups | subgroupId | subgroupLocalInvocationId | vertexIndex | instanceIndex
  | coreIDARM | coreCountARM | coreMaxIDARM | warpIDARM | warpMaxIDARM | subgroupEqMask
  | subgroupGeMask | subgroupGtMask | subgroupLeMask | subgroupLtMask | baseVertex | baseInstance
  | drawIndex | primitiveShadingRateKHR | deviceIndex | viewIndex | shadingRateKHR
  | baryCoordNoPerspAMD | baryCoordNoPerspCentroidAMD | baryCoordNoPerspSampleAMD
  | baryCoordSmoothAMD | baryCoordSmoothCentroidAMD | baryCoordSmoothSampleAMD
  | baryCoordPullModelAMD | fragStencilRefEXT | coalescedInputCountAMDX | shaderIndexAMDX
  | viewportMaskNV | secondaryPositionNV | secondaryViewportMaskNV | positionPerViewNV
  | viewportMaskPerViewNV | fullyCoveredEXT | taskCountNV | primitiveCountNV | primitiveIndicesNV
  | clipDistancePerViewNV | cullDistancePerViewNV | layerPerViewNV | meshViewCountNV
  | meshViewIndicesNV | baryCoordKHR | baryCoordNoPerspKHR | fragSizeEXT | fragInvocationCountEXT
  | primitivePointIndicesEXT | primitiveLineIndicesEXT | primitiveTriangleIndicesEXT
  | cullPrimitiveEXT | launchIdNV | launchSizeNV | worldRayOriginNV | worldRayDirectionNV
  | objectRayOriginNV | objectRayDirectionNV | rayTminNV | rayTmaxNV | instanceCustomIndexNV
  | objectToWorldNV | worldToObjectNV | hitTNV | hitKindNV | currentRayTimeNV
  | hitTriangleVertexPositionsKHR | hitMicroTriangleVertexPositionsNV
  | hitMicroTriangleVertexBarycentricsNV | incomingRayFlagsNV | rayGeometryIndexKHR | warpsPerSMNV
  | smCountNV | warpIDNV | smidnv | hitKindFrontFacingMicroTriangleNV
  | hitKindBackFacingMicroTriangleNV | cullMaskKHR
deriving DecidableEq

namespace BuiltIn

def entry : BuiltIn → Nat × String
  | .position => (0, "Position") | .pointSize => (1, "PointSize")
  | .clipDistance => (3, "ClipDistance") | .cullDistance => (4, "CullDistance")
  | .vertexId => (5, "VertexId") | .instanceId => (6, "InstanceId")
  | .primitiveId => (7, "PrimitiveId") | .invocationId => (8, "InvocationId")
  | .layer => (9, "Layer") | .viewportIndex => (10, "ViewportIndex")
  | .tessLevelOuter => (11, "TessLevelOuter") | .tessLevelInner => (12, "TessLevelInner")
  | .tessCoord => (13, "TessCoord") | .patchVertices => (14, "PatchVertices")
  | .fragCoord => (15, "FragCoord") | .pointCoord => (16, "PointCoord")
  | .frontFacing => (17, "FrontFacing") | .sampleId => (18, "SampleId")
  | .samplePosition => (19, "SamplePosition") | .sampleMask => (20, "SampleMask")
  | .fragDepth => (22, "FragDepth") | .helperInvocation => (23, "HelperInvocation")
  | .numWorkgroups => (24, "NumWorkgroups") | .workgroupSize => (25, "WorkgroupSize")
  | .workgroupId => (26, "WorkgroupId") | .localInvocationId => (27, "LocalInvocationId")
  | .globalInvocationId => (28, "GlobalInvocationId")
  | .localInvocationIndex => (29, "LocalInvocationIndex") | .workDim => (30, "WorkDim")
  | .globalSize => (31, "GlobalSize") | .enqueuedWorkgroupSize => (32, "EnqueuedWorkgroupSize")
  | .globalOffset => (33, "GlobalOffset") | .globalLinearId => (34, "GlobalLinearId")
  | .subgroupSize => (36, "SubgroupSize") | .subgroupMaxSize => (37, "SubgroupMaxSize")
  | .numSubgroups => (38, "NumSubgroups") | .numEnqueuedSubgroups => (39, "NumEnqueuedSubgroups")
  | .subgroupId => (40, "SubgroupId")
  | .subgroupLocalInvocationId => (41, "SubgroupLocalInvocationId")
  | .vertexIndex => (42, "VertexIndex") | .instanceIndex => (43, "InstanceIndex")
  | .coreIDARM => (4160, "CoreIDARM") | .coreCountARM => (4161, "CoreCountARM")
  | .coreMaxIDARM => (4162, "CoreMaxIDARM") | .warpIDARM => (4163, "WarpIDARM")
  | .warpMaxIDARM => (4164, "WarpMaxIDARM") | .subgroupEqMask => (4416, "SubgroupEqMask")
  | .subgroupGeMask => (4417, "SubgroupGeMask") | .subgroupGtMask => (4418, "SubgroupGtMask")
  | .subgroupLeMask => (4419, "SubgroupLeMask") | .subgroupLtMask => (4420, "SubgroupLtMask")
  | .baseVertex => (4424, "BaseVertex") | .baseInstance => (4425, "BaseInstance")
  | .drawIndex => (4426, "DrawIndex")
  | .primitiveShadingRateKHR => (4432, "PrimitiveShadingRateKHR")
  | .deviceIndex => (4438, "DeviceIndex") | .viewIndex => (4440, "ViewIndex")
  | .shadingRateKHR => (4444, "ShadingRateKHR")
  | .baryCoordNoPerspAMD => (4992, "BaryCoordNoPerspAMD")
  | .baryCoordNoPerspCentroidAMD => (4993, "BaryCoordNoPerspCentroidAMD")
  | .baryCoordNoPerspSampleAMD => (4994, "BaryCoordNoPerspSampleAMD")
  | .baryCoordSmoothAMD => (4995, "BaryCoordSmoothAMD")
  | .baryCoordSmoothCentroidAMD => (4996, "BaryCoordSmoothCentroidAMD")
  | .baryCoordSmoothSampleAMD => (4997, "BaryCoordSmoothSampleAMD")
  | .baryCoordPullModelAMD => (4998, "BaryCoordPullModelAMD")
  | .fragStencilRefEXT => (5014, "FragStencilRefEXT")
  | .coalescedInputCountAMDX => (5021, "CoalescedInputCountAMDX")
  | .shaderIndexAMDX => (5073, "ShaderIndexAMDX") | .viewportMaskNV => (5253, "ViewportMaskNV")
  | .secondaryPositionNV => (5257, "SecondaryPositionNV")
  | .secondaryViewportMaskNV => (5258, "SecondaryViewportMaskNV")
  | .positionPerViewNV => (5261, "PositionPerViewNV")
  | .viewportMaskPerViewNV => (5262, "ViewportMaskPerViewNV")
  | .fullyCoveredEXT => (5264, "FullyCoveredEXT") | .taskCountNV => (5274, "TaskCountNV")
  | .primitiveCountNV => (5275, "PrimitiveCountNV")
  | .primitiveIndicesNV => (5276, "PrimitiveIndicesNV")
  | .clipDistancePerViewNV => (5277, "ClipDistancePerViewNV")
  | .cullDistancePerViewNV => (5278, "CullDistancePerViewNV")
  | .layerPerViewNV => (5279, "LayerPerViewNV") | .meshViewCountNV => (5280, "MeshViewCountNV")
  | .meshViewIndicesNV => (5281, "MeshViewIndicesNV") | .baryCoordKHR => (5286, "BaryCoordKHR")
  | .baryCoordNoPerspKHR => (5287, "BaryCoordNoPerspKHR") | .fragSizeEXT => (5292, "FragSizeEXT")
  | .fragInvocationCountEXT => (5293, "FragInvocationCountEXT")
  | .primitivePointIndicesEXT => (5294, "PrimitivePointIndicesEXT")
  | .primitiveLineIndicesEXT => (5295, "PrimitiveLineIndicesEXT")
  | .primitiveTriangleIndicesEXT => (5296, "PrimitiveTriangleIndicesEXT")
  | .cullPrimitiveEXT => (5299, "CullPrimitiveEXT") | .launchIdNV => (5319, "LaunchIdNV")
  | .launchSizeNV => (5320, "LaunchSizeNV") | .worldRayOriginNV => (5321, "WorldRayOriginNV")
  | .worldRayDirectionNV => (5322, "WorldRayDirectionNV")
  | .objectRayOriginNV => (5323, "ObjectRayOriginNV")
  | .objectRayDirectionNV => (5324, "ObjectRayDirectionNV") | .rayTminNV => (5325, "RayTminNV")
  | .rayTmaxNV => (5326, "RayTmaxNV") | .instanceCustomIndexNV => (5327, "InstanceCustomIndexNV")
  | .objectToWorldNV => (5330, "ObjectToWorldNV") | .worldToObjectNV => (5331, "WorldToObjectNV")
  | .hitTNV => (5332, "HitTNV") | .hitKindNV => (5333, "HitKindNV")
  | .currentRayTimeNV => (5334, "CurrentRayTimeNV")
  | .hitTriangleVertexPositionsKHR => (5335, "HitTriangleVertexPositionsKHR")
  | .hitMicroTriangleVertexPositionsNV => (5337, "HitMicroTriangleVertexPositionsNV")
  | .hitMicroTriangleVertexBarycentricsNV => (5344, "HitMicroTriangleVertexBarycentricsNV")
  | .incomingRayFlagsNV => (5351, "IncomingRayFlagsNV")
  | .rayGeometryIndexKHR => (5352, "RayGeometryIndexKHR") | .warpsPerSMNV => (5374, "WarpsPerSMNV")
  | .smCountNV => (5375, "SMCountNV") | .warpIDNV => (5376, "WarpIDNV")
  | .smidnv => (5377, "SMIDNV")
  | .hitKindFrontFacingMicroTriangleNV => (5405, "HitKindFrontFacingMicroTriangleNV")
  | .hitKindBackFacingMicroTriangleNV => (5406, "HitKindBackFacingMicroTriangleNV")
  | .cullMaskKHR => (6021, "CullMaskKHR")

def code (builtin : BuiltIn) : Nat := builtin.entry.1

def name (builtin : BuiltIn) : String := builtin.entry.2

def all : List BuiltIn := (List.range (cullMaskKHR.ctorIdx + 1)).map ofNat

def ofCode? (code : Nat) : Option BuiltIn := all.find? (·.code == code)

end BuiltIn

end SpirvMetal.Spirv
