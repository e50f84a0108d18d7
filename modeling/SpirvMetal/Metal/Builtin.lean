import SpirvMetal.Metal.Name

/-!
How builtins are spelled, typed and attributed.
-/

namespace SpirvMetal

open Spirv (BuiltIn StorageClass)

namespace Builtin

def name : BuiltIn → String
  | .position => "gl_Position"
  | .pointSize => "gl_PointSize"
  | .clipDistance => "gl_ClipDistance"
  | .cullDistance => "gl_CullDistance"
  | .vertexId => "gl_VertexID"
  | .instanceId => "gl_InstanceID"
  | .vertexIndex => "gl_VertexIndex"
  | .instanceIndex => "gl_InstanceIndex"
  | .baseVertex => "gl_BaseVertex"
  | .baseInstance => "gl_BaseInstance"
  | .drawIndex => "gl_DrawID"
  | .primitiveId => "gl_PrimitiveID"
  | .invocationId => "gl_InvocationID"
  | .layer => "gl_Layer"
  | .viewportIndex => "gl_ViewportIndex"
  | .fragCoord => "gl_FragCoord"
  | .pointCoord => "gl_PointCoord"
  | .frontFacing => "gl_FrontFacing"
  | .sampleId => "gl_SampleID"
  | .samplePosition => "gl_SamplePosition"
  | .sampleMask => "gl_SampleMask"
  | .fragDepth => "gl_FragDepth"
  | .helperInvocation => "gl_HelperInvocation"
  | .numWorkgroups => "gl_NumWorkGroups"
  | .workgroupSize => "gl_WorkGroupSize"
  | .workgroupId => "gl_WorkGroupID"
  | .localInvocationId => "gl_LocalInvocationID"
  | .globalInvocationId => "gl_GlobalInvocationID"
  | .localInvocationIndex => "gl_LocalInvocationIndex"
  | _ => "gl_Unsupported"

def isStageOutput : BuiltIn → Bool
  | .position | .pointSize | .clipDistance | .cullDistance | .layer | .viewportIndex | .fragDepth
  | .sampleMask => true
  | _ => false

end Builtin

namespace Compiler

variable (c : Compiler)

def checkBuiltin : BuiltIn → Except Fault Unit
  | .drawIndex => .error (.unsupported .drawIndex)
  | .viewportIndex =>
    if c.options.supports 2 0 then .ok () else .error (.unsupported .viewportIndex)
  | _ => .ok ()

def builtinText (builtin : BuiltIn) (storage : StorageClass) : Except Fault String := do
  c.checkBuiltin builtin
  match c.plan.stageOut with
  | some out =>
    if Builtin.isStageOutput builtin && storage ≠ .input && c.inEntry then
      return s!"{c.program.plainName out}.{Builtin.name builtin}"
    else return Builtin.name builtin
  | none => return Builtin.name builtin

def builtinAttribute (builtin : BuiltIn) : Except Fault String := do
  let modes := (← c.program.entryPoint).modes
  match builtin with
  | .vertexId | .vertexIndex => return "vertex_id"
  | .baseVertex => return "base_vertex"
  | .instanceId | .instanceIndex => return "instance_id"
  | .baseInstance => return "base_instance"
  | .clipDistance => return "clip_distance"
  | .pointSize => return "point_size"
  | .position => return "position"
  | .layer => return "render_target_array_index"
  | .frontFacing => return "front_facing"
  | .pointCoord => return "point_coord"
  | .fragCoord => return "position"
  | .sampleId => return "sample_id"
  | .sampleMask => return "sample_mask"
  | .samplePosition => .error (.internal .samplePosition)
  | .fragDepth =>
    if .depthGreater ∈ modes then return "depth(greater)"
    else if .depthLess ∈ modes then return "depth(less)"
    else return "depth(any)"
  | .globalInvocationId => return "thread_position_in_grid"
  | .workgroupId => return "threadgroup_position_in_grid"
  | .numWorkgroups => return "threadgroups_per_grid"
  | .localInvocationId => return "thread_position_in_threadgroup"
  | .localInvocationIndex => return "thread_index_in_threadgroup"
  | .drawIndex | .viewportIndex =>
    c.checkBuiltin builtin
    return "viewport_array_index"
  | other => .error (.unsupported (.builtinAttribute other))

def builtinType : BuiltIn → Except Fault String
  | .vertexId | .vertexIndex | .baseVertex | .instanceId | .instanceIndex | .baseInstance
  | .layer | .sampleId | .sampleMask | .localInvocationIndex => .ok "uint"
  | .clipDistance | .pointSize | .fragDepth => .ok "float"
  | .position | .fragCoord => .ok "float4"
  | .frontFacing | .helperInvocation => .ok "bool"
  | .pointCoord | .samplePosition => .ok "float2"
  | .globalInvocationId | .localInvocationId | .numWorkgroups | .workgroupId => .ok "uint3"
  | .drawIndex => .error (.unsupported .drawIndex)
  | .viewportIndex => do
    c.checkBuiltin .viewportIndex
    return "uint"
  | other => .error (.unsupported (.builtinType other))

def builtinArguments : List (Id × BuiltIn) :=
  let inputs := c.program.vars.filter fun (id, var) =>
    var.storage = .input && id ∈ c.plan.activeVariables
  let builtins := inputs.filterMap fun (id, _) => (c.program.builtin? id).map (id, ·)
  let arguments := builtins.filter fun (_, builtin) =>
    builtin ≠ .samplePosition && builtin ≠ .helperInvocation
  sortBy (fun a b => a.1 ≤ b.1) arguments

end Compiler

end SpirvMetal
