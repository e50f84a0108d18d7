import SpirvMetal.Metal.Builtin

/-!
Attributes of interface members: how the stages of the pipeline find each other's values.
-/

namespace SpirvMetal

open Spirv (BuiltIn StorageClass)

namespace Decorations

def location? (d : Decorations) : Option Nat :=
  if d.has .location then some (d.get .location) else none

def userLocation? (d : Decorations) : Option String :=
  d.location?.map fun location =>
    if d.has .component then s!"user(locn{location}_{d.get .component})"
    else s!"user(locn{location})"

def interpolation? (d : Decorations) : Option String :=
  let perspective := if d.has .noPerspective then "no_perspective" else "perspective"
  if d.has .flat then some "flat"
  else if d.has .centroid then some s!"centroid_{perspective}"
  else if d.has .sample then some s!"sample_{perspective}"
  else if d.has .noPerspective then some "center_no_perspective"
  else none

end Decorations

namespace Compiler

variable (c : Compiler)

def bracketed (text : String) : String := s!" [[{text}]]"

def vertexInputAttribute (d : Decorations) (index : Nat) : Except Fault String := do
  match d.builtin? with
  | some builtin =>
    match builtin with
    | .vertexId | .vertexIndex | .baseVertex | .instanceId | .instanceIndex | .baseInstance
    | .drawIndex => return bracketed (← c.builtinAttribute builtin)
    | _ => return ""
  | none => return bracketed s!"attribute({d.location?.getD index})"

def vertexOutputAttribute (d : Decorations) (type : ValueType) : Except Fault String := do
  match d.builtin? with
  | some builtin =>
    match builtin with
    | .pointSize =>
      if c.options.enablePointSize then return bracketed (← c.builtinAttribute builtin)
      else return ""
    | .viewportIndex | .position | .layer | .clipDistance =>
      let gap := if type.isArray then " " else ""
      return bracketed (← c.builtinAttribute builtin) ++ gap
    | _ => return ""
  | none => return (d.userLocation?.map bracketed).getD ""

def fragmentInputAttribute (d : Decorations) (type : ValueType) : Except Fault String := do
  let place ←
    match d.builtin? with
    | some builtin =>
      match builtin with
      | .frontFacing | .pointCoord | .fragCoord | .sampleId | .sampleMask | .layer =>
        some <$> c.builtinAttribute builtin
      | _ => pure none
    | none => pure d.userLocation?
  let interpolation :=
    if type.base.isInteger || d.builtin? = some .fragCoord then none else d.interpolation?
  match place.toList ++ interpolation.toList with
  | [] => return ""
  | parts => return bracketed (", ".intercalate parts)

def fragmentOutputAttribute (d : Decorations) : Except Fault String := do
  match d.builtin? with
  | some builtin =>
    match builtin with
    | .sampleMask | .fragDepth => return bracketed (← c.builtinAttribute builtin)
    | _ => return ""
  | none =>
    let color := d.location?.map fun location => s!"color({location})"
    let index := if d.has .index then some s!"index({d.get .index})" else none
    match color.toList ++ index.toList with
    | [] => return ""
    | parts => return bracketed (", ".intercalate parts)

def computeInputAttribute (d : Decorations) : Except Fault String := do
  match d.builtin? with
  | some builtin =>
    match builtin with
    | .globalInvocationId | .workgroupId | .numWorkgroups | .localInvocationId
    | .localInvocationIndex => return bracketed (← c.builtinAttribute builtin)
    | _ => return ""
  | none => return ""

def memberAttribute (struct index : Nat) : Except Fault String := do
  let block ← c.program.getType struct
  match block.members[index]? with
  | none => .error (.internal (.noMember struct index))
  | some member =>
    let type ← c.program.getType member
    let d := c.program.memberDecorations struct index
    match c.plan.model, block.storage with
    | .vertex, .input => c.vertexInputAttribute d index
    | .vertex, .output => c.vertexOutputAttribute d type
    | .fragment, .input => c.fragmentInputAttribute d type
    | .fragment, .output => c.fragmentOutputAttribute d
    | .glCompute, .input => c.computeInputAttribute d
    | _, _ => return ""

end Compiler

end SpirvMetal
