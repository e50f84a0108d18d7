import SpirvMetal.Options.Basic
import SpirvMetal.Text.Json

/-!
Options from JSON text.

The text is read once from the left, and the first fault decides the error. A record is written as
an object, or as an array of its fields in their listed order; a field that is left out keeps its
default unless it is required, and a key that names no field is passed over.
-/

namespace SpirvMetal

open Spirv (ExecutionModel)

inductive OptionsError
  /-- The text is no JSON, or a value is not of the kind its field asks for. -/
  | malformed
  | unknownStage (name : String)
deriving DecidableEq

namespace OptionsError

def message? : OptionsError → Option String
  | .malformed => none
  | .unknownStage name => some s!"unknown stage '{name}'"

end OptionsError

namespace Options

abbrev Reader := StateT (List Char) (Except OptionsError)

instance : MonadLift Json.Scan Reader where
  monadLift scan := fun text =>
    match scan text with
    | some result => .ok result
    | none => .error .malformed

structure Field (α : Type) where
  name : String
  required : Bool := false
  read : α → Reader α

def field {α β : Type} (name : String) (value : Reader β) (set : α → β → α) : Field α :=
  { name, read := fun record => do return set record (← value) }

def requiredField {α β : Type} (name : String) (value : Reader β) (set : α → β → α) : Field α :=
  { field name value set with required := true }

def positional {α : Type} : List (Field α) → Bool → α → Reader α
  | [], first, record => do
    if ← Json.hasMore ']' first then throw .malformed
    return record
  | field :: fields, first, record => do
    if ← Json.hasMore ']' first then
      let record ← field.read record
      positional fields false record
    else if (field :: fields).any (·.required) then throw .malformed
    else return record

/-- The rest of a record written as an object. `seen` lists the fields found so far, none of which
may come again. Every step takes a character. -/
def named {α : Type} (fields : List (Field α)) : Nat → Bool → List String → α → Reader α
  | 0, _, _, _ => throw .malformed
  | fuel + 1, first, seen, record => do
    if ← Json.hasMore '}' first then
      let key ← Json.string
      match fields.find? (·.name = key) with
      | some field =>
        if seen.contains key then throw .malformed
        Json.mark ':'
        let record ← field.read record
        named fields fuel false (key :: seen) record
      | none =>
        Json.mark ':'
        Json.skipValue
        named fields fuel false seen record
    else if fields.any fun field => field.required && !seen.contains field.name then
      throw .malformed
    else return record

def record {α : Type} (fields : List (Field α)) (initial : α) : Reader α := do
  if (← Json.peek) = '[' then
    Json.take '['
    positional fields true initial
  else
    Json.take '\x7b'
    named fields (← get).length true [] initial

/-- The rest of an array. Every step takes a character. -/
def items {α : Type} (item : Reader α) : Nat → Bool → Reader (List α)
  | 0, _ => throw .malformed
  | fuel + 1, first => do
    if ← Json.hasMore ']' first then
      let head ← item
      return head :: (← items item fuel false)
    else return []

def array {α : Type} (item : Reader α) : Reader (List α) := do
  Json.mark '['
  items item (← get).length true

/-- One of the names given, as a string or as an object whose one key is the name, with no value. -/
def choice {α : Type} (names : List (String × α)) : Reader α := do
  let named (name : String) : Reader α :=
    match names.find? (·.1 = name) with
    | some (_, value) => pure value
    | none => throw .malformed
  if (← Json.peek) ≠ '\x7b' then return ← named (← Json.string)
  Json.take '\x7b'
  let value ← named (← Json.string)
  Json.mark ':'
  Json.skipBlanks
  Json.takeAll "null"
  Json.mark '\x7d'
  return value

def word : Reader Nat := Json.word

def boolean : Reader Bool := Json.boolean

def platformName : Reader Platform := choice [("ios", .ios), ("macos", .macos)]

def formatName : Reader VertexFormat :=
  choice [("other", .other), ("uint8", .uint8), ("uint16", .uint16)]

def stageOfName? : String → Option ExecutionModel
  | "vertex" => some .vertex
  | "fragment" => some .fragment
  | "compute" | "kernel" | "glcompute" => some .glCompute
  | "tesscontrol" => some .tessellationControl
  | "tessevaluation" => some .tessellationEvaluation
  | _ => none

def stageName : Reader ExecutionModel := do
  let name := (← Json.string).map Char.toLower
  match stageOfName? name with
  | some model => return model
  | none => throw (.unknownStage name)

def vertexAttributeFields : List (Field VertexAttribute) :=
  [field "location" word ({ · with location := · }),
   field "msl_buffer" word ({ · with buffer := · }),
   field "msl_offset" word ({ · with offset := · }),
   field "msl_stride" word ({ · with stride := · }),
   field "per_instance" boolean ({ · with perInstance := · }),
   field "format" formatName ({ · with format := · })]

def resourceBindingFields : List (Field ResourceBinding) :=
  [requiredField "stage" stageName ({ · with stage := · }),
   requiredField "desc_set" word ({ · with descriptorSet := · }),
   requiredField "binding" word ({ · with binding := · }),
   field "msl_buffer" word ({ · with buffer := · }),
   field "msl_texture" word ({ · with texture := · }),
   field "msl_sampler" word ({ · with sampler := · })]

def vertexAttribute : Reader VertexAttribute := record vertexAttributeFields {}

def resourceBinding : Reader ResourceBinding :=
  record resourceBindingFields { stage := .vertex, descriptorSet := 0, binding := 0 }

def fields : List (Field Options) :=
  [field "platform" platformName ({ · with platform := · }),
   field "msl_version" word ({ · with version := · }),
   field "texel_buffer_texture_width" word ({ · with texelBufferWidth := · }),
   field "aux_buffer_index" word ({ · with auxBufferIndex := · }),
   field "shader_output_buffer_index" word ({ · with outputBufferIndex := · }),
   field "indirect_params_buffer_index" word ({ · with indirectParamsBufferIndex := · }),
   field "enable_point_size_builtin" boolean ({ · with enablePointSize := · }),
   field "disable_rasterization" boolean ({ · with disableRasterization := · }),
   field "capture_output_to_buffer" boolean ({ · with captureOutput := · }),
   field "swizzle_texture_samples" boolean ({ · with swizzleTextures := · }),
   field "pad_fragment_output_components" boolean ({ · with padFragmentOutput := · }),
   field "fixup_clipspace" boolean ({ · with fixupClipSpace := · }),
   field "flip_vert_y" boolean ({ · with flipVertexY := · }),
   field "vertex_attributes" (array vertexAttribute) ({ · with vertexAttributes := · }),
   field "resource_bindings" (array resourceBinding) ({ · with resourceBindings := · })]

def ofJson (text : String) : Except OptionsError Options := do
  let (options, rest) ← (record fields {}).run text.toList
  if rest.all Json.isBlank then return options else throw .malformed

end Options

end SpirvMetal
