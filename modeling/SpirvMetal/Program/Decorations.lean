import SpirvMetal.Store.Arena
import SpirvMetal.Store.Ascending
import SpirvMetal.Spirv.Decoration
import SpirvMetal.Spirv.BuiltIn

/-!
Names and decorations of ids and of struct members.
-/

namespace SpirvMetal

open Spirv (Decoration BuiltIn)

/-- Which decorations are set, and a field for the argument of each one that has an argument. A field
counts only while its decoration is set. -/
structure Decorations where
  name : String := ""
  flags : List Decoration := []
  builtin? : Option BuiltIn := none
  location : Nat := 0
  component : Nat := 0
  index : Nat := 0
  binding : Nat := 0
  descriptorSet : Nat := 0
  offset : Nat := 0
  arrayStride : Nat := 0
  matrixStride : Nat := 0
  specId : Nat := 0
  inputAttachmentIndex : Nat := 0
  packed : Bool := false
  /-- Text that stands in for the name, such as a member of an interface struct. -/
  standIn : Option String := none
  padding : Nat := 0

instance : Inhabited Decorations := ⟨{}⟩

namespace Decorations

def has (d : Decorations) (decoration : Decoration) : Bool := decoration ∈ d.flags

/-- The argument of a decoration, 1 for those without; 0 when it is not set. A builtin that is not
known counts as 0. -/
def get (d : Decorations) (decoration : Decoration) : Nat :=
  if !d.has decoration then 0
  else
    match decoration with
    | .builtIn => (d.builtin?.map BuiltIn.code).getD 0
    | .location => d.location
    | .component => d.component
    | .index => d.index
    | .binding => d.binding
    | .descriptorSet => d.descriptorSet
    | .offset => d.offset
    | .arrayStride => d.arrayStride
    | .matrixStride => d.matrixStride
    | .specId => d.specId
    | .inputAttachmentIndex => d.inputAttachmentIndex
    | _ => 1

def set (d : Decorations) (decoration : Decoration) (value : Nat) : Decorations :=
  let store (kept : Decoration) (argument : Nat) := if decoration = kept then value else argument
  { d with
    flags := d.flags.insert decoration
    builtin? := if decoration = .builtIn then BuiltIn.ofCode? value else d.builtin?
    location := store .location d.location
    component := store .component d.component
    index := store .index d.index
    binding := store .binding d.binding
    descriptorSet := store .descriptorSet d.descriptorSet
    offset := store .offset d.offset
    arrayStride := store .arrayStride d.arrayStride
    matrixStride := store .matrixStride d.matrixStride
    specId := store .specId d.specId
    inputAttachmentIndex := store .inputAttachmentIndex d.inputAttachmentIndex }

def unset (d : Decorations) (decoration : Decoration) : Decorations :=
  { d with
    flags := d.flags.filter (· ≠ decoration)
    builtin? := if decoration = .builtIn then none else d.builtin? }

def interfaceDecorations : List Decoration :=
  [.location, .component, .index, .builtIn, .flat, .noPerspective, .centroid, .sample]

def inheritInterface (d other : Decorations) : Decorations :=
  interfaceDecorations.foldl
    (fun d decoration =>
      if other.has decoration then d.set decoration (other.get decoration) else d) d

def listed (d : Decorations) : List (Decoration × Nat) :=
  (sortBy (fun a b => a.code ≤ b.code) d.flags).map fun decoration =>
    (decoration, d.get decoration)

end Decorations

structure Notes where
  own : Decorations := {}
  members : List Decorations := []

instance : Inhabited Notes := ⟨{}⟩

namespace Notes

def member? (notes : Notes) (index : Nat) : Option Decorations := notes.members[index]?

def modifyMember (notes : Notes) (index : Nat) (change : Decorations → Decorations) : Notes :=
  let missing := List.replicate (index + 1 - notes.members.length) ({} : Decorations)
  { notes with members := (notes.members ++ missing).modify index change }

end Notes

end SpirvMetal
