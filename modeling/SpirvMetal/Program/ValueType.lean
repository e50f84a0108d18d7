import SpirvMetal.Store.Arena
import SpirvMetal.Spirv.Enumerant
import SpirvMetal.Program.BaseType

/-!
Types of values. A derived type keeps the shape of the type it wraps; `parent` names that type, and
`baseId` the innermost one that is neither array nor pointer.
-/

namespace SpirvMetal

open Spirv (StorageClass Dim ImageFormat AccessQualifier)

/-- One array dimension. A literal zero is an array whose length is only known when it runs. -/
inductive Dimension
  | literal (count : Nat)
  | spec (constant : Id)
deriving DecidableEq

structure ImageInfo where
  sampledType : Id
  dim : Dim
  depth : Bool
  arrayed : Bool
  multisampled : Bool
  /-- 1 for images used with a sampler, 2 for storage images. -/
  sampled : Nat
  format : ImageFormat
  access : Option AccessQualifier
deriving DecidableEq

structure ValueType where
  base : BaseType
  width : Nat
  components : Nat := 1
  columns : Nat := 1
  /-- Array dimensions, innermost first. -/
  dimensions : List Dimension := []
  pointer : Bool := false
  storage : StorageClass := .generic
  parent : Option Id := none
  baseId : Id := 0
  members : List Id := []
  image : Option ImageInfo := none
deriving DecidableEq

namespace ValueType

def pointerTo (pointee : ValueType) (id : Id) (storage : StorageClass) : ValueType :=
  { pointee with pointer := true, storage, parent := some id }

def arrayOf (element : ValueType) (id : Id) (dimension : Dimension) : ValueType :=
  { element with
    dimensions := element.dimensions ++ [dimension], pointer := false, parent := some id }

def isArray (type : ValueType) : Bool := !type.dimensions.isEmpty

def isStruct (type : ValueType) : Bool := type.base = .struct

def isScalar (type : ValueType) : Bool :=
  type.components = 1 && type.columns = 1 && !type.isArray && !type.isStruct

def isVector (type : ValueType) : Bool :=
  1 < type.components && type.columns = 1 && !type.isArray

def isMatrix (type : ValueType) : Bool := 1 < type.columns && !type.isArray

def isOpaque (type : ValueType) : Bool := type.base.isOpaque

def outer? (type : ValueType) : Option Dimension := type.dimensions.getLast?

def outerLiteral? (type : ValueType) : Option Nat :=
  match type.outer? with
  | some (.literal count) => some count
  | _ => none

def isRuntimeArray (type : ValueType) : Bool := type.outer? = some (.literal 0)

def dim? (type : ValueType) : Option Dim := type.image.map (·.dim)

end ValueType

end SpirvMetal
