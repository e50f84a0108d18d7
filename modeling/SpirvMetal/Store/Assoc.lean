/-!
Maps that remember the order of first insertion. Writing a key that is present replaces its value
in place, so the order never changes afterwards.
-/

namespace SpirvMetal

/-- A finite map, iterated in the order in which its keys were first written. -/
structure Assoc (κ α : Type) where
  entries : List (κ × α) := []

namespace Assoc

variable {κ α : Type} [DecidableEq κ]

instance : EmptyCollection (Assoc κ α) := ⟨{}⟩

instance : Inhabited (Assoc κ α) := ⟨∅⟩

def read (key : κ) : List (κ × α) → Option α
  | [] => none
  | (other, value) :: rest => if key = other then some value else read key rest

def find? (map : Assoc κ α) (key : κ) : Option α := read key map.entries

def contains (map : Assoc κ α) (key : κ) : Bool := (map.find? key).isSome

def write (key : κ) (value : α) : List (κ × α) → List (κ × α)
  | [] => [(key, value)]
  | (other, kept) :: rest =>
    if key = other then (other, value) :: rest else (other, kept) :: write key value rest

def insert (map : Assoc κ α) (key : κ) (value : α) : Assoc κ α := ⟨write key value map.entries⟩

def keys (map : Assoc κ α) : List κ := map.entries.map (·.1)

def isEmpty (map : Assoc κ α) : Bool := map.entries.isEmpty

def size (map : Assoc κ α) : Nat := map.entries.length

@[simp] theorem find?_empty (key : κ) : (∅ : Assoc κ α).find? key = none := rfl

theorem read_write (key other : κ) (value : α) (entries : List (κ × α)) :
    read other (write key value entries) =
      if other = key then some value else read other entries := by
  induction entries with
  | nil => by_cases same : other = key <;> simp [write, read, same]
  | cons entry rest ih =>
    obtain ⟨first, kept⟩ := entry
    by_cases here : key = first
    · subst first
      by_cases same : other = key <;> simp [write, read, same]
    · by_cases found : other = first
      · subst other
        have differ : ¬ first = key := fun equal => here equal.symm
        simp [write, read, here, differ]
      · simp [write, read, here, found, ih]

theorem find?_insert (map : Assoc κ α) (key other : κ) (value : α) :
    (map.insert key value).find? other = if other = key then some value else map.find? other :=
  read_write key other value map.entries

end Assoc

end SpirvMetal
