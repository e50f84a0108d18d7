import SpirvMetal.Store.Assoc

/-!
Id-addressed storage. A counter hands out blocks of fresh ids; items may also be stored under ids
that were chosen elsewhere, which moves the counter past them. The counter is a natural number: no
module is taken to need 2^32 ids.
-/

namespace SpirvMetal

/-- An id of a module, or a fresh one above all of its ids. -/
abbrev Id := Nat

abbrev IdMap (α : Type) := Assoc Id α

structure Arena (α : Type) where
  bound : Nat
  items : IdMap α := ∅

namespace Arena

variable {α : Type}

def reserve (arena : Arena α) (count : Nat) : Id × Arena α :=
  (arena.bound, { arena with bound := arena.bound + count })

def set (arena : Arena α) (id : Id) (item : α) : Arena α where
  bound := if arena.bound ≤ id then id + 1 else arena.bound
  items := arena.items.insert id item

def get? (arena : Arena α) (id : Id) : Option α := arena.items.find? id

def toList (arena : Arena α) : List (Id × α) := arena.items.entries

end Arena

end SpirvMetal
