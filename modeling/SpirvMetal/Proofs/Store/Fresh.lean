import Mathlib.Data.List.Basic
import SpirvMetal.Store.Arena

/-!
Ids that an arena hands out. Whatever is reserved and stored, a reserved block is above all ids that
were in use before.
-/

namespace SpirvMetal

variable {α κ : Type}

theorem Assoc.keys_insert [DecidableEq κ] (map : Assoc κ α) (key : κ) (value : α) :
    (map.insert key value).keys = if key ∈ map.keys then map.keys else map.keys ++ [key] := by
  obtain ⟨entries⟩ := map
  simp only [insert, keys]
  induction entries with
  | nil => rfl
  | cons entry rest ih =>
    by_cases here : key = entry.1
    · simp [write, here]
    · by_cases known : key ∈ rest.map (·.1) <;> simp [write, here, ih, known]

namespace Arena

inductive Action (α : Type)
  | reserve (count : Nat)
  | set (id : Id) (item : α)

def run (arena : Arena α) : List (Action α) → Arena α
  | [] => arena
  | .reserve count :: rest => (arena.reserve count).2.run rest
  | .set id item :: rest => (arena.set id item).run rest

/-- The blocks of ids that the reservations return. -/
def blocks (arena : Arena α) : List (Action α) → List (List Id)
  | [] => []
  | .reserve count :: rest =>
    List.range' (arena.reserve count).1 count :: (arena.reserve count).2.blocks rest
  | .set id item :: rest => (arena.set id item).blocks rest

def stores : List (Action α) → List (Id × α)
  | [] => []
  | .reserve _ :: rest => stores rest
  | .set id item :: rest => (id, item) :: stores rest

/-- What an arena is like after some items were stored and some blocks reserved. -/
structure Holds (arena : Arena α) (stored : List (Id × α)) (reserved : List (List Id)) : Prop where
  below : ∀ id, id ∈ stored.map (·.1) ∨ id ∈ reserved.flatten → id < arena.bound
  apart : reserved.Pairwise List.Disjoint
  last : ∀ id, arena.get? id = stored.reverse.lookup id
  order : arena.toList.map (·.1) = (stored.map (·.1)).eraseDups

variable {arena : Arena α} {stored : List (Id × α)} {reserved : List (List Id)}

theorem bound_le_set (arena : Arena α) (id : Id) (item : α) :
    arena.bound ≤ (arena.set id item).bound ∧ id < (arena.set id item).bound := by
  unfold set
  grind

theorem bound_le_run (arena : Arena α) (actions : List (Action α)) :
    arena.bound ≤ (arena.run actions).bound := by
  fun_induction run arena actions with
  | case1 => exact Nat.le_refl _
  | case2 arena count rest ih => exact Nat.le_trans (Nat.le_add_right _ count) ih
  | case3 arena id item rest ih => exact Nat.le_trans (arena.bound_le_set id item).1 ih

theorem Holds.reserve (holds : arena.Holds stored reserved) (count : Nat) :
    (arena.reserve count).2.Holds stored
      (reserved ++ [List.range' (arena.reserve count).1 count]) where
  below id used := by
    have grown : arena.bound ≤ arena.bound + count := Nat.le_add_right ..
    rw [List.flatten_concat, List.mem_append, ← or_assoc] at used
    rcases used with before | new
    · exact Nat.lt_of_lt_of_le (holds.below id before) grown
    · exact (List.mem_range'_1.mp new).2
  apart := by
    refine List.pairwise_append.mpr ⟨holds.apart, List.pairwise_singleton .., ?_⟩
    refine fun block known => List.forall_mem_singleton.mpr fun id inBlock new => ?_
    have old := holds.below id (.inr (List.mem_flatten_of_mem known inBlock))
    exact Nat.not_lt.mpr (List.mem_range'_1.mp new).1 old
  last := holds.last
  order := holds.order

theorem Holds.set (holds : arena.Holds stored reserved) (id : Id) (item : α) :
    (arena.set id item).Holds (stored ++ [(id, item)]) reserved where
  below other used := by
    have grown := arena.bound_le_set id item
    have before := holds.below other
    simp at used before
    grind
  apart := holds.apart
  last other := by
    have before : arena.items.find? other = _ := holds.last other
    by_cases same : other = id <;>
      simp [get?, Arena.set, Assoc.find?_insert, before, List.lookup_cons, same, beq_false_of_ne]
  order := by
    have before : arena.items.keys = _ := holds.order
    have keys : (arena.set id item).toList.map (·.1) = _ := arena.items.keys_insert id item
    rw [keys, before, List.map_append, List.eraseDups_append]
    by_cases known : id ∈ stored.map (·.1) <;> simp [List.removeAll, known, List.eraseDups_cons]

theorem Holds.run (holds : arena.Holds stored reserved) (actions : List (Action α)) :
    (arena.run actions).Holds (stored ++ stores actions) (reserved ++ arena.blocks actions) := by
  fun_induction Arena.run arena actions generalizing stored reserved with
  | case1 => simpa [stores, blocks] using holds
  | case2 arena count rest ih => simpa [stores, blocks] using ih (holds.reserve count)
  | case3 arena id item rest ih => simpa [stores, blocks] using ih (holds.set id item)

theorem run_holds (bound : Nat) (actions later : List (Action α)) :
    let arena := run { bound } actions
    arena.Holds (stores actions) (blocks { bound } actions) ∧
      arena.bound ≤ (arena.run later).bound ∧ ∀ count, (arena.reserve count).1 = arena.bound := by
  have start : ({ bound } : Arena α).Holds [] [] :=
    ⟨by simp, .nil, fun _ => rfl, rfl⟩
  exact ⟨start.run actions, bound_le_run _ later, fun _ => rfl⟩

end Arena

end SpirvMetal
