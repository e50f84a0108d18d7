/-!
Sets kept as strictly ascending lists, and sorting.
-/

namespace SpirvMetal

def insertAscending {α : Type} [DecidableEq α] (before : α → α → Bool) (x : α) : List α → List α
  | [] => [x]
  | y :: rest =>
    if x = y then y :: rest
    else if before x y then x :: y :: rest
    else y :: insertAscending before x rest

theorem mem_insertAscending {α : Type} [DecidableEq α] {before : α → α → Bool} {x y : α}
    {list : List α} : y ∈ insertAscending before x list ↔ y = x ∨ y ∈ list := by
  induction list with
  | nil => simp [insertAscending]
  | cons z rest ih =>
    simp only [insertAscending]
    split
    · rename_i same
      subst same
      simp
    · split
      · simp
      · simp only [List.mem_cons, ih]
        grind

def insertBy {α : Type} (before : α → α → Bool) (x : α) : List α → List α
  | [] => [x]
  | y :: rest => if before x y then x :: y :: rest else y :: insertBy before x rest

def sortBy {α : Type} (before : α → α → Bool) (list : List α) : List α :=
  list.foldr (insertBy before) []

end SpirvMetal
