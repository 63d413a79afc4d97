/-!
# Sorting

A stable sort by insertion. It recurses on the list alone, so that what it makes of a given list can
be evaluated in a proof.
-/

namespace CodeGraph.Sorting

variable {α : Type}

/-- Put an item in front of the first one that it may come before. -/
def insert (le : α → α → Bool) (x : α) : List α → List α
  | [] => [x]
  | y :: ys => if le x y then x :: y :: ys else y :: insert le x ys

/-- The items in order; those that are tied stay as they were. -/
@[irreducible]
def sort (le : α → α → Bool) (xs : List α) : List α :=
  xs.foldr (insert le) []

@[simp]
theorem sort_nil (le : α → α → Bool) : sort le [] = [] := by
  rw [sort, List.foldr_nil]

theorem sort_cons (le : α → α → Bool) (x : α) (xs : List α) :
    sort le (x :: xs) = insert le x (sort le xs) := by
  rw [sort, sort, List.foldr_cons]

end CodeGraph.Sorting
