import Mathlib.Order.Lattice

/-!
# The greatest of a list

The greatest element of a list and a start, as a fold makes it.
-/

namespace Lib

variable {α : Type} [LinearOrder α]

lemma le_foldl_max {elements : List α} {start n : α} (within : n ∈ elements ∨ n ≤ start) : n ≤ elements.foldl max start := by
  induction elements generalizing start with
  | nil => exact within.resolve_left List.not_mem_nil
  | cons first elements ih =>
    refine ih ?_
    rcases within with within | less
    · rcases List.mem_cons.1 within with rfl | within
      · exact .inr (le_max_right _ _)
      · exact .inl within
    · exact .inr (le_trans less (le_max_left _ _))

lemma foldl_max_le {elements : List α} {start bound : α} (all : ∀ n ∈ elements, n ≤ bound) (less : start ≤ bound) :
    elements.foldl max start ≤ bound := by
  induction elements generalizing start with
  | nil => exact less
  | cons first elements ih =>
    rw [List.forall_mem_cons] at all
    exact ih all.2 (max_le less all.1)

end Lib
