import Mathlib.Algebra.Order.BigOperators.Group.List
import Mathlib.Algebra.Order.Field.Basic
import Mathlib.Tactic.FieldSimp
import Mathlib.Tactic.Linarith
import Mathlib.Tactic.Ring

/-!
# Sliding windows and their means

A window keeps the latest of the values that have been added, up to a bound. Its mean stays among
the values, and once the window is full one more value moves it by a fraction only.
-/
namespace SlidingWindow

section Windows

variable {α : Type*} (bound : Nat)

/-- The latest values, as many as the bound allows. -/
def latest (values : List α) : List α := values.drop (values.length - bound)

theorem length_latest (values : List α) :
    (latest bound values).length = min bound values.length := by
  rw [latest, List.length_drop]
  omega

/-- Values that have left the window never matter again. -/
theorem latest_latest_append (values more : List α) :
    latest bound (latest bound values ++ more) = latest bound (values ++ more) := by
  simp only [latest, List.length_append, List.length_drop, List.drop_append, List.drop_drop]
  congr 2 <;> omega

/-- A full window gives up its oldest value for a new one. -/
theorem latest_concat_of_full {bound : Nat} (positive : 0 < bound) {values : List α}
    (full : bound ≤ values.length) (value : α) :
    ∃ oldest, (latest bound values).head? = some oldest ∧
      latest bound values = oldest :: (latest bound values).tail ∧
      latest bound (values ++ [value]) = (latest bound values).tail ++ [value] := by
  have some : latest bound values ≠ [] := by
    rw [← List.length_pos_iff, length_latest]
    omega
  obtain ⟨oldest, rest, split⟩ := List.exists_cons_of_ne_nil some
  refine ⟨oldest, by rw [split]; rfl, by rw [split]; rfl, ?_⟩
  have size := length_latest bound values
  rw [split, List.length_cons] at size
  rw [← latest_latest_append, split, latest, List.length_append, List.length_cons,
    List.length_singleton]
  -- The new value makes the window too long by one.
  have one : rest.length + 1 + 1 - bound = 1 := by omega
  rw [one]
  rfl

end Windows

section Means

variable {K : Type*} [Field K]

def mean (values : List K) : K := values.sum / values.length

/-- Replacing the oldest value moves the mean by a fraction of the difference. -/
theorem mean_replace (oldest value : K) (rest : List K) :
    mean (rest ++ [value]) =
      mean (oldest :: rest) + (value - oldest) / (rest.length + 1 : Nat) := by
  simp only [mean, List.sum_append, List.sum_cons, List.sum_nil, List.length_append,
    List.length_cons, List.length_nil]
  rw [← add_div]
  congr 1
  ring

variable [LinearOrder K] [IsStrictOrderedRing K]

/-- The mean lies between all lower and all upper bounds of the values. -/
theorem mean_between {low high : K} {values : List K} (some : values ≠ [])
    (between : ∀ value ∈ values, low ≤ value ∧ value ≤ high) :
    low ≤ mean values ∧ mean values ≤ high := by
  have positive : (0 : K) < values.length := by
    exact_mod_cast List.length_pos_iff.mpr some
  have lower := List.card_nsmul_le_sum values low fun value member => (between value member).1
  have upper := List.sum_le_card_nsmul values high fun value member => (between value member).2
  rw [nsmul_eq_mul] at lower upper
  constructor
  · rw [mean, le_div_iff₀ positive]
    linarith
  · rw [mean, div_le_iff₀ positive]
    linarith

end Means

end SlidingWindow
