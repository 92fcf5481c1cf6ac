/-
# Work on a schedule

Piece `k` of some work is due at `due k`, costs `cost k`, and starts when it is
due or, where the piece before it takes longer, right behind that one.  The start
is a running maximum (`starts_le_iff`): every earlier due time, plus what the work
since then cost, and none of them lies behind it.  A piece starts when it is due
exactly where no backlog reaches it (`starts_eq_due_iff`).
-/

import Mathlib.Algebra.BigOperators.Intervals
import Mathlib.Algebra.Order.Group.Defs

namespace Pidprobe
namespace Backlog

variable {α : Type*} [AddCommGroup α] [LinearOrder α] [IsOrderedAddMonoid α]
  {due cost : ℕ → α} {k : ℕ} {b : α}

/-- When the pieces start: each one when it is due, or when the one before it is done. -/
def starts (due cost : ℕ → α) : ℕ → α
  | 0 => due 0
  | k + 1 => max (due (k + 1)) (starts due cost k + cost k)

omit [IsOrderedAddMonoid α] in
/-- No piece starts early, whatever the pieces cost. -/
theorem due_le_starts (due cost : ℕ → α) (k : ℕ) : due k ≤ starts due cost k := by
  cases k with
  | zero => exact le_rfl
  | succ k => exact le_max_left _ _

/-- **A start is a running maximum**, over the pieces up to this one, of when a piece was
due and what the work from it on has cost. -/
theorem starts_le_iff :
    starts due cost k ≤ b ↔ ∀ j ≤ k, due j + ∑ i ∈ Finset.Ico j k, cost i ≤ b := by
  induction k generalizing b with
  | zero => simp [starts]
  | succ k ih =>
    have hcost : ∀ j ≤ k, (due j + ∑ i ∈ Finset.Ico j k, cost i ≤ b - cost k ↔
        due j + ∑ i ∈ Finset.Ico j (k + 1), cost i ≤ b) := by
      intro j hj
      rw [le_sub_iff_add_le, Finset.sum_Ico_succ_top hj, add_assoc]
    rw [starts, max_le_iff, ← le_sub_iff_add_le, ih]
    constructor
    · rintro ⟨hdue, hbefore⟩ j hj
      rcases hj.lt_or_eq with hj | rfl
      · have hj := Nat.lt_succ_iff.1 hj
        exact (hcost j hj).1 (hbefore j hj)
      · simpa using hdue
    · intro h
      refine ⟨by simpa using h (k + 1) le_rfl, fun j hj => ?_⟩
      exact (hcost j hj).2 (h j (Nat.le_succ_of_le hj))

/-- A piece starts when it is due where the work before it was done by then, counted from
any of the pieces. -/
theorem starts_eq_due_iff : starts due cost k = due k ↔
    ∀ j < k, due j + ∑ i ∈ Finset.Ico j k, cost i ≤ due k := by
  rw [le_antisymm_iff, and_iff_left (due_le_starts due cost k), starts_le_iff]
  constructor
  · exact fun h j hj => h j hj.le
  · intro h j hj
    rcases hj.lt_or_eq with hj | rfl
    · exact h j hj
    · simp

end Backlog
end Pidprobe
