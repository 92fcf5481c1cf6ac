/-
# Partial assignments

A partial function that gains an entry: what its entries are, and when it still
tells them apart.
-/

import Mathlib.Logic.Function.Basic

namespace Pidprobe
namespace Assignment

open Function (update)

variable {ι α β : Type*} [DecidableEq ι] {f : ι → Option α} {j k : ι} {a b : α}

/-- An entry is the new one, or one of the others: a place holds what was last put there. -/
theorem update_eq_some :
    update f k (some a) j = some b ↔ (j = k ∧ a = b) ∨ (j ≠ k ∧ f j = some b) := by
  rcases eq_or_ne j k with rfl | hne
  · simp
  · simp [hne]

/-- A free place takes an entry, and the others stay: nothing is overwritten. -/
theorem update_mono (hfree : f k = none) (h : f j = some b) :
    update f k (some a) j = some b := by
  refine update_eq_some.2 (.inr ⟨?_, h⟩)
  rintro rfl
  rw [hfree] at h
  cases h

/-- Entries told apart by `g` still are with one whose image is new, as a fresh name is. -/
theorem update_inj {g : α → β} (hnew : ∀ j b, f j = some b → g b ≠ g a)
    (h : ∀ i j b c, f i = some b → f j = some c → g b = g c → i = j) :
    ∀ i j b c, update f k (some a) i = some b → update f k (some a) j = some c →
      g b = g c → i = j := by
  intro i j b c hi hj heq
  rcases update_eq_some.1 hi with ⟨rfl, rfl⟩ | ⟨-, hold⟩ <;>
    rcases update_eq_some.1 hj with ⟨rfl, rfl⟩ | ⟨-, hold'⟩
  · rfl
  · exact absurd heq.symm (hnew j c hold')
  · exact absurd heq (hnew i b hold)
  · exact h i j b c hold hold' heq

end Assignment
end Pidprobe
