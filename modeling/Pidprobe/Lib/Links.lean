/-
# Links that come to an end

Objects that each have at most one object behind them, every chain of them
finite.  `chain` is what is found by following the links; it repeats nothing, and
from any object on it is that object's chain.
-/

import Mathlib.Data.List.Nodup

namespace Pidprobe

/-- A link from an object to the one behind it, and a rank that goes down along it, so that
no chain is endless. -/
structure Links (φ : Type*) where
  back : φ → Option φ
  /-- What a link goes down in. -/
  rank : φ → ℕ
  rank_back : ∀ {f g}, back f = some g → rank g < rank f

namespace Links

variable {φ : Type*} (l : Links φ)

/-- An object and those behind it, in order, up to the one with nothing behind it. -/
def chain (f : φ) : List φ :=
  match h : l.back f with
  | none => [f]
  | some g =>
    have := l.rank_back h
    f :: chain g
termination_by l.rank f

variable {l}

/-- The last object is its own chain. -/
theorem chain_of_none {f : φ} (h : l.back f = none) : l.chain f = [f] := by
  rw [chain]
  split
  · rfl
  · simp_all

/-- Any other begins the chain of the one behind it. -/
theorem chain_of_some {f g : φ} (h : l.back f = some g) : l.chain f = f :: l.chain g := by
  rw [chain]
  split
  · simp_all
  · simp_all

theorem exists_chain_eq_cons (f : φ) : ∃ rest, l.chain f = f :: rest := by
  rcases h : l.back f with _ | g
  · exact ⟨[], chain_of_none h⟩
  · exact ⟨l.chain g, chain_of_some h⟩

/-- What is behind an object, by induction along the links from the last one on. -/
@[elab_as_elim]
theorem chain_induction {motive : φ → Prop} (last : ∀ f, l.back f = none → motive f)
    (link : ∀ f g, l.back f = some g → motive g → motive f) (f : φ) : motive f :=
  match h : l.back f with
  | none => last f h
  | some g =>
    have := l.rank_back h
    link f g h (chain_induction last link g)
termination_by l.rank f

/-- The rank goes down along a chain. -/
theorem rank_le_of_mem_chain {f g : φ} (h : g ∈ l.chain f) : l.rank g ≤ l.rank f := by
  induction f using chain_induction (l := l) with
  | last f hf =>
    rw [chain_of_none hf] at h
    exact List.mem_singleton.1 h ▸ Nat.le_refl _
  | link f f' hf ih =>
    rw [chain_of_some hf] at h
    rcases List.mem_cons.1 h with rfl | h
    · exact Nat.le_refl _
    · exact Nat.le_trans (ih h) (Nat.le_of_lt (l.rank_back hf))

/-- A chain repeats nothing, as the rank goes down. -/
theorem chain_nodup (f : φ) : (l.chain f).Nodup := by
  induction f using chain_induction (l := l) with
  | last f hf =>
    rw [chain_of_none hf]
    exact List.nodup_singleton f
  | link f g hf ih =>
    rw [chain_of_some hf]
    refine List.nodup_cons.2 ⟨fun h => ?_, ih⟩
    exact absurd (rank_le_of_mem_chain h) (Nat.not_le.2 (l.rank_back hf))

/-- From an object on, a chain is the object's own, whatever is in front of it. -/
theorem chain_of_chain_eq_append {f g : φ} {before after : List φ}
    (h : l.chain f = before ++ g :: after) : l.chain g = g :: after := by
  induction before generalizing f with
  | nil =>
    obtain ⟨rest, hrest⟩ := l.exists_chain_eq_cons f
    obtain ⟨rfl, -⟩ := List.cons_eq_cons.1 (hrest.symm.trans h)
    exact h
  | cons f' before ih =>
    rcases hf : l.back f with _ | f''
    · rw [chain_of_none hf] at h
      simp at h
    · rw [chain_of_some hf, List.cons_append] at h
      exact ih (List.cons_eq_cons.1 h).2

/-- The object behind is the next of the chain, and none where the chain ends. -/
theorem back_eq_of_chain {f : φ} {after : List φ} (h : l.chain f = f :: after) :
    l.back f = after.head? := by
  rcases hf : l.back f with _ | g
  · rw [chain_of_none hf] at h
    rw [← (List.cons_eq_cons.1 h).2, List.head?_nil]
  · rw [chain_of_some hf] at h
    obtain ⟨rest, hrest⟩ := l.exists_chain_eq_cons g
    rw [← (List.cons_eq_cons.1 h).2, hrest, List.head?_cons]

end Links
end Pidprobe
