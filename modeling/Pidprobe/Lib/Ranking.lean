/-
# The first elements of a ranking

`top n key xs` are the `n` elements of `xs` with the largest keys, in the order
of decreasing keys, elements of one key in the order they had: a stable sort that
is cut off.  What is cut off has a key no larger than any that is kept, and no
larger than the `cutoff`, the least key of a ranking that is full.
-/

import Mathlib.Data.List.Sort
import Mathlib.Order.BoundedOrder.Basic
import Mathlib.Order.MinMax

namespace Pidprobe
namespace Ranking

variable {α β κ : Type*} [LinearOrder κ] {key : α → κ} {n : ℕ} {xs : List α} {x y : α}

/-- The elements in the order of decreasing keys; those of one key keep their order. -/
def ranked (key : α → κ) (xs : List α) : List α := xs.insertionSort fun a b => key b ≤ key a

/-- The first `n` of them, or all where there are fewer. -/
def top (n : ℕ) (key : α → κ) (xs : List α) : List α := (ranked key xs).take n

theorem mem_of_mem_top (h : x ∈ top n key xs) : x ∈ xs :=
  (List.mem_insertionSort _).1 (List.mem_of_mem_take h)

/-- What is apart in the list stays apart in the ranking: nothing is listed twice. -/
theorem nodup_map_top {f : α → β} (h : (xs.map f).Nodup) : ((top n key xs).map f).Nodup := by
  refine List.Nodup.sublist ((List.take_sublist n _).map f) ?_
  exact (((List.perm_insertionSort _ xs).map f).nodup_iff).2 h

/-- A ranking goes down in its keys. -/
theorem pairwise_ranked (key : α → κ) (xs : List α) :
    (ranked key xs).Pairwise fun a b => key b ≤ key a := by
  have htotal : Std.Total fun a b : α => key b ≤ key a := ⟨fun a b => le_total (key b) (key a)⟩
  have htrans : IsTrans α fun a b => key b ≤ key a := ⟨fun _ _ _ hab hbc => hbc.trans hab⟩
  exact List.pairwise_insertionSort _ xs

/-- What is not among the first is behind them. -/
theorem mem_drop_of_notMem (hx : x ∈ xs) (h : x ∉ top n key xs) : x ∈ (ranked key xs).drop n := by
  have hmem : x ∈ ranked key xs := (List.mem_insertionSort _).2 hx
  rw [← List.take_append_drop n (ranked key xs)] at hmem
  exact (List.mem_append.1 hmem).resolve_left h

/-- **What is cut off ranks below what is kept**, or level with it. -/
theorem key_le_of_notMem (hx : x ∈ xs) (h : x ∉ top n key xs) (hy : y ∈ top n key xs) :
    key x ≤ key y := by
  have hsorted := pairwise_ranked key xs
  rw [← List.take_append_drop n (ranked key xs), List.pairwise_append] at hsorted
  exact hsorted.2.2 y hy x (mem_drop_of_notMem hx h)

/-- Where something is cut off, the ranking is full: it has all `n` places taken. -/
theorem length_top (hx : x ∈ xs) (h : x ∉ top n key xs) : (top n key xs).length = n := by
  have hdrop : 0 < ((ranked key xs).drop n).length :=
    List.length_pos_of_mem (mem_drop_of_notMem hx h)
  rw [List.length_drop] at hdrop
  rw [top, List.length_take]
  omega

variable [OrderBot κ]

/-- The least key of a full ranking, and the bottom where it is not full and cuts nothing
off. -/
def cutoff (n : ℕ) (key : α → κ) (xs : List α) : κ :=
  if (top n key xs).length = n then ((top n key xs).map key).min?.getD ⊥ else ⊥

/-- What is cut off has a key up to the cutoff, so the cutoff bounds what was not seen. -/
theorem key_le_cutoff (hn : 1 ≤ n) (hx : x ∈ xs) (h : x ∉ top n key xs) :
    key x ≤ cutoff n key xs := by
  have hchoice : Std.MinEqOr κ := ⟨min_choice⟩
  have hlen := length_top hx h
  rw [cutoff, if_pos hlen]
  rcases hmin : ((top n key xs).map key).min? with _ | m
  · rw [List.min?_eq_none_iff, List.map_eq_nil_iff] at hmin
    rw [hmin, List.length_nil] at hlen
    omega
  · obtain ⟨y, hy, rfl⟩ := List.mem_map.1 (List.min?_mem hmin)
    exact key_le_of_notMem hx h hy

/-- What is kept has a key from the cutoff on. -/
theorem cutoff_le_key (hx : x ∈ top n key xs) : cutoff n key xs ≤ key x := by
  have hchoice : Std.MinEqOr κ := ⟨min_choice⟩
  unfold cutoff
  split_ifs
  · rcases hmin : ((top n key xs).map key).min? with _ | m
    · exact bot_le
    · exact (List.min?_eq_some_iff.1 hmin).2 _ (List.mem_map_of_mem hx)
  · exact bot_le

end Ranking
end Pidprobe
