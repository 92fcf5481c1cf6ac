/-
# Stable sorting by a key

`sorted(xs, key=key)`: elements of one key stay in the order they had.  So the
order a list had shows in the sorted one exactly where two elements that differ
have one key.

`sortBy_cons` says where the first of the list comes, and from it
`take_sortBy_iff` says when the first `n` of the sorted list do not depend on the
order: when elements of one key are equal, but for those that `n` others come
before.
-/

import Mathlib.Data.List.Sort
import Mathlib.Order.Lattice

namespace Pidprobe
namespace StableSort

variable {α κ : Type*} [LinearOrder κ] {key : α → κ} {xs ys : List α} {x y : α} {n : ℕ}

/-- `sorted(xs, key=key)`: stable, so elements of one key keep their order. -/
def sortBy (key : α → κ) (xs : List α) : List α := xs.mergeSort fun a b => key a ≤ key b

/-- Sorting changes nothing but the order. -/
theorem perm_sortBy (key : α → κ) (xs : List α) : (sortBy key xs).Perm xs :=
  List.mergeSort_perm xs _

theorem mem_sortBy : x ∈ sortBy key xs ↔ x ∈ xs := (perm_sortBy key xs).mem_iff

theorem trans_key (key : α → κ) (a b c : α) (hab : decide (key a ≤ key b) = true)
    (hbc : decide (key b ≤ key c) = true) : decide (key a ≤ key c) = true :=
  decide_eq_true (le_trans (of_decide_eq_true hab) (of_decide_eq_true hbc))

theorem total_key (key : α → κ) (a b : α) :
    (decide (key a ≤ key b) || decide (key b ≤ key a)) = true := by
  simpa using le_total (key a) (key b)

/-- What is sorted goes up in its keys. -/
theorem pairwise_sortBy (key : α → κ) (xs : List α) :
    (sortBy key xs).Pairwise fun a b => key a ≤ key b :=
  (List.pairwise_mergeSort (trans_key key) (total_key key) xs).imp of_decide_eq_true

/-- A list sorted by the key is cut in two at a key: what is smaller, and the rest. -/
theorem filter_lt_append (key : α → κ) {front back : List α} (h : ∀ a ∈ front, key a < key x)
    (h' : ∀ a ∈ back, key x ≤ key a) :
    (front ++ back).filter (key · < key x) = front ∧
      (front ++ back).filter (key x ≤ key ·) = back := by
  have hfront : ∀ a ∈ front, ¬key x ≤ key a := fun a ha => not_le.2 (h a ha)
  have hback : ∀ a ∈ back, ¬key a < key x := fun a ha => not_lt.2 (h' a ha)
  constructor
  · rw [List.filter_append, List.filter_eq_self.2 (by simpa using h),
      List.filter_eq_nil_iff.2 (by simpa using h'), List.append_nil]
  · rw [List.filter_append, List.filter_eq_nil_iff.2 (by simpa using h),
      List.filter_eq_self.2 (by simpa using h'), List.nil_append]

/-- **The first of a list comes before all others of its key**, and behind those of smaller
keys. -/
theorem sortBy_cons (key : α → κ) (x : α) (xs : List α) :
    sortBy key (x :: xs) = (sortBy key xs).filter (key · < key x) ++
      x :: (sortBy key xs).filter (key x ≤ key ·) := by
  obtain ⟨front, back, hcons, hrest, hfront⟩ :=
    List.mergeSort_cons (trans_key key) (total_key key) x xs
  have hsorted := pairwise_sortBy key (x :: xs)
  rw [sortBy, hcons, List.pairwise_append, List.pairwise_cons] at hsorted
  obtain ⟨hlt, hge⟩ := filter_lt_append key (x := x) (fun a ha => by simpa using hfront a ha)
    hsorted.2.1.1
  rw [sortBy, hcons, sortBy, hrest, hlt, hge]

/-- The elements of smaller keys than that of `x`, sorted. -/
def smaller (key : α → κ) (x : α) (xs : List α) : List α :=
  (sortBy key xs).filter (key · < key x)

/-- They are the elements of smaller keys, no more and no less. -/
theorem mem_smaller : y ∈ smaller key x xs ↔ y ∈ xs ∧ key y < key x := by
  rw [smaller, List.mem_filter, mem_sortBy, decide_eq_true_eq]

/-- Which ones they are depends on the key alone. -/
theorem smaller_congr (h : key x = key y) (xs : List α) : smaller key x xs = smaller key y xs := by
  rw [smaller, smaller, h]

/-- Of two elements of one key in front of a list, the first one comes first,
behind the elements of smaller keys. -/
theorem sortBy_cons_cons (h : key x = key y) (xs : List α) :
    ∃ back, sortBy key (x :: y :: xs) = smaller key x xs ++ x :: back := by
  have hsmall : ∀ a ∈ smaller key x xs, key a < key x := fun a ha => (mem_smaller.1 ha).2
  have hlarge : ∀ a ∈ y :: (sortBy key xs).filter (key x ≤ key ·), key x ≤ key a := by
    intro a ha
    rcases List.mem_cons.1 ha with rfl | ha
    · exact h.le
    · exact of_decide_eq_true (List.mem_filter.1 ha).2
  have hxy := sortBy_cons key x (y :: xs)
  rw [sortBy_cons key y xs, ← h] at hxy
  exact ⟨_, hxy.trans (congrArg (· ++ _) (filter_lt_append key hsmall hlarge).1)⟩

/-- The first of a list comes right behind the elements of smaller keys, so its place is
their number. -/
theorem getElem?_sortBy_cons (h : (x :: xs).Perm ys) :
    (sortBy key (x :: xs))[ys.countP (key · < key x)]? = some x := by
  have hlength : ((sortBy key xs).filter (key · < key x)).length = ys.countP (key · < key x) := by
    rw [← List.countP_eq_length_filter, (perm_sortBy key xs).countP_eq, ← h.countP_eq,
      List.countP_cons_of_neg (by simp)]
  rw [sortBy_cons, List.getElem?_append_right hlength.le, hlength, Nat.sub_self]
  rfl

/-- Two elements of a list can both come first, in one order of it or another. -/
theorem exists_perm_cons_cons (hx : x ∈ xs) (hy : y ∈ xs) (hne : x ≠ y) :
    ∃ rest, (x :: y :: rest).Perm xs ∧ (y :: x :: rest).Perm xs := by
  obtain ⟨front, back, rfl⟩ := List.append_of_mem hx
  have hperm : (x :: (front ++ back)).Perm (front ++ x :: back) := List.perm_middle.symm
  have hy' : y ∈ front ++ back := by
    rcases List.mem_cons.1 (hperm.symm.subset hy) with hyx | hy
    · exact absurd hyx.symm hne
    · exact hy
  obtain ⟨front', back', hsplit⟩ := List.append_of_mem hy'
  have hxy : (x :: y :: (front' ++ back')).Perm (front ++ x :: back) := by
    refine List.Perm.trans ?_ hperm
    rw [hsplit]
    exact List.perm_middle.symm.cons x
  exact ⟨_, hxy, (List.Perm.swap x y _).trans hxy⟩

/-- Every order of what comes of a list is that of an order of the list. -/
theorem exists_perm_filterMap {β : Type*} {f : β → Option α} {zs : List β}
    (h : ys.Perm (zs.filterMap f)) : ∃ zs' : List β, zs'.Perm zs ∧ zs'.filterMap f = ys := by
  induction ys generalizing zs with
  | nil => exact ⟨zs, .refl zs, List.nil_perm.1 h⟩
  | cons y ys ih =>
    obtain ⟨z, hz, hy⟩ := List.mem_filterMap.1 (h.subset (List.mem_cons_self ..))
    obtain ⟨front, back, rfl⟩ := List.append_of_mem hz
    have hmiddle : (front ++ z :: back).Perm (z :: (front ++ back)) := List.perm_middle
    have hrest := h.trans (hmiddle.filterMap f)
    rw [List.filterMap_cons_some hy] at hrest
    obtain ⟨zs', hperm, heq⟩ := ih hrest.cons_inv
    exact ⟨z :: zs', (hperm.cons z).trans hmiddle.symm, by rw [List.filterMap_cons_some hy, heq]⟩

/-- Sorted lists of the same elements have the same keys, place by place, whatever order
they came in. -/
theorem map_sortBy_of_perm (key : α → κ) (h : xs.Perm ys) :
    (sortBy key xs).map key = (sortBy key ys).map key := by
  have hperm : ((sortBy key xs).map key).Perm ((sortBy key ys).map key) :=
    ((perm_sortBy key xs).trans (h.trans (perm_sortBy key ys).symm)).map key
  refine hperm.eq_of_pairwise (fun a b _ _ => le_antisymm) ?_ ?_
  · exact List.pairwise_map.2 (pairwise_sortBy key xs)
  · exact List.pairwise_map.2 (pairwise_sortBy key ys)

/-- What comes of a sorted list does not depend on its order, where elements of one
key come to the same. -/
theorem filterMap_sortBy_of_perm {β : Type*} {f : α → Option β} (hperm : ys.Perm xs)
    (h : ∀ x ∈ xs, ∀ y ∈ xs, key x = key y → ∀ b c, f x = some b → f y = some c → b = c) :
    (sortBy key ys).filterMap f = (sortBy key xs).filterMap f := by
  -- beside its key, each result has its place
  let keyed (x : α) : Option (κ × β) := (f x).map (key x, ·)
  have hkeyed : ∀ {x k b}, keyed x = some (k, b) → key x = k ∧ f x = some b := by
    intro x k b hx
    obtain ⟨b', hb', heq⟩ := Option.map_eq_some_iff.1 hx
    obtain ⟨rfl, rfl⟩ := Prod.mk.inj heq
    exact ⟨rfl, hb'⟩
  have hsorted : ∀ zs : List α,
      ((sortBy key zs).filterMap keyed).Pairwise fun a b => a.1 ≤ b.1 := by
    intro zs
    rw [List.pairwise_filterMap]
    refine (pairwise_sortBy key zs).imp ?_
    rintro x y hle ⟨k, b⟩ hx ⟨l, c⟩ hy
    rw [← (hkeyed hx).1, ← (hkeyed hy).1]
    exact hle
  have hsnd : ∀ zs : List α,
      ((sortBy key zs).filterMap keyed).map Prod.snd = (sortBy key zs).filterMap f := by
    intro zs
    rw [List.map_filterMap]
    refine List.filterMap_congr fun x _ => ?_
    simp only [keyed, Option.map_map]
    exact Option.map_id' ..
  have hsame : ∀ a b : κ × β, a ∈ (sortBy key ys).filterMap keyed →
      b ∈ (sortBy key xs).filterMap keyed → a.1 ≤ b.1 → b.1 ≤ a.1 → a = b := by
    rintro ⟨k, b⟩ ⟨l, c⟩ ha hb hab hba
    obtain ⟨x, hx, hxb⟩ := List.mem_filterMap.1 ha
    obtain ⟨y, hy, hyc⟩ := List.mem_filterMap.1 hb
    obtain ⟨rfl, hfx⟩ := hkeyed hxb
    obtain ⟨rfl, hfy⟩ := hkeyed hyc
    have hkey := le_antisymm hab hba
    exact Prod.ext hkey
      (h x (hperm.subset (mem_sortBy.1 hx)) y (mem_sortBy.1 hy) hkey b c hfx hfy)
  have hperm' : ((sortBy key ys).filterMap keyed).Perm ((sortBy key xs).filterMap keyed) :=
    ((perm_sortBy key ys).trans (hperm.trans (perm_sortBy key xs).symm)).filterMap keyed
  rw [← hsnd, hperm'.eq_of_pairwise hsame (hsorted ys) (hsorted xs), hsnd]

/-- An element has all those of smaller keys before it, so no place in front of that is its
own. -/
theorem countP_le_of_getElem? {i : ℕ} (h : (sortBy key xs)[i]? = some x) :
    xs.countP (key · < key x) ≤ i := by
  have hsorted := pairwise_sortBy key xs
  rw [← List.take_append_drop i (sortBy key xs)] at hsorted
  have hdrop : ((sortBy key xs).drop i).countP (key · < key x) = 0 := by
    obtain ⟨hi, hx⟩ := List.getElem?_eq_some_iff.1 h
    rw [List.drop_eq_getElem_cons hi, hx] at hsorted ⊢
    have htail := (List.pairwise_cons.1 (List.pairwise_append.1 hsorted).2.1).1
    rw [List.countP_eq_zero]
    intro a ha
    rcases List.mem_cons.1 ha with rfl | ha
    · simp
    · simpa using htail a ha
  calc xs.countP (key · < key x)
      = (sortBy key xs).countP (key · < key x) := ((perm_sortBy key xs).countP_eq _).symm
    _ = ((sortBy key xs).take i).countP (key · < key x) := by
        rw [← List.take_append_drop i (sortBy key xs), List.countP_append, hdrop,
          List.take_append_drop, Nat.add_zero]
    _ ≤ ((sortBy key xs).take i).length := List.countP_le_length
    _ ≤ i := List.length_take_le i _

/-- **When the first `n` of the sorted list do not depend on the order of the
list.** -/
theorem take_sortBy_iff : (∀ ys, ys.Perm xs → (sortBy key ys).take n = (sortBy key xs).take n) ↔
    ∀ x ∈ xs, ∀ y ∈ xs, key x = key y → xs.countP (key · < key x) < n → x = y := by
  constructor
  · intro h x hx y hy hkey hn
    by_contra hne
    -- two orders, one with `x` and one with `y` in front
    obtain ⟨rest, hxy, hyx⟩ := exists_perm_cons_cons hx hy hne
    have hplace := congrArg (·[xs.countP (key · < key x)]?) ((h _ hxy).trans (h _ hyx).symm)
    simp only [List.getElem?_take_of_lt hn] at hplace
    rw [getElem?_sortBy_cons hxy, hkey, getElem?_sortBy_cons hyx] at hplace
    exact hne (Option.some.inj hplace)
  · intro h ys hperm
    have hkeys := map_sortBy_of_perm key hperm
    refine List.ext_getElem? fun i => ?_
    rcases Nat.lt_or_ge i n with hi | hi
    · rw [List.getElem?_take_of_lt hi, List.getElem?_take_of_lt hi]
      have hkey := congrArg (·[i]?) hkeys
      simp only [List.getElem?_map] at hkey
      rcases hx : (sortBy key xs)[i]? with _ | x
      · rw [hx, Option.map_none, Option.map_eq_none_iff] at hkey
        exact hkey
      · rw [hx, Option.map_some, Option.map_eq_some_iff] at hkey
        obtain ⟨y, hy, hkey⟩ := hkey
        have hxmem : x ∈ xs := mem_sortBy.1 (List.mem_of_getElem? hx)
        have hymem : y ∈ xs := hperm.subset (mem_sortBy.1 (List.mem_of_getElem? hy))
        have hle := countP_le_of_getElem? hx
        rw [hy, h x hxmem y hymem hkey.symm (hle.trans_lt hi)]
    · rw [List.getElem?_take_eq_none hi, List.getElem?_take_eq_none hi]

end StableSort
end Pidprobe
