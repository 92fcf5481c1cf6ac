/-
# Insertion-ordered dictionaries

A Python `dict` is an association list: `set` replaces the value under a key in
place and appends a new key at the end, so insertion order survives updates.
A list of pairs with repeated keys (the members of a JSON object, a dict
comprehension) becomes a dictionary by `ofPairs`, the last value of a key
winning at the position of its first occurrence.
-/

import Mathlib.Data.List.Induction
import Mathlib.Data.List.Nodup

namespace Pidprobe
namespace Dict

variable {κ ν : Type*} [DecidableEq κ]

/-- `d.get(key)`, of a dictionary as the list of its items in the order of their
insertion. -/
def get? (key : κ) : List (κ × ν) → Option ν
  | [] => none
  | (k, v) :: rest => if k = key then some v else get? key rest

/-- `d[key] = value`: a key that is there keeps its place, and a new one goes to the end. -/
def set (key : κ) (value : ν) : List (κ × ν) → List (κ × ν)
  | [] => [(key, value)]
  | (k, v) :: rest => if k = key then (k, value) :: rest else (k, v) :: set key value rest

/-- `dict(pairs)`: the pairs are set one after the other. -/
def ofPairs (pairs : List (κ × ν)) : List (κ × ν) :=
  pairs.foldl (fun d kv => set kv.1 kv.2 d) []

/-- No key occurs twice, as in every list that is a dictionary. -/
def NodupKeys (d : List (κ × ν)) : Prop := (d.map Prod.fst).Nodup

instance (d : List (κ × ν)) : Decidable (NodupKeys d) := inferInstanceAs (Decidable (List.Nodup _))

omit [DecidableEq κ] in
@[simp] theorem nodupKeys_nil : NodupKeys ([] : List (κ × ν)) := List.nodup_nil

omit [DecidableEq κ] in
/-- One item more keeps the keys apart where its key is a new one. -/
theorem nodupKeys_cons {kv : κ × ν} {d : List (κ × ν)} :
    NodupKeys (kv :: d) ↔ kv.1 ∉ d.map Prod.fst ∧ NodupKeys d := by
  simp [NodupKeys]

/-- Where no key repeats, looking a member's key up finds that member, wherever it stands. -/
theorem get?_of_mem {d : List (κ × ν)} (hd : NodupKeys d) {key : κ} {value : ν}
    (h : (key, value) ∈ d) : get? key d = some value := by
  induction d with
  | nil => simp at h
  | cons kv d ih =>
    obtain ⟨hk, hd⟩ := nodupKeys_cons.1 hd
    rcases List.mem_cons.1 h with rfl | h
    · simp [get?]
    · have : kv.1 ≠ key := fun he => hk (he ▸ List.mem_map_of_mem (f := Prod.fst) h)
      rw [get?, if_neg this]
      exact ih hd h

/-- A key that is not there is not found. -/
theorem get?_eq_none {d : List (κ × ν)} {key : κ} (h : key ∉ d.map Prod.fst) :
    get? key d = none := by
  induction d with
  | nil => rfl
  | cons kv d ih =>
    rw [List.map_cons, List.mem_cons, not_or] at h
    rw [get?, if_neg (Ne.symm h.1), ih h.2]

/-- What is found under a key is an item of the dictionary. -/
theorem mem_of_get? {d : List (κ × ν)} {key : κ} {value : ν} (h : get? key d = some value) :
    (key, value) ∈ d := by
  induction d with
  | nil => cases h
  | cons kv d ih =>
    obtain ⟨k, v⟩ := kv
    rw [get?] at h
    split_ifs at h with hk
    · rw [hk, Option.some.inj h]
      exact List.mem_cons_self ..
    · exact List.mem_cons_of_mem _ (ih h)

/-- Values that are replaced one by one are found under the same keys. -/
theorem get?_map {μ : Type*} (f : ν → μ) (key : κ) (d : List (κ × ν)) :
    get? key (d.map fun kv => (kv.1, f kv.2)) = (get? key d).map f := by
  induction d with
  | nil => rfl
  | cons kv d ih => by_cases h : kv.1 = key <;> simp [get?, h, ih]

/-- Setting a new key appends the item. -/
theorem set_of_notMem {key : κ} {value : ν} {d : List (κ × ν)} (h : key ∉ d.map Prod.fst) :
    set key value d = d ++ [(key, value)] := by
  induction d with
  | nil => rfl
  | cons kv d ih =>
    simp only [List.map_cons, List.mem_cons, not_or] at h
    rw [set, if_neg (Ne.symm h.1), ih h.2, List.cons_append]

/-- After a key is set, an item is the new one or was there. -/
theorem mem_set {key : κ} {value : ν} {d : List (κ × ν)} {kv : κ × ν}
    (h : kv ∈ set key value d) : kv = (key, value) ∨ kv ∈ d := by
  induction d with
  | nil => exact .inl (List.mem_singleton.1 h)
  | cons kv' d ih =>
    rw [set] at h
    split_ifs at h with hk
    · rcases List.mem_cons.1 h with rfl | h
      · exact .inl (by rw [hk])
      · exact .inr (List.mem_cons_of_mem _ h)
    · rcases List.mem_cons.1 h with rfl | h
      · exact .inr (List.mem_cons_self ..)
      · exact (ih h).imp_right (List.mem_cons_of_mem _)

/-- Setting a key that is there leaves the keys and their order. -/
theorem map_fst_set_of_mem {key : κ} {value : ν} {d : List (κ × ν)} (h : key ∈ d.map Prod.fst) :
    (set key value d).map Prod.fst = d.map Prod.fst := by
  induction d with
  | nil => cases h
  | cons kv d ih =>
    by_cases hk : kv.1 = key
    · simp [set, hk]
    · have hmem : key ∈ d.map Prod.fst := by
        simpa [Ne.symm hk] using h
      rw [set, if_neg hk, List.map_cons, ih hmem, List.map_cons]

/-- The value that was set is found. -/
@[simp] theorem get?_set_self (key : κ) (value : ν) (d : List (κ × ν)) :
    get? key (set key value d) = some value := by
  induction d with
  | nil => simp [set, get?]
  | cons kv d ih => by_cases h : kv.1 = key <;> simp [set, get?, h, ih]

/-- Setting a key changes nothing under the others. -/
theorem get?_set_of_ne {key key' : κ} (h : key ≠ key') (value : ν) (d : List (κ × ν)) :
    get? key' (set key value d) = get? key' d := by
  induction d with
  | nil => simp [set, get?, h]
  | cons kv d ih =>
    by_cases hk : kv.1 = key
    · simp [set, get?, hk, h]
    · by_cases hk' : kv.1 = key' <;> simp [set, get?, hk, hk', Ne.symm h, ih]

/-- Setting a key keeps the keys apart, be it new or not. -/
theorem NodupKeys.set {d : List (κ × ν)} (h : NodupKeys d) (key : κ) (value : ν) :
    NodupKeys (set key value d) := by
  by_cases hk : key ∈ d.map Prod.fst
  · rwa [NodupKeys, map_fst_set_of_mem hk]
  · rw [NodupKeys, set_of_notMem hk, List.map_append, List.nodup_append]
    refine ⟨h, List.nodup_singleton _, ?_⟩
    rintro k hmem _ hmem' rfl
    obtain rfl : k = key := List.mem_singleton.1 hmem'
    exact hk hmem

/-- Where pairs are set one by one, the last value of a key wins, and a key that is
not among them keeps its value. -/
theorem get?_foldl_set (key : κ) (pairs d : List (κ × ν)) :
    get? key (pairs.foldl (fun d kv => set kv.1 kv.2 d) d) =
      ((pairs.reverse.find? fun kv => kv.1 = key).map Prod.snd).or (get? key d) := by
  induction pairs using List.reverseRecOn with
  | nil => rfl
  | append_singleton pairs kv ih =>
    rw [List.foldl_append, List.foldl_cons, List.foldl_nil, List.reverse_append,
      List.reverse_singleton, List.singleton_append, List.find?_cons]
    by_cases h : kv.1 = key
    · rw [← h, get?_set_self]
      simp
    · rw [get?_set_of_ne h, ih]
      simp [h]

/-- **The last value of a key wins**: it is looked for from the end of the pairs. -/
theorem get?_ofPairs (key : κ) (pairs : List (κ × ν)) :
    get? key (ofPairs pairs) = (pairs.reverse.find? fun kv => kv.1 = key).map Prod.snd := by
  rw [ofPairs, get?_foldl_set, get?, Option.or_none]

/-- Pairs that are set one by one come before what was there, where both have the key. -/
theorem get?_foldl_set_ofPairs (key : κ) (pairs d : List (κ × ν)) :
    get? key (pairs.foldl (fun d kv => set kv.1 kv.2 d) d) =
      (get? key (ofPairs pairs)).or (get? key d) := by
  rw [get?_foldl_set, get?_ofPairs]

/-- Setting keys that are new and apart appends them, in their order. -/
theorem foldl_set_of_nodupKeys {d pairs : List (κ × ν)} (h : NodupKeys (d ++ pairs)) :
    pairs.foldl (fun d kv => set kv.1 kv.2 d) d = d ++ pairs := by
  induction pairs generalizing d with
  | nil => simp
  | cons kv pairs ih =>
    have hk : kv.1 ∉ d.map Prod.fst := by
      intro hmem
      rw [NodupKeys, List.map_append, List.nodup_append] at h
      exact h.2.2 _ hmem _ (by simp) rfl
    rw [List.foldl_cons, set_of_notMem hk, ih (by simpa using h), List.append_assoc]
    rfl

/-- Setting any number of keys keeps the keys apart. -/
theorem NodupKeys.foldl_set {d : List (κ × ν)} (h : NodupKeys d) (pairs : List (κ × ν)) :
    NodupKeys (pairs.foldl (fun d kv => Dict.set kv.1 kv.2 d) d) := by
  induction pairs generalizing d with
  | nil => exact h
  | cons kv pairs ih => exact ih (h.set kv.1 kv.2)

/-- Setting keys one by one makes no items beyond those. -/
theorem mem_foldl_set {pairs d : List (κ × ν)} {kv : κ × ν}
    (h : kv ∈ pairs.foldl (fun d kv => set kv.1 kv.2 d) d) : kv ∈ d ∨ kv ∈ pairs := by
  induction pairs generalizing d with
  | nil => exact .inl h
  | cons kv' pairs ih =>
    rcases ih h with hmem | hmem
    · rcases mem_set hmem with rfl | hmem
      · exact .inr (List.mem_cons_self ..)
      · exact .inl hmem
    · exact .inr (List.mem_cons_of_mem _ hmem)

/-- A dictionary holds no other pairs than those it was made of. -/
theorem mem_ofPairs {pairs : List (κ × ν)} {kv : κ × ν} (h : kv ∈ ofPairs pairs) : kv ∈ pairs :=
  (mem_foldl_set h).resolve_left List.not_mem_nil

/-- Building a dictionary from pairs without repeated keys keeps the pairs, and their
order. -/
theorem ofPairs_of_nodupKeys {pairs : List (κ × ν)} (h : NodupKeys pairs) :
    ofPairs pairs = pairs :=
  foldl_set_of_nodupKeys h

/-- A key is found where it is one of the keys. -/
theorem get?_isSome {d : List (κ × ν)} {key : κ} : (get? key d).isSome ↔ key ∈ d.map Prod.fst := by
  constructor
  · intro h
    obtain ⟨value, hvalue⟩ := Option.isSome_iff_exists.1 h
    exact List.mem_map_of_mem (f := Prod.fst) (mem_of_get? hvalue)
  · intro h
    by_contra hnone
    induction d with
    | nil => cases h
    | cons kv d ih =>
      rw [get?] at hnone
      split_ifs at hnone with hk
      · exact hnone rfl
      · exact ih ((List.mem_cons.1 h).resolve_left (Ne.symm hk)) hnone

omit [DecidableEq κ] in
/-- Entries that are left out or replaced under their keys leave the keys apart. -/
theorem NodupKeys.filterMap {μ : Type*} {d : List (κ × ν)} (h : NodupKeys d)
    {f : κ × ν → Option (κ × μ)} (hf : ∀ kv kv', f kv = some kv' → kv'.1 = kv.1) :
    NodupKeys (d.filterMap f) := by
  have hkeys : d.Pairwise fun kv kv' => kv.1 ≠ kv'.1 := List.pairwise_map.1 h
  refine List.pairwise_map.2 (List.pairwise_filterMap.2 (hkeys.imp ?_))
  intro kv kv' hne b hb b' hb'
  rwa [hf kv b hb, hf kv' b' hb']

/-- A dictionary built from what a partial function makes of a list, as a loop with a
condition builds it. -/
theorem ofPairs_filterMap {α : Type*} (f : α → Option (κ × ν)) (xs : List α) :
    ofPairs (xs.filterMap f) =
      xs.foldl (fun d x => (f x).elim d fun kv => set kv.1 kv.2 d) [] := by
  rw [ofPairs, List.foldl_filterMap]
  congr 1
  funext d x
  cases f x <;> rfl

/-- Pairs without repeated keys may come in any order: the same is found under each key. -/
theorem get?_perm {d d' : List (κ × ν)} (hd : NodupKeys d) (hp : d'.Perm d) (key : κ) :
    get? key d' = get? key d := by
  have hd' : NodupKeys d' := ((hp.map Prod.fst).nodup_iff).2 hd
  rcases hg : get? key d with _ | value
  · refine get?_eq_none fun hmem => ?_
    obtain ⟨⟨_, value⟩, hkv, rfl⟩ := List.mem_map.1 ((hp.map Prod.fst).mem_iff.1 hmem)
    rw [get?_of_mem hd hkv] at hg
    cases hg
  · exact get?_of_mem hd' (hp.mem_iff.2 (mem_of_get? hg))

end Dict
end Pidprobe
