/-
# The garbage collector's statistics

The snippet of `collectors/_gc.py`.  A row of `gc.get_stats()` holds the integers
`collections`, `collected` and `uncollectable`, and whatever a newer interpreter
adds; the index, the count and the threshold of a generation are no keys of it.
-/

import Pidprobe.Lib.Json

namespace Pidprobe
namespace GcStats

/-- The keys the collector adds to a row, behind the statistics of the interpreter. -/
def addedKeys : List PyStr := [py "generation", py "count", py "threshold"]

/-- The statistics `gc.get_stats()` documents. -/
def documentedKeys : List PyStr := [py "collections", py "collected", py "uncollectable"]

/-- A row of `gc.get_stats()`: statistics under keys of its own, of which the documented
ones are integers. -/
structure Row where
  stats : List (PyStr × Json)
  own : ∀ key ∈ stats.map Prod.fst, key ∉ addedKeys
  integers : ∀ key ∈ documentedKeys, ∀ v, (key, v) ∈ stats → ∃ n, v = .int n

/-- What the collector reads of `gc`. The number of generations is that of the rows, and
need not be three. -/
structure World where
  enabled : Bool
  counts : List ℤ
  thresholds : List ℤ
  stats : List Row
  garbage : ℕ
  frozen : ℕ

/-- `if index < len(values): generation[key] = values[index]`, for the counts and for the
thresholds. -/
def setAt (key : PyStr) (values : List ℤ) (index : ℕ) (generation : List (PyStr × Json)) :
    List (PyStr × Json) :=
  match values[index]? with
  | some n => Dict.set key (.int n) generation
  | none => generation

/-- One round of the loop over `enumerate(gc.get_stats())`: the index, the statistics, then
the count and the threshold. -/
def generationEntry (w : World) (index : ℕ) (row : Row) : List (PyStr × Json) :=
  let generation := row.stats.foldl (fun generation kv => Dict.set kv.1 kv.2 generation)
    [(py "generation", .int index)]
  setAt (py "threshold") w.thresholds index (setAt (py "count") w.counts index generation)

/-- `data`. -/
def gcData (w : World) : Json :=
  .obj [(py "enabled", .bool w.enabled), (py "counts", .arr (w.counts.map .int)),
    (py "thresholds", .arr (w.thresholds.map .int)),
    (py "generations", .arr (w.stats.mapIdx fun index row => .obj (generationEntry w index row))),
    (py "garbage_count", .int w.garbage), (py "freeze_count", .int w.frozen)]

/-! ## The entry of a generation -/

/-- Setting a value of a generation adds no second entry under its key. -/
theorem nodupKeys_setAt {generation : List (PyStr × Json)} (h : Dict.NodupKeys generation)
    (key : PyStr) (values : List ℤ) (index : ℕ) :
    Dict.NodupKeys (setAt key values index generation) := by
  unfold setAt
  split
  · exact h.set _ _
  · exact h

/-- What is in a generation after a value was set is that value, or was there before. -/
theorem mem_setAt {key : PyStr} {values : List ℤ} {index : ℕ} {generation : List (PyStr × Json)}
    {kv : PyStr × Json} (h : kv ∈ setAt key values index generation) :
    (∃ n, kv = (key, .int n)) ∨ kv ∈ generation := by
  unfold setAt at h
  split at h
  · exact (Dict.mem_set h).imp_left fun hkv => ⟨_, hkv⟩
  · exact .inr h

/-- The other keys of a generation keep their values. -/
theorem get?_setAt_of_ne {key key' : PyStr} (h : key ≠ key') (values : List ℤ) (index : ℕ)
    (generation : List (PyStr × Json)) :
    Dict.get? key (setAt key' values index generation) = Dict.get? key generation := by
  unfold setAt
  split
  · exact Dict.get?_set_of_ne h.symm _ _
  · rfl

variable {w : World} {index : ℕ} {row : Row}

/-- The entry of a generation has each of its keys once. -/
theorem nodupKeys_generationEntry : Dict.NodupKeys (generationEntry w index row) := by
  have hindex : Dict.NodupKeys [(py "generation", Json.int index)] := List.nodup_singleton _
  exact nodupKeys_setAt (nodupKeys_setAt (hindex.foldl_set _) _ _ _) _ _ _

/-- The row does not touch the index. -/
theorem get?_generationEntry :
    Dict.get? (py "generation") (generationEntry w index row) = some (.int index) := by
  have hrow : Dict.get? (py "generation") (Dict.ofPairs row.stats) = none := by
    by_contra hsome
    obtain ⟨v, hv⟩ := Option.ne_none_iff_exists'.1 hsome
    refine row.own _ (List.mem_map_of_mem (Dict.mem_ofPairs (Dict.mem_of_get? hv))) ?_
    simp [addedKeys]
  rw [generationEntry, get?_setAt_of_ne (by simp), get?_setAt_of_ne (by simp),
    Dict.get?_foldl_set_ofPairs, hrow, Option.none_or, Dict.get?, if_pos rfl]

/-- What is neither from the row nor the index is an integer: the count or the threshold. -/
theorem mem_generationEntry {key : PyStr} {v : Json}
    (h : (key, v) ∈ generationEntry w index row) :
    (∃ n, v = .int n) ∨ (key, v) ∈ row.stats := by
  rcases mem_setAt h with ⟨n, hkv⟩ | h
  · exact .inl ⟨n, congrArg Prod.snd hkv⟩
  rcases mem_setAt h with ⟨n, hkv⟩ | h
  · exact .inl ⟨n, congrArg Prod.snd hkv⟩
  rcases Dict.mem_foldl_set h with h | h
  · exact .inl ⟨index, congrArg Prod.snd (List.mem_singleton.1 h)⟩
  · exact .inr h

/-- **The numbers of an entry**: under the keys the collector adds and the ones
`gc.get_stats()` documents there are integers. -/
theorem integer_generationEntry {key : PyStr} (hkey : key ∈ addedKeys ++ documentedKeys) {v : Json}
    (h : Dict.get? key (generationEntry w index row) = some v) : ∃ n, v = .int n := by
  rcases mem_generationEntry (Dict.mem_of_get? h) with hint | hmem
  · exact hint
  · rcases List.mem_append.1 hkey with hadded | hdocumented
    · exact absurd hadded (row.own _ (List.mem_map_of_mem hmem))
    · exact row.integers _ hdocumented _ hmem

end GcStats
end Pidprobe
