/-
# The objects collector

The snippet of `collectors/_objects.py`: a `Counter` over the names of the types
of the objects the collector of garbage tracks, and the section made of it.

A `Counter` is an insertion-ordered dictionary of positive counts with one entry
for each label, which `Heap` carries as invariants; `most_common` sorts it stably.
-/

import Pidprobe.Lib.Json
import Pidprobe.Lib.Ranking

namespace Pidprobe

/-- The counts of a heap: a finite map from labels to positive numbers, in the
order the labels were first met. -/
structure Heap where
  counts : List (PyStr × ℕ)
  nodup : Dict.NodupKeys counts
  positive : ∀ entry ∈ counts, 0 < entry.2

namespace Heap

/-- `Counter()`. -/
def empty : Heap := ⟨[], Dict.nodupKeys_nil, by simp⟩

/-- `counts[label]`, which is `0` for a label that is not there. -/
def count (h : Heap) (label : PyStr) : ℕ := (Dict.get? label h.counts).getD 0

/-- `counts[label] += 1`: one more object of that type, the other counts unchanged. -/
def add (h : Heap) (label : PyStr) : Heap where
  counts := Dict.set label (h.count label + 1) h.counts
  nodup := h.nodup.set _ _
  positive entry hmem := by
    rcases Dict.mem_set hmem with rfl | hmem
    · exact Nat.succ_pos _
    · exact h.positive entry hmem

/-- `counts.most_common(n)`: the largest counts first, equal ones in the order in which
their labels were met. -/
def mostCommon (n : ℕ) (h : Heap) : List (PyStr × ℕ) := Ranking.top n Prod.snd h.counts

/-- The smallest count of the `n` most common labels, or `0` where there are
fewer. -/
def cutoff (n : ℕ) (h : Heap) : ℕ := Ranking.cutoff n Prod.snd h.counts

/-- The label is one of the `n` most common, so the section shows it. -/
def Ranks (n : ℕ) (h : Heap) (label : PyStr) : Prop := label ∈ (h.mostCommon n).map Prod.fst

instance (n : ℕ) (h : Heap) (label : PyStr) : Decidable (h.Ranks n label) :=
  inferInstanceAs (Decidable (_ ∈ _))

end Heap

/-- `TOP_N`. -/
def topN : ℕ := 50

/-- `UNKNOWN_TYPE`. -/
def unknownType : PyStr := py "<unknown>"

/-- What the collector reads of a type: `__module__`, `none` for `None` and its
`str` otherwise, and `__qualname__`. -/
structure TypeNames where
  module : Option PyStr
  qualname : PyStr

/-- The label of an object; `none` is a type one of whose names raises. Built-in types and
types without a module have no prefix. -/
def typeLabel : Option TypeNames → PyStr
  | none => unknownType
  | some names =>
    match names.module with
    | none => names.qualname
    | some module =>
      if module = py "builtins" then names.qualname else module ++ py "." ++ names.qualname

/-- The loop over `gc.get_objects()`, which counts every object under the label of its
type. -/
def tally (objects : List (Option TypeNames)) : Heap :=
  objects.foldl (fun counts kind => counts.add (typeLabel kind)) .empty

/-- One entry of `top`. -/
def topEntry (entry : PyStr × ℕ) : Json :=
  .obj [(py "type", .str entry.1), (py "count", .int entry.2)]

/-- `data`, with `TOP_N` as `n`. The totals are those of the whole heap, the list those of
the ranking. -/
def objectsData (n : ℕ) (h : Heap) : List (PyStr × Json) :=
  [(py "top_n", .int n), (py "total_tracked", .int (h.counts.map Prod.snd).sum),
    (py "distinct_types", .int h.counts.length),
    (py "top", .arr ((h.mostCommon n).map topEntry))]

namespace Heap

variable {n : ℕ} {h : Heap} {label : PyStr}

/-- A type is counted where the heap has an object of it. -/
theorem count_pos : 0 < h.count label ↔ label ∈ h.counts.map Prod.fst := by
  constructor
  · intro hpos
    by_contra hmem
    rw [count, Dict.get?_eq_none hmem] at hpos
    exact Nat.lt_irrefl 0 hpos
  · intro hmem
    obtain ⟨entry, hentry, rfl⟩ := List.mem_map.1 hmem
    rw [count, Dict.get?_of_mem h.nodup hentry]
    exact h.positive entry hentry

/-- No type is shown twice. -/
theorem nodupKeys_mostCommon (n : ℕ) (h : Heap) : Dict.NodupKeys (h.mostCommon n) :=
  Ranking.nodup_map_top h.nodup

/-- The ranking has the counts of the heap: for a label in it that of the label, for another
none. -/
theorem get?_mostCommon (n : ℕ) (h : Heap) (label : PyStr) :
    Dict.get? label (h.mostCommon n) = if h.Ranks n label then some (h.count label) else none := by
  split_ifs with hr
  · obtain ⟨entry, hentry, rfl⟩ := List.mem_map.1 hr
    have hmem : entry ∈ h.counts := Ranking.mem_of_mem_top hentry
    rw [count, Dict.get?_of_mem h.nodup hmem]
    exact Dict.get?_of_mem (nodupKeys_mostCommon n h) hentry
  · exact Dict.get?_eq_none hr

/-- A label outside the ranking has a count up to the cutoff, the smallest count of a
ranking that is full. -/
theorem count_le_cutoff (hn : 1 ≤ n) (hr : ¬h.Ranks n label) : h.count label ≤ h.cutoff n := by
  by_cases hmem : label ∈ h.counts.map Prod.fst
  · obtain ⟨entry, hentry, rfl⟩ := List.mem_map.1 hmem
    rw [count, Dict.get?_of_mem h.nodup hentry]
    exact Ranking.key_le_cutoff hn hentry fun htop => hr (List.mem_map_of_mem htop)
  · rw [count, Dict.get?_eq_none hmem]
    exact Nat.zero_le _

/-- A label in the ranking has a count from the cutoff on, which is the smallest one of a
full ranking and `0` for another. -/
theorem cutoff_le_count (hr : h.Ranks n label) : h.cutoff n ≤ h.count label := by
  obtain ⟨entry, hentry, rfl⟩ := List.mem_map.1 hr
  rw [count, Dict.get?_of_mem h.nodup (Ranking.mem_of_mem_top hentry)]
  exact Ranking.cutoff_le_key hentry

/-- A type that is shown has objects. -/
theorem count_pos_of_ranks (hr : h.Ranks n label) : 0 < h.count label := by
  obtain ⟨entry, hentry, rfl⟩ := List.mem_map.1 hr
  exact count_pos.2 (List.mem_map_of_mem (Ranking.mem_of_mem_top hentry))

end Heap
end Pidprobe
