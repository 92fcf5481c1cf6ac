/-
# Generations pair by index

`gc.generations` joins two lists of rows on their `generation` index.  Either list
may hold entries that are no rows, and the two may be in different orders; where
no index repeats within a list, the join has one row for each index of both, in
the order of the later list, with the statistics both rows report
(`generations_paired`).
-/

import Pidprobe.Diff

namespace Pidprobe
namespace Diff

/-! ## The rows of a section -/

/-- The index and the members of an entry that is a row: an object with an integer index. -/
def generationRow : Json → Option (ℤ × List (PyStr × Json))
  | .obj entry => (asInt (member (py "generation") entry)).map fun index => (index, entry)
  | _ => none

/-- The rows of a list of entries, in order. -/
def generationRows (entries : List Json) : List (ℤ × List (PyStr × Json)) :=
  entries.filterMap generationRow

/-- A row that is no generation is passed over; one that is, is entered under its index.
-/
theorem addGeneration_eq (indexed : List (ℤ × List (PyStr × Json))) (v : Json) :
    addGeneration indexed v =
      (generationRow v).elim indexed fun row => Dict.set row.1 row.2 indexed := by
  cases v with
  | obj entry =>
    rw [addGeneration, generationRow]
    cases asInt (member (py "generation") entry) <;> rfl
  | _ => rfl

/-- Rows with distinct indices are found under them. -/
theorem generationsByIndex_eq {entries : List Json}
    (hd : Dict.NodupKeys (generationRows entries)) :
    generationsByIndex (.arr entries) = generationRows entries := by
  rw [← Dict.ofPairs_of_nodupKeys hd, generationRows, Dict.ofPairs_filterMap, generationsByIndex]
  simp only [← addGeneration_eq]

/-- One round of the loop, from the row the entry is. -/
theorem generationDelta_eq (indexed : List (ℤ × List (PyStr × Json))) (v : Json) :
    generationDelta indexed v = (generationRow v).bind fun row =>
      (Dict.get? row.1 indexed).map fun previous => ⟨row.1, statistics previous row.2⟩ := by
  cases v with
  | obj entry =>
    rw [generationDelta, generationRow]
    rcases asInt (member (py "generation") entry) with _ | index
    · rfl
    · show (Dict.get? index indexed).bind
          (fun previous => some (GenerationDelta.mk index (statistics previous entry))) =
        (Dict.get? index indexed).map
          fun previous => GenerationDelta.mk index (statistics previous entry)
      cases Dict.get? index indexed <;> rfl
  | _ => rfl

/-- The rows of the delta are the later rows that have an earlier one, in the order of the
later section. -/
theorem generationDeltas_eq {entries entries' : List Json}
    (hd : Dict.NodupKeys (generationRows entries)) :
    generationDeltas (.arr entries) (.arr entries') =
      (generationRows entries').filterMap fun row =>
        (Dict.get? row.1 (generationRows entries)).map fun previous =>
          ⟨row.1, statistics previous row.2⟩ := by
  rw [generationDeltas, generationsByIndex_eq hd, generationRows, generationRows,
    List.filterMap_filterMap]
  simp only [← generationDelta_eq]

/-! ## The statistics of a pair -/

/-- `_as_int` returns exactly the integers, and no `bool`. -/
theorem asInt_eq_some {v : Json} {n : ℤ} : asInt v = some n ↔ v = .int n := by
  cases v <;> simp [asInt]

/-- A change is reported exactly where both sides are integers, and then it is their
difference. -/
theorem change_eq_some {v w : Json} {c : Change} :
    change v w = some c ↔ ∃ m n, v = .int m ∧ w = .int n ∧ c = ⟨m, n, n - m⟩ := by
  unfold change
  constructor
  · intro h
    split at h
    · next was now hwas hnow =>
      exact ⟨was, now, asInt_eq_some.1 hwas, asInt_eq_some.1 hnow, (Option.some.inj h).symm⟩
    · cases h
  · rintro ⟨m, n, rfl, rfl, rfl⟩
    rfl

/-- An integer member of a row. -/
theorem member_eq_int {ms : List (PyStr × Json)} (hd : Dict.NodupKeys ms) {key : PyStr} {n : ℤ} :
    member key ms = .int n ↔ (key, .int n) ∈ ms := by
  rw [member]
  constructor
  · intro h
    rcases hg : Dict.get? key ms with _ | v
    · rw [hg] at h
      cases h
    · rw [hg, Option.getD_some] at h
      exact Dict.mem_of_get? (h ▸ hg)
  · intro h
    rw [Dict.get?_of_mem hd h, Option.getD_some]

/-- Which statistics a generation reports: the keys of both sides, but for those that do
not change, with integers on both. -/
theorem mem_statistics {previous entry : List (PyStr × Json)} (hd : Dict.NodupKeys previous)
    {key : PyStr} {c : Change} :
    (key, c) ∈ statistics previous entry ↔ key ∉ gcUnchangingKeys ∧
      ∃ m n, (key, .int m) ∈ previous ∧ (key, .int n) ∈ entry ∧ c = ⟨m, n, n - m⟩ := by
  rw [statistics, List.mem_filterMap]
  constructor
  · rintro ⟨⟨key', v⟩, hmem, h⟩
    dsimp only at h
    split_ifs at h with hkey
    obtain ⟨c', hc, heq⟩ := Option.map_eq_some_iff.1 h
    obtain ⟨rfl, rfl⟩ := Prod.mk.inj heq
    obtain ⟨m, n, hm, rfl, rfl⟩ := change_eq_some.1 hc
    exact ⟨hkey, m, n, (member_eq_int hd).1 hm, hmem, rfl⟩
  · rintro ⟨hkey, m, n, hm, hn, rfl⟩
    refine ⟨(key, .int n), hn, ?_⟩
    rw [if_neg hkey, (change_eq_some (c := ⟨m, n, n - m⟩)).2
      ⟨m, n, (member_eq_int hd).2 hm, rfl, rfl⟩, Option.map_some]

/-- A row carries no statistic twice. -/
theorem nodupKeys_statistics {previous entry : List (PyStr × Json)} (hd : Dict.NodupKeys entry) :
    Dict.NodupKeys (statistics previous entry) := by
  refine hd.filterMap fun statistic kv h => ?_
  split_ifs at h
  obtain ⟨c, -, rfl⟩ := Option.map_eq_some_iff.1 h
  rfl

/-! ## The join -/

/-- The rows pair the two lists by index: one for each index of both, in the
order of the later list, with the integers both rows report under one key. -/
structure PairsGenerations (was now : List (ℤ × List (PyStr × Json)))
    (generations : List GenerationDelta) : Prop where
  indices : generations.map GenerationDelta.generation =
    (now.map Prod.fst).filter fun index => index ∈ was.map Prod.fst
  distinct : (generations.map GenerationDelta.generation).Nodup
  statistics : ∀ row ∈ generations, ∃ previous entry, (row.generation, previous) ∈ was ∧
    (row.generation, entry) ∈ now ∧ Dict.NodupKeys row.changes ∧
      ∀ key c, (key, c) ∈ row.changes ↔ key ∉ gcUnchangingKeys ∧
        ∃ m n, (key, .int m) ∈ previous ∧ (key, .int n) ∈ entry ∧ c = ⟨m, n, n - m⟩

/-- What the join does with the rows of a section: it keeps the indices the other section
has, in order. -/
theorem indices_join (was now : List (ℤ × List (PyStr × Json))) :
    (now.filterMap fun row => (Dict.get? row.1 was).map fun previous =>
        (⟨row.1, statistics previous row.2⟩ : GenerationDelta)).map GenerationDelta.generation =
      (now.map Prod.fst).filter fun index => index ∈ was.map Prod.fst := by
  induction now with
  | nil => rfl
  | cons row now ih =>
    rw [List.map_cons, List.filter_cons, ← ih, List.filterMap_cons]
    simp only [← Dict.get?_isSome, decide_eq_true_eq]
    cases Dict.get? row.1 was <;> rfl

/-- Where no index is repeated on either side, each generation of the later section is
paired with that of its index in the earlier one. -/
theorem pairsGenerations_of_nodupKeys {entries entries' : List Json}
    (hd : Dict.NodupKeys (generationRows entries)) (hd' : Dict.NodupKeys (generationRows entries'))
    (hkeys : ∀ row ∈ generationRows entries, Dict.NodupKeys row.2)
    (hkeys' : ∀ row ∈ generationRows entries', Dict.NodupKeys row.2) :
    PairsGenerations (generationRows entries) (generationRows entries')
      (generationDeltas (.arr entries) (.arr entries')) := by
  rw [generationDeltas_eq hd]
  have hindices := indices_join (generationRows entries) (generationRows entries')
  refine ⟨hindices, hindices ▸ List.Nodup.filter _ hd', fun row hrow => ?_⟩
  obtain ⟨⟨index, entry⟩, hmem, hrow⟩ := List.mem_filterMap.1 hrow
  obtain ⟨previous, hprevious, rfl⟩ := Option.map_eq_some_iff.1 hrow
  have hwas := Dict.mem_of_get? hprevious
  exact ⟨previous, entry, hwas, hmem, nodupKeys_statistics (hkeys' _ hmem),
    fun _ _ => mem_statistics (hkeys _ hwas)⟩

/-- **Generations pair by index.**  Two gc sections whose rows have distinct
indices, whatever else is in their lists, have a delta whose rows pair them by
index, and the order of the earlier list does not matter. -/
theorem generations_paired {before after : List (PyStr × Json)} {entries entries' : List Json}
    (hb : member (py "generations") before = .arr entries)
    (ha : member (py "generations") after = .arr entries')
    (hd : Dict.NodupKeys (generationRows entries)) (hd' : Dict.NodupKeys (generationRows entries'))
    (hkeys : ∀ row ∈ generationRows entries, Dict.NodupKeys row.2)
    (hkeys' : ∀ row ∈ generationRows entries', Dict.NodupKeys row.2) :
    ∃ delta, gcDelta (.obj before) (.obj after) = some delta ∧
      PairsGenerations (generationRows entries) (generationRows entries') delta.generations ∧
      ∀ other rows, member (py "generations") other = .arr rows → rows.Perm entries →
        ∃ delta', gcDelta (.obj other) (.obj after) = some delta' ∧
          delta'.generations = delta.generations := by
  refine ⟨_, rfl, ?_, fun other rows ho hp => ⟨_, rfl, ?_⟩⟩
  · dsimp only
    rw [hb, ha]
    exact pairsGenerations_of_nodupKeys hd hd' hkeys hkeys'
  · have hrows : (generationRows rows).Perm (generationRows entries) := hp.filterMap _
    have hdo : Dict.NodupKeys (generationRows rows) := ((hrows.map Prod.fst).nodup_iff).2 hd
    dsimp only
    rw [ho, hb, ha, generationDeltas_eq hdo, generationDeltas_eq hd]
    simp only [Dict.get?_perm hd hrows]

/-- A row of generation `index`. -/
def generationEntry (index collections : ℤ) : Json :=
  .obj [(py "generation", .int index), (py "collections", .int collections),
    (py "threshold", .int 700)]

/-- A gc section with these entries. -/
def generationsOf (entries : List Json) : List (PyStr × Json) := [(py "generations", .arr entries)]

/-- Three generations against two of them in another order, with a malformed entry among the
three. -/
theorem generations_paired_reordered :
    ∃ delta, gcDelta
        (.obj (generationsOf
          [generationEntry 0 5, .null, generationEntry 1 2, generationEntry 2 0]))
        (.obj (generationsOf [generationEntry 2 1, generationEntry 0 9])) = some delta ∧
      PairsGenerations
        (generationRows [generationEntry 0 5, .null, generationEntry 1 2, generationEntry 2 0])
        (generationRows [generationEntry 2 1, generationEntry 0 9]) delta.generations := by
  have hwas : member (py "generations") (generationsOf
      [generationEntry 0 5, .null, generationEntry 1 2, generationEntry 2 0]) = .arr _ := rfl
  have hnow : member (py "generations") (generationsOf
      [generationEntry 2 1, generationEntry 0 9]) = .arr _ := rfl
  obtain ⟨delta, hdelta, hpairs, -⟩ := generations_paired hwas hnow (by decide) (by decide)
    (by decide) (by decide)
  exact ⟨delta, hdelta, hpairs⟩

end Diff
end Pidprobe
