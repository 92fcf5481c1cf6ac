/-
# What a delta says about the heaps

The ranking of a snapshot is cut off after `top_n` types, so the delta of two
rankings is not the change of the two heaps behind them.  A type outside a
ranking counts as zero there, while the heap may hold up to `cutoff` of its
instances.

`no_leak_missed` says what the rows still promise: a type that grew by more than
the second cutoff has a row that reports at least its growth, and the change of a
row with an unknown side is off by no more than the cutoff of that side.  The
direction of such a row is another matter: a type can leave the ranking while it
grows, where enough other types grow faster (`boundsDirection_iff`).
-/

import Mathlib.Algebra.Order.Group.Unbundled.Int
import Pidprobe.Collectors.Objects
import Pidprobe.Diff.Compose

namespace Pidprobe
namespace Diff

/-! ## The ranking a delta reads -/

/-- The counts of a ranking as a delta reads them: the `n` most common types of a heap. -/
def rankingOf (n : ℕ) (h : Heap) : List (PyStr × ℤ) :=
  (h.mostCommon n).map fun entry => (entry.1, (entry.2 : ℤ))

/-- From the section of a heap the diff reads its ranking, type by type. -/
theorem countsByType_objectsData (n : ℕ) (h : Heap) :
    countsByType (objectsData n h) = .ok (rankingOf n h) := by
  have htop : member (py "top") (objectsData n h) = .arr ((h.mostCommon n).map topEntry) := by rfl
  have hadd : ∀ counts entry,
      addCount counts (topEntry entry) = Dict.set entry.1 (entry.2 : ℤ) counts := fun _ _ => rfl
  have hpairs : Dict.NodupKeys (rankingOf n h) := by
    have hkeys := Heap.nodupKeys_mostCommon n h
    rwa [Dict.NodupKeys, rankingOf, List.map_map]
  rw [countsByType_arr htop, List.foldl_map]
  simp only [hadd]
  rw [← Dict.ofPairs_of_nodupKeys hpairs, Dict.ofPairs, rankingOf, List.foldl_map]

/-- A type that is not ranked is not there. -/
theorem get?_rankingOf (n : ℕ) (h : Heap) (label : PyStr) :
    Dict.get? label (rankingOf n h) =
      if h.Ranks n label then some (h.count label : ℤ) else none := by
  rw [rankingOf, Dict.get?_map (fun count : ℕ => (count : ℤ)), Heap.get?_mostCommon]
  split_ifs <;> rfl

/-- A type is missing from the ranking exactly where it is not shown. -/
theorem get?_rankingOf_eq_none {n : ℕ} {h : Heap} {label : PyStr} :
    Dict.get? label (rankingOf n h) = none ↔ ¬h.Ranks n label := by
  rw [get?_rankingOf]
  split_ifs with hr <;> simp [hr]

/-- A type that is shown is counted as the heap counts it. -/
theorem countOf_of_ranks {n : ℕ} {h : Heap} {label : PyStr} (hr : h.Ranks n label) :
    countOf (rankingOf n h) label = h.count label := by
  rw [countOf, get?_rankingOf, if_pos hr, Option.getD_some]

/-- A type that is not shown is counted as none. -/
theorem countOf_of_not_ranks {n : ℕ} {h : Heap} {label : PyStr} (hr : ¬h.Ranks n label) :
    countOf (rankingOf n h) label = 0 := by
  rw [countOf, get?_rankingOf, if_neg hr, Option.getD_none]

/-- The ranking never shows more than the heap has. -/
theorem countOf_le_count (n : ℕ) (h : Heap) (label : PyStr) :
    countOf (rankingOf n h) label ≤ h.count label := by
  by_cases hr : h.Ranks n label
  · rw [countOf_of_ranks hr]
  · rw [countOf_of_not_ranks hr]
    omega

/-! ## Estimates -/

/-- The change of a type between the two heaps, which is what a delta is meant to tell. -/
def growth (h₁ h₂ : Heap) (label : PyStr) : ℤ := h₂.count label - h₁.count label

/-- A change is none or goes the way of the delta, and no further: the delta bounds it. -/
def InDirection (change delta : ℤ) : Prop :=
  (change = 0 ∨ change.sign = delta.sign) ∧ |change| ≤ |delta|

instance (change delta : ℤ) : Decidable (InDirection change delta) :=
  inferInstanceAs (Decidable (_ ∧ _))

/-- Turning the direction around on both sides keeps them in agreement. -/
theorem inDirection_neg {change delta : ℤ} :
    InDirection (-change) (-delta) ↔ InDirection change delta := by
  rw [InDirection, InDirection, neg_eq_zero, Int.sign_neg, Int.sign_neg, neg_inj, abs_neg, abs_neg]

/-- Where one side counts as zero, its true count may be up to the other's for the delta to
be a bound. -/
theorem inDirection_sub {hidden count : ℕ} (hpos : 0 < count) :
    InDirection (count - hidden) count ↔ hidden ≤ count := by
  have hsign : (count : ℤ).sign = 1 := Int.sign_eq_one_of_pos (by omega)
  rw [InDirection, hsign, Int.sign_eq_one_iff_pos]
  constructor
  · rintro ⟨hdir, -⟩
    omega
  · intro hle
    refine ⟨by omega, ?_⟩
    rw [abs_of_nonneg (by omega), abs_of_nonneg (by omega)]
    omega

/-- Where a type drops out of the ranking, its delta has the right direction exactly if no
more of it is left than was shown. -/
theorem inDirection_sub_neg {hidden count : ℕ} (hpos : 0 < count) :
    InDirection (hidden - count) (-count) ↔ hidden ≤ count := by
  rw [← neg_sub, inDirection_neg, inDirection_sub hpos]

section

variable [IsoFormat] [Unicode] [FloatText]

/-- The delta of two snapshots whose objects sections are the rankings of these
heaps. -/
def IsHeapDelta (n : ℕ) (h₁ h₂ : Heap) (d : SnapshotDelta) : Prop :=
  ∃ before after, member (py "objects") before = .obj (objectsData n h₁) ∧
    member (py "objects") after = .obj (objectsData n h₂) ∧ diffSnapshots before after = .ok d

/-- Its rows are those of the two rankings. -/
theorem IsHeapDelta.rows {n : ℕ} {h₁ h₂ : Heap} {d : SnapshotDelta} (hd : IsHeapDelta n h₁ h₂ d) :
    d.rows = typeDeltas (rankingOf n h₁) (rankingOf n h₂) := by
  obtain ⟨before, after, hb, ha, hd⟩ := hd
  unfold diffSnapshots at hd
  dsimp only at hd
  split_ifs at hd
  obtain ⟨interval, -, hd⟩ := bind_eq_ok.1 hd
  obtain ⟨objects, ho, hd⟩ := bind_eq_ok.1 hd
  rw [hb, ha, objectsDelta, countsByType_objectsData, ok_bind, countsByType_objectsData, ok_bind,
    Except.ok.injEq] at ho
  rw [← Except.ok.inj hd, SnapshotDelta.rows, ← ho, Option.elim_some]

/-- Every two heaps have a delta. -/
theorem exists_heapDelta (n : ℕ) (h₁ h₂ : Heap) : ∃ d, IsHeapDelta n h₁ h₂ d := by
  let before : List (PyStr × Json) := [(py "objects", .obj (objectsData n h₁))]
  let after : List (PyStr × Json) := [(py "objects", .obj (objectsData n h₂))]
  have hobjects : ∃ o,
      objectsDelta (.obj (objectsData n h₁)) (.obj (objectsData n h₂)) = .ok o := by
    rw [objectsDelta, countsByType_objectsData, ok_bind, countsByType_objectsData, ok_bind]
    exact ⟨_, rfl⟩
  obtain ⟨o, ho⟩ := hobjects
  have hbefore : member (py "objects") before = .obj (objectsData n h₁) := rfl
  have hafter : member (py "objects") after = .obj (objectsData n h₂) := rfl
  have hdiff : ∃ d, diffSnapshots before after = .ok d := by
    have hpid : (member (py "pid") (metaOf before)).pyEq (member (py "pid") (metaOf after)) =
        true := rfl
    have hinterval : intervalMs (member (py "captured_at") (metaOf before))
        (member (py "captured_at") (metaOf after)) = .ok none := rfl
    unfold diffSnapshots
    dsimp only
    rw [if_pos hpid, hinterval, ok_bind, hbefore, hafter, ho, ok_bind]
    exact ⟨_, rfl⟩
  obtain ⟨d, hd⟩ := hdiff
  exact ⟨d, before, after, hbefore, hafter, hd⟩

/-! ## What is not missed -/

/-- The rows of a heap delta are the labels whose delta is not zero. -/
theorem IsHeapDelta.mem_rows {n : ℕ} {h₁ h₂ : Heap} {d : SnapshotDelta}
    (hd : IsHeapDelta n h₁ h₂ d) {row : TypeDelta} :
    row ∈ d.rows ↔
      row = typeDelta (rankingOf n h₁) (rankingOf n h₂) row.type ∧ row.delta ≠ 0 := by
  rw [hd.rows, mem_typeDeltas]

/-- A side of a row is unknown where its ranking has not got the label, and the
delta is that of the rankings. -/
theorem IsHeapDelta.of_mem {n : ℕ} {h₁ h₂ : Heap} {d : SnapshotDelta}
    (hd : IsHeapDelta n h₁ h₂ d) {row : TypeDelta} (hrow : row ∈ d.rows) :
    (row.before = none ↔ ¬h₁.Ranks n row.type) ∧ (row.after = none ↔ ¬h₂.Ranks n row.type) ∧
      row.delta =
        countOf (rankingOf n h₂) row.type - countOf (rankingOf n h₁) row.type := by
  have heq := (hd.mem_rows.1 hrow).1
  refine ⟨?_, ?_, congrArg TypeDelta.delta heq⟩
  · rw [congrArg TypeDelta.before heq]
    exact get?_rankingOf_eq_none
  · rw [congrArg TypeDelta.after heq]
    exact get?_rankingOf_eq_none

/-- A row with an unknown side has a known one, and its delta is the known count, with its
sign. -/
theorem IsHeapDelta.ranks_of_unknown {n : ℕ} {h₁ h₂ : Heap} {d : SnapshotDelta}
    (hd : IsHeapDelta n h₁ h₂ d) {row : TypeDelta} (hrow : row ∈ d.rows) :
    (row.before = none → ¬h₁.Ranks n row.type ∧ h₂.Ranks n row.type ∧
        row.delta = h₂.count row.type) ∧
      (row.after = none → h₁.Ranks n row.type ∧ ¬h₂.Ranks n row.type ∧
        row.delta = -h₁.count row.type) := by
  obtain ⟨hbefore, hafter, hdelta⟩ := hd.of_mem hrow
  have hne := (hd.mem_rows.1 hrow).2
  constructor
  · intro hb
    have hzero := countOf_of_not_ranks (hbefore.1 hb)
    rw [hzero, sub_zero] at hdelta
    have hr : h₂.Ranks n row.type := by
      by_contra hr
      exact hne (hdelta.trans (countOf_of_not_ranks hr))
    exact ⟨hbefore.1 hb, hr, hdelta.trans (countOf_of_ranks hr)⟩
  · intro ha
    have hzero := countOf_of_not_ranks (hafter.1 ha)
    rw [hzero, zero_sub] at hdelta
    have hr : h₁.Ranks n row.type := by
      by_contra hr
      rw [countOf_of_not_ranks hr, neg_zero] at hdelta
      exact hne hdelta
    rw [countOf_of_ranks hr] at hdelta
    exact ⟨hr, hafter.1 ha, hdelta⟩

/-- What the rows promise of the two heaps: no growth beyond the cutoff is missed, and each
delta is exact or off by a cutoff at most. -/
structure NoLeakMissed (n : ℕ) (h₁ h₂ : Heap) (d : SnapshotDelta) : Prop where
  growing : ∀ label, (h₂.cutoff n : ℤ) < growth h₁ h₂ label →
    ∃ row ∈ d.rows, row.type = label ∧ growth h₁ h₂ label ≤ row.delta
  known : ∀ row ∈ d.rows, row.before ≠ none → row.after ≠ none →
    row.delta = growth h₁ h₂ row.type
  appeared : ∀ row ∈ d.rows, row.before = none →
    row.delta - h₁.cutoff n ≤ growth h₁ h₂ row.type ∧ growth h₁ h₂ row.type ≤ row.delta
  vanished : ∀ row ∈ d.rows, row.after = none →
    row.delta ≤ growth h₁ h₂ row.type ∧ growth h₁ h₂ row.type ≤ row.delta + h₂.cutoff n

/-- A type that grew by more than the second cutoff is in the second ranking, and
its row counts what the first heap had of it in full or as zero. -/
theorem IsHeapDelta.row_of_growth {n : ℕ} (hn : 1 ≤ n) {h₁ h₂ : Heap} {d : SnapshotDelta}
    (hd : IsHeapDelta n h₁ h₂ d) {label : PyStr}
    (hgrow : (h₂.cutoff n : ℤ) < growth h₁ h₂ label) :
    ∃ row ∈ d.rows, row.type = label ∧ growth h₁ h₂ label ≤ row.delta := by
  have hr : h₂.Ranks n label := by
    by_contra hr
    have hle := Heap.count_le_cutoff hn hr
    rw [growth] at hgrow
    omega
  have hdelta : growth h₁ h₂ label ≤
      (typeDelta (rankingOf n h₁) (rankingOf n h₂) label).delta := by
    have hle := countOf_le_count n h₁ label
    rw [typeDelta, growth, countOf_of_ranks hr]
    dsimp only
    omega
  exact ⟨_, hd.mem_rows.2 ⟨rfl, by omega⟩, rfl, hdelta⟩

/-- **No leak above the cutoff is missed**, and a row with an unknown side is off
by no more than the cutoff of that side. -/
theorem no_leak_missed {n : ℕ} (hn : 1 ≤ n) {h₁ h₂ : Heap} {d : SnapshotDelta}
    (hd : IsHeapDelta n h₁ h₂ d) : NoLeakMissed n h₁ h₂ d := by
  refine ⟨fun label hgrow => hd.row_of_growth hn hgrow, fun row hrow hb ha => ?_,
    fun row hrow hb => ?_, fun row hrow ha => ?_⟩
  · obtain ⟨hbefore, hafter, hdelta⟩ := hd.of_mem hrow
    rw [hdelta, growth, countOf_of_ranks (not_not.1 (mt hbefore.2 hb)),
      countOf_of_ranks (not_not.1 (mt hafter.2 ha))]
  · obtain ⟨hr₁, -, hdelta⟩ := (hd.ranks_of_unknown hrow).1 hb
    have hle := Heap.count_le_cutoff hn hr₁
    rw [growth, hdelta]
    omega
  · obtain ⟨-, hr₂, hdelta⟩ := (hd.ranks_of_unknown hrow).2 ha
    have hle := Heap.count_le_cutoff hn hr₂
    rw [growth, hdelta]
    omega

end

/-- A heap of three lists. -/
def threeLists : Heap := ⟨[(py "list", 3)], by decide, by decide⟩

/-- Five lists, after nine instances of each of fifty other types, which are all that the
ranking shows. -/
def crowded : Heap where
  counts := (List.range 50).map (fun i => ([Utf8.code (97 + i)], 9)) ++ [(py "list", 5)]
  nodup := by decide +kernel
  positive := by decide +kernel

/-- A type that grows in front of a crowded ranking: from three lists to five it is not
shown any more. -/
theorem no_leak_missed_crowded :
    letI := Unicode.fullwidth
    letI := Json.wholeFloats
    letI : IsoFormat := ⟨fun _ => none⟩
    ∃ d, IsHeapDelta topN threeLists crowded d ∧ NoLeakMissed topN threeLists crowded d := by
  let _ := Unicode.fullwidth
  let _ := Json.wholeFloats
  let _ : IsoFormat := ⟨fun _ => none⟩
  obtain ⟨d, hd⟩ := exists_heapDelta topN threeLists crowded
  exact ⟨d, hd, no_leak_missed (by decide) hd⟩

/-! ## The direction of an estimate -/

section

variable [IsoFormat] [Unicode] [FloatText]

/-- The delta of a row with an unknown side bounds the change of its type in the
direction the type moved. -/
def BoundsDirection (n : ℕ) (h₁ h₂ : Heap) : Prop :=
  ∀ d, IsHeapDelta n h₁ h₂ d → ∀ row ∈ d.rows, row.before = none ∨ row.after = none →
    InDirection (growth h₁ h₂ row.type) row.delta

/-- A type that is in the second ranking only has not shrunk, and one that is in
the first only has not grown. -/
def RanksFollowCounts (n : ℕ) (h₁ h₂ : Heap) : Prop :=
  ∀ label, (¬h₁.Ranks n label → h₂.Ranks n label → h₁.count label ≤ h₂.count label) ∧
    (h₁.Ranks n label → ¬h₂.Ranks n label → h₂.count label ≤ h₁.count label)

/-- A type that is in one of the rankings has a row: what the one ranking counts
of it is what moved. -/
theorem IsHeapDelta.row_of_ranks {n : ℕ} {h₁ h₂ : Heap} {d : SnapshotDelta}
    (hd : IsHeapDelta n h₁ h₂ d) (label : PyStr) :
    (¬h₁.Ranks n label → h₂.Ranks n label →
        ∃ row ∈ d.rows, row.type = label ∧ row.before = none ∧ row.delta = h₂.count label) ∧
      (h₁.Ranks n label → ¬h₂.Ranks n label →
        ∃ row ∈ d.rows, row.type = label ∧ row.after = none ∧ row.delta = -h₁.count label) := by
  have hrow : ∀ delta, countOf (rankingOf n h₂) label - countOf (rankingOf n h₁) label = delta →
      delta ≠ 0 → typeDelta (rankingOf n h₁) (rankingOf n h₂) label ∈ d.rows := by
    rintro delta rfl hne
    exact hd.mem_rows.2 ⟨rfl, hne⟩
  constructor
  · intro hr₁ hr₂
    have hpos := Heap.count_pos_of_ranks hr₂
    have hdelta : countOf (rankingOf n h₂) label - countOf (rankingOf n h₁) label =
        h₂.count label := by
      rw [countOf_of_ranks hr₂, countOf_of_not_ranks hr₁, sub_zero]
    exact ⟨_, hrow _ hdelta (by omega), rfl, get?_rankingOf_eq_none.2 hr₁, hdelta⟩
  · intro hr₁ hr₂
    have hpos := Heap.count_pos_of_ranks hr₁
    have hdelta : countOf (rankingOf n h₂) label - countOf (rankingOf n h₁) label =
        -h₁.count label := by
      rw [countOf_of_ranks hr₁, countOf_of_not_ranks hr₂, zero_sub]
    exact ⟨_, hrow _ hdelta (by omega), rfl, get?_rankingOf_eq_none.2 hr₂, hdelta⟩

/-- **The delta of an estimated row bounds the change in the direction it moved**
exactly where no type leaves the ranking while it grows and none enters it while
it shrinks. -/
theorem boundsDirection_iff (n : ℕ) (h₁ h₂ : Heap) :
    BoundsDirection n h₁ h₂ ↔ RanksFollowCounts n h₁ h₂ := by
  constructor
  · intro h label
    obtain ⟨d, hd⟩ := exists_heapDelta n h₁ h₂
    obtain ⟨hentered, hleft⟩ := hd.row_of_ranks label
    refine ⟨fun hr₁ hr₂ => ?_, fun hr₁ hr₂ => ?_⟩
    · obtain ⟨row, hrow, rfl, hside, hdelta⟩ := hentered hr₁ hr₂
      have hdir := h d hd row hrow (.inl hside)
      rwa [growth, hdelta, inDirection_sub (Heap.count_pos_of_ranks hr₂)] at hdir
    · obtain ⟨row, hrow, rfl, hside, hdelta⟩ := hleft hr₁ hr₂
      have hdir := h d hd row hrow (.inr hside)
      rwa [growth, hdelta, inDirection_sub_neg (Heap.count_pos_of_ranks hr₁)] at hdir
  · intro h d hd row hrow hside
    obtain ⟨hbefore, hafter⟩ := hd.ranks_of_unknown hrow
    rcases hside with hb | ha
    · obtain ⟨hr₁, hr₂, hdelta⟩ := hbefore hb
      rw [growth, hdelta, inDirection_sub (Heap.count_pos_of_ranks hr₂)]
      exact (h row.type).1 hr₁ hr₂
    · obtain ⟨hr₁, hr₂, hdelta⟩ := hafter ha
      rw [growth, hdelta, inDirection_sub_neg (Heap.count_pos_of_ranks hr₁)]
      exact (h row.type).2 hr₁ hr₂

omit [IsoFormat] [Unicode] [FloatText] in
/-- Where the cutoff did not move, every estimate bounds the change: a type that dropped out
has not grown. -/
theorem ranksFollowCounts_of_cutoff {n : ℕ} (hn : 1 ≤ n) {h₁ h₂ : Heap}
    (h : h₁.cutoff n = h₂.cutoff n) : RanksFollowCounts n h₁ h₂ := by
  intro label
  refine ⟨fun hr₁ hr₂ => ?_, fun hr₁ hr₂ => ?_⟩
  · exact (Heap.count_le_cutoff hn hr₁).trans (h.trans_le (Heap.cutoff_le_count hr₂))
  · exact (Heap.count_le_cutoff hn hr₂).trans (h.symm.trans_le (Heap.cutoff_le_count hr₁))

end

/-- Two lists more are reported as three lists fewer: fifty types that were not
there push `list` out of the ranking. -/
theorem crowded_out_not_bounded :
    letI := Unicode.fullwidth
    letI := Json.wholeFloats
    letI : IsoFormat := ⟨fun _ => none⟩
    ¬BoundsDirection topN threeLists crowded := by
  let _ := Unicode.fullwidth
  let _ := Json.wholeFloats
  let _ : IsoFormat := ⟨fun _ => none⟩
  intro h
  have hr₁ : threeLists.Ranks topN (py "list") := by decide
  have hr₂ : ¬crowded.Ranks topN (py "list") := by decide +kernel
  obtain ⟨d, hd⟩ := exists_heapDelta topN threeLists crowded
  obtain ⟨row, hrow, hlabel, hside, hdelta⟩ := (hd.row_of_ranks (py "list")).2 hr₁ hr₂
  have hdir := h d hd row hrow (.inr hside)
  rw [hlabel, hdelta] at hdir
  revert hdir
  decide +kernel

end Diff
end Pidprobe
