/-
# Deltas between two snapshots

`diff_snapshots` of `_diff.py`.  A delta is a structure with a field for each key
of the document; a `None` is a `none`.

The rows of the object ranking come from a loop over a set of labels and are then
sorted by a key no two of them share, so the order the set is walked in does not
matter; the model walks the labels of the earlier ranking first.
`mem_typeDeltas` says which rows there are.
-/

import Mathlib.Data.List.Lex
import Mathlib.Data.List.Sort
import Mathlib.Order.Interval.Finset.Fin
import Pidprobe.Snapshot

namespace Pidprobe
namespace Diff

/-! ## Counters -/

/-- `_as_int`: a counter the target reported. A `bool` is no integer here, and neither is a
`float`. -/
def asInt : Json → Option ℤ
  | .int n => some n
  | _ => none

/-- One integer that moved, or stayed: the value before, the value after, and their
difference. -/
structure Change where
  before : ℤ
  after : ℤ
  delta : ℤ
  deriving DecidableEq

/-- `_change`: the change between two integers, or nothing where either side is missing or
is no integer. -/
def change (before after : Json) : Option Change :=
  match asInt before, asInt after with
  | some was, some now => some ⟨was, now, now - was⟩
  | _, _ => none

/-! ## The object ranking -/

/-- A row of `objects.types`. A side is missing where its ranking did not list the type, and
counts as zero for the delta. -/
structure TypeDelta where
  type : PyStr
  before : Option ℤ
  after : Option ℤ
  delta : ℤ
  deriving DecidableEq

/-- One round of the loop of `_counts_by_type`. A row that is malformed is skipped, and a
later row of one type replaces an earlier one. -/
def addCount (counts : List (PyStr × ℤ)) : Json → List (PyStr × ℤ)
  | .obj entry =>
    match member (py "type") entry, asInt (member (py "count") entry) with
    | .str label, some count => Dict.set label count counts
    | _, _ => counts
  | _ => counts

/-- `_counts_by_type`. A `top` that is false is empty; one that cannot be iterated raises
`TypeError`. -/
def countsByType (ranking : List (PyStr × Json)) : Except PyError (List (PyStr × ℤ)) := do
  let entries ← iterate ((member (py "top") ranking).orElse (.arr []))
  .ok (entries.foldl addCount [])

/-- `counts.get(label) or 0`. -/
def countOf (counts : List (PyStr × ℤ)) (label : PyStr) : ℤ := (Dict.get? label counts).getD 0

/-- The row of one label, whether it moved or not. -/
def typeDelta (before after : List (PyStr × ℤ)) (label : PyStr) : TypeDelta where
  type := label
  before := Dict.get? label before
  after := Dict.get? label after
  delta := countOf after label - countOf before label

/-- `before.keys() | after.keys()`, in one order of the many a set may have. That the order
does not matter is `typeDeltasIn_eq`. -/
def labels (before after : List (PyStr × ℤ)) : List PyStr :=
  before.map Prod.fst ++ (after.map Prod.fst).filter fun label => label ∉ before.map Prod.fst

/-- The order of the sort key `(-delta, type)`: the largest growth first, equal deltas by
their labels. -/
def TypeDelta.Precedes (x y : TypeDelta) : Prop :=
  y.delta < x.delta ∨ x.delta = y.delta ∧ x.type ≤ y.type

instance : DecidableRel TypeDelta.Precedes := fun _ _ => inferInstanceAs (Decidable (_ ∨ _))

/-- `_type_deltas`: the rows of the labels that moved, sorted. The key determines the row,
so the sort has one result. -/
def typeDeltas (before after : List (PyStr × ℤ)) : List TypeDelta :=
  (((labels before after).map (typeDelta before after)).filter fun row =>
    row.delta ≠ 0).insertionSort TypeDelta.Precedes

/-- The `objects` section of a delta: the later `top_n`, the two totals, and the rows of the
types that moved. -/
structure ObjectsDelta where
  topN : Option ℤ
  totalTracked : Option Change
  distinctTypes : Option Change
  types : List TypeDelta

/-- `_objects_delta`: nothing where a snapshot lacks the section, as it does where the
collector failed. -/
def objectsDelta : Json → Json → Except PyError (Option ObjectsDelta)
  | .obj before, .obj after => do
    let was ← countsByType before
    let now ← countsByType after
    .ok (some
      { topN := asInt (member (py "top_n") after)
        totalTracked :=
          change (member (py "total_tracked") before) (member (py "total_tracked") after)
        distinctTypes :=
          change (member (py "distinct_types") before) (member (py "distinct_types") after)
        types := typeDeltas was now })
  | _, _ => .ok none

/-! ## The other sections -/

/-- `_GC_UNCHANGING_KEYS`: the index labels a row, and the threshold is configuration. -/
def gcUnchangingKeys : List PyStr := [py "generation", py "threshold"]

/-- A row of `gc.generations`. -/
structure GenerationDelta where
  generation : ℤ
  changes : List (PyStr × Change)

/-- One round of the loop of `_generations_by_index`. Rows without an index are skipped, and
a later row of one index wins. -/
def addGeneration (indexed : List (ℤ × List (PyStr × Json))) :
    Json → List (ℤ × List (PyStr × Json))
  | .obj entry =>
    match asInt (member (py "generation") entry) with
    | some index => Dict.set index entry indexed
    | none => indexed
  | _ => indexed

/-- `_generations_by_index`. -/
def generationsByIndex : Json → List (ℤ × List (PyStr × Json))
  | .arr entries => entries.foldl addGeneration []
  | _ => []

/-- The statistics of one row: every key of the later row that is an integer on both sides,
in its order. -/
def statistics (previous entry : List (PyStr × Json)) : List (PyStr × Change) :=
  entry.filterMap fun statistic =>
    if statistic.1 ∈ gcUnchangingKeys then none
    else (change (member statistic.1 previous) statistic.2).map (statistic.1, ·)

/-- One round of the loop of `_generation_deltas`: a later row, where there is an earlier
one of its index. -/
def generationDelta (previousByIndex : List (ℤ × List (PyStr × Json))) :
    Json → Option GenerationDelta
  | .obj entry => do
    let index ← asInt (member (py "generation") entry)
    let previous ← Dict.get? index previousByIndex
    some ⟨index, statistics previous entry⟩
  | _ => none

/-- `_generation_deltas`: the generations are paired by their index, not by their
position. -/
def generationDeltas (before : Json) : Json → List GenerationDelta
  | .arr entries => entries.filterMap (generationDelta (generationsByIndex before))
  | _ => []

/-- The `gc` section of a delta. -/
structure GcDelta where
  generations : List GenerationDelta
  garbageCount : Option Change
  freezeCount : Option Change

/-- `_gc_delta`: nothing where a snapshot lacks the section, and otherwise the generations
and the two totals. -/
def gcDelta : Json → Json → Option GcDelta
  | .obj before, .obj after => some
    { generations :=
        generationDeltas (member (py "generations") before) (member (py "generations") after)
      garbageCount :=
        change (member (py "garbage_count") before) (member (py "garbage_count") after)
      freezeCount :=
        change (member (py "freeze_count") before) (member (py "freeze_count") after) }
  | _, _ => none

/-- The `fds` section of a delta. -/
structure FdsDelta where
  count : Option Change

/-- `_fds_delta`. -/
def fdsDelta : Json → Json → Option FdsDelta
  | .obj before, .obj after => some
    { count := change (member (py "count") before) (member (py "count") after) }
  | _, _ => none

/-! ## The delta document -/

/-- The delta document, its `meta` in front. A section is missing where either snapshot
lacks it. -/
structure SnapshotDelta where
  schemaVersion : PyStr
  pid : Json
  capturedFrom : Json
  capturedTo : Json
  intervalMs : Option PyFloat
  objects : Option ObjectsDelta
  gc : Option GcDelta
  fds : Option FdsDelta

/-- `_meta_of`: a snapshot's `meta`, or an empty one where there is none or it is no
object. -/
def metaOf (snapshot : List (PyStr × Json)) : List (PyStr × Json) :=
  match member (py "meta") snapshot with
  | .obj own => own
  | _ => []

section

variable [IsoFormat]

/-- `_interval_ms`: the milliseconds between two times that can be read.  The difference of
an aware and a naive time raises. -/
def intervalMs : Json → Json → Except PyError (Option PyFloat)
  | .str capturedFrom, .str capturedTo =>
    match IsoFormat.fromisoformat capturedFrom, IsoFormat.fromisoformat capturedTo with
    | some started, some ended =>
      if started.aware = ended.aware then
        .ok (some (roundThousandths
          (.finite ((ended.microseconds - started.microseconds : ℤ) / 1000))))
      else .error (.typeError (py "can't subtract offset-naive and offset-aware datetimes"))
    | _, _ => .ok none
  | _, _ => .ok none

variable [Unicode] [FloatText]

/-- The message for two processes. -/
def differentProcesses (before after : Json) : PyStr :=
  py "cannot diff snapshots of different processes: " ++ before.repr ++ py " and " ++ after.repr

/-- `diff_snapshots`. The pids are compared by Python's `==`, so that `True` is `1`, and
snapshots of two processes are refused. -/
def diffSnapshots (before after : List (PyStr × Json)) : Except PyError SnapshotDelta :=
  let was := member (py "pid") (metaOf before)
  let pid := member (py "pid") (metaOf after)
  if was.pyEq pid then do
    let capturedFrom := member (py "captured_at") (metaOf before)
    let capturedTo := member (py "captured_at") (metaOf after)
    let interval ← intervalMs capturedFrom capturedTo
    let objects ← objectsDelta (member (py "objects") before) (member (py "objects") after)
    .ok
      { schemaVersion, pid, capturedFrom, capturedTo, objects
        intervalMs := interval
        gc := gcDelta (member (py "gc") before) (member (py "gc") after)
        fds := fdsDelta (member (py "fds") before) (member (py "fds") after) }
  else .error (.valueError (differentProcesses was pid))

/-! ## Snapshots of one process -/

/-- A snapshot of the process: its `meta` carries the pid, and a capture time
that, where it is one, is aware. -/
def IsSnapshotOf (pid : ℤ) (snapshot : List (PyStr × Json)) : Prop :=
  ∃ own, member (py "meta") snapshot = .obj own ∧ member (py "pid") own = .int pid ∧
    ∀ text m, member (py "captured_at") own = .str text →
      IsoFormat.fromisoformat text = some m → m.aware = true

omit [Unicode] [FloatText] in
/-- Two aware times have a difference, and so have texts that are no times. -/
theorem intervalMs_ok {capturedFrom capturedTo : Json}
    (hfrom : ∀ text m, capturedFrom = .str text → IsoFormat.fromisoformat text = some m →
      m.aware = true)
    (hto : ∀ text m, capturedTo = .str text → IsoFormat.fromisoformat text = some m →
      m.aware = true) : ∃ interval, intervalMs capturedFrom capturedTo = .ok interval := by
  unfold intervalMs
  split
  · split
    · next hf ht => exact ⟨_, if_pos ((hfrom _ _ rfl hf).trans (hto _ _ rfl ht).symm)⟩
    · exact ⟨_, rfl⟩
  · exact ⟨_, rfl⟩

/-- Two snapshots of one process differ in their sections only: what
`diff_snapshots` comes to is what their object rankings come to. -/
theorem diffSnapshots_of_process {pid : ℤ} {before after : List (PyStr × Json)}
    (hb : IsSnapshotOf pid before) (ha : IsSnapshotOf pid after) :
    (∀ objects,
      objectsDelta (member (py "objects") before) (member (py "objects") after) = .ok objects →
        ∃ d, diffSnapshots before after = .ok d ∧ d.objects = objects ∧
          d.gc = gcDelta (member (py "gc") before) (member (py "gc") after) ∧
          d.fds = fdsDelta (member (py "fds") before) (member (py "fds") after)) ∧
      ∀ e, objectsDelta (member (py "objects") before) (member (py "objects") after) = .error e →
        diffSnapshots before after = .error e := by
  obtain ⟨own, hown, hpid, haware⟩ := hb
  obtain ⟨own', hown', hpid', haware'⟩ := ha
  obtain ⟨interval, hi⟩ := intervalMs_ok haware haware'
  have heq : (Json.int pid).pyEq (.int pid) = true := by simp
  simp only [diffSnapshots, metaOf, hown, hown', hpid, hpid', heq, if_true, hi, ok_bind]
  refine ⟨fun objects ho => ?_, fun e he => ?_⟩
  · rw [ho]
    exact ⟨_, rfl, rfl, rfl, rfl⟩
  · rw [he, error_bind]

end

/-! ## Which rows there are -/

/-- The labels of a delta are those of either side. -/
theorem mem_labels {before after : List (PyStr × ℤ)} {label : PyStr} :
    label ∈ labels before after ↔ label ∈ before.map Prod.fst ∨ label ∈ after.map Prod.fst := by
  rw [labels, List.mem_append, List.mem_filter, decide_eq_true_eq]
  tauto

/-- A label of neither ranking does not move. -/
theorem typeDelta_eq_zero {before after : List (PyStr × ℤ)} {label : PyStr}
    (h : label ∉ labels before after) : (typeDelta before after label).delta = 0 := by
  rw [mem_labels, not_or] at h
  rw [typeDelta, countOf, countOf, Dict.get?_eq_none h.1, Dict.get?_eq_none h.2]
  rfl

/-- Each label has one delta, as it has one count on each side. -/
theorem nodup_labels {before after : List (PyStr × ℤ)} (hb : Dict.NodupKeys before)
    (ha : Dict.NodupKeys after) : (labels before after).Nodup := by
  refine List.nodup_append.2 ⟨hb, List.Nodup.filter _ ha, ?_⟩
  rintro label hmem _ hmem' rfl
  exact absurd hmem (by simpa using (List.mem_filter.1 hmem').2)

/-- No label has two rows. -/
theorem nodup_typeDeltas {before after : List (PyStr × ℤ)} (hb : Dict.NodupKeys before)
    (ha : Dict.NodupKeys after) : (typeDeltas before after).Nodup := by
  rw [typeDeltas, (List.perm_insertionSort _ _).nodup_iff]
  refine List.Nodup.filter _ (List.Nodup.map ?_ (nodup_labels hb ha))
  exact fun label label' h => congrArg TypeDelta.type h

/-- **The rows of a ranking's delta** are the labels that moved, each with the counts of the
two sides. -/
theorem mem_typeDeltas {before after : List (PyStr × ℤ)} {row : TypeDelta} :
    row ∈ typeDeltas before after ↔
      row = typeDelta before after row.type ∧ row.delta ≠ 0 := by
  rw [typeDeltas, List.mem_insertionSort, List.mem_filter, List.mem_map, decide_eq_true_eq]
  constructor
  · rintro ⟨⟨label, -, rfl⟩, hne⟩
    exact ⟨rfl, hne⟩
  · rintro ⟨hrow, hne⟩
    refine ⟨⟨row.type, ?_, hrow.symm⟩, hne⟩
    by_contra hmem
    exact hne (hrow ▸ typeDelta_eq_zero hmem)

/-! ## The counts of a ranking -/

/-- Counting one more row adds no second entry for its type. -/
theorem nodupKeys_addCount {counts : List (PyStr × ℤ)} (h : Dict.NodupKeys counts) (v : Json) :
    Dict.NodupKeys (addCount counts v) := by
  cases v with
  | obj entry =>
    unfold addCount
    dsimp only
    split
    · exact h.set _ _
    · exact h
  | _ => exact h

/-- The counts of a section have each type once, however often its rows name it: they are a
dictionary. -/
theorem nodupKeys_countsByType {ranking : List (PyStr × Json)} {counts : List (PyStr × ℤ)}
    (h : countsByType ranking = .ok counts) : Dict.NodupKeys counts := by
  obtain ⟨entries, -, h⟩ := bind_eq_ok.1 h
  obtain rfl := Except.ok.inj h
  exact List.foldlRecOn entries addCount Dict.nodupKeys_nil fun _ hc _ _ => nodupKeys_addCount hc _

/-- A ranking that is a list can be read. -/
theorem countsByType_arr {ranking : List (PyStr × Json)} {entries : List Json}
    (h : member (py "top") ranking = .arr entries) :
    countsByType ranking = .ok (entries.foldl addCount []) := by
  rw [countsByType, h, Json.orElse_arr, iterate, Json.elements, ok_bind]

end Diff
end Pidprobe
