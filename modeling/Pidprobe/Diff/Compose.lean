/-
# Deltas compose

The deltas of a series of snapshots of one process add up: for every label of the
object rankings, and for every total, the sum over the consecutive deltas is the
delta of the last snapshot against the first.  A label outside a ranking counts
as zero, and a label that does not move has no row, which is where the two rules
have to fit together (`delta_of_label`).

The sums are one induction over the series (`sum_consecutiveDeltas`), from what
one delta says about its two snapshots (`diff_of_rankings`).
-/

import Pidprobe.Diff

namespace Pidprobe
namespace Diff

/-! ## Labels -/

/-- The objects section has a ranking that is a list, as the collector makes it. -/
def HasRanking (snapshot : List (PyStr × Json)) : Prop :=
  ∃ ranking entries, member (py "objects") snapshot = .obj ranking ∧
    member (py "top") ranking = .arr entries

/-- The counts in the ranking of a snapshot, none where there is no section. -/
def rankingCounts (snapshot : List (PyStr × Json)) : List (PyStr × ℤ) :=
  match member (py "objects") snapshot with
  | .obj ranking => (countsByType ranking).toOption.getD []
  | _ => []

/-- The count of a label, `0` where it is not in the ranking. -/
def rankingCount (snapshot : List (PyStr × Json)) (label : PyStr) : ℤ :=
  countOf (rankingCounts snapshot) label

/-- A snapshot counts each type once. -/
theorem nodupKeys_rankingCounts (snapshot : List (PyStr × Json)) :
    Dict.NodupKeys (rankingCounts snapshot) := by
  unfold rankingCounts
  split
  · next ranking _ =>
    rcases hc : countsByType ranking with e | counts
    · exact Dict.nodupKeys_nil
    · exact nodupKeys_countsByType hc
  · exact Dict.nodupKeys_nil

/-- The rows of a delta's object ranking. -/
def SnapshotDelta.rows (d : SnapshotDelta) : List TypeDelta :=
  d.objects.elim [] ObjectsDelta.types

/-- The delta of a label, `0` where it has no row, since a label that did not move has
none. -/
def SnapshotDelta.labelDelta (label : PyStr) (d : SnapshotDelta) : ℤ :=
  ((d.rows.find? fun row => row.type = label).map TypeDelta.delta).getD 0

/-- The None-as-zero rule and the omission rule fit together: the delta of a label is the
difference of its counts, row or not. -/
theorem delta_of_label (before after : List (PyStr × ℤ)) (label : PyStr) :
    (((typeDeltas before after).find? fun row => row.type = label).map TypeDelta.delta).getD 0 =
      countOf after label - countOf before label := by
  rcases hf : (typeDeltas before after).find? (fun row => row.type = label) with _ | row
  · have hzero : (typeDelta before after label).delta = 0 := by
      by_contra hne
      have hmem : typeDelta before after label ∈ typeDeltas before after :=
        mem_typeDeltas.2 ⟨rfl, hne⟩
      have := List.find?_eq_none.1 hf _ hmem
      simp [typeDelta] at this
    rw [hf, Option.map_none, Option.getD_none, ← hzero, typeDelta]
  · have hlabel : row.type = label := by simpa using List.find?_some hf
    have hrow := (mem_typeDeltas.1 (List.mem_of_find?_eq_some hf)).1
    rw [hlabel] at hrow
    rw [hf, Option.map_some, Option.getD_some, hrow, typeDelta]

/-! ## Totals -/

/-- The integers a section reports once, and a delta as one change: two of the objects, two
of the collector, one of the descriptors. -/
inductive Total
  | totalTracked
  | distinctTypes
  | garbageCount
  | freezeCount
  | fdsCount

/-- The section and the key of a total, under which a snapshot reports it. -/
def Total.place : Total → PyStr × PyStr
  | .totalTracked => (py "objects", py "total_tracked")
  | .distinctTypes => (py "objects", py "distinct_types")
  | .garbageCount => (py "gc", py "garbage_count")
  | .freezeCount => (py "gc", py "freeze_count")
  | .fdsCount => (py "fds", py "count")

/-- An integer of a section. -/
def reportedIn (key : PyStr) : Json → Option ℤ
  | .obj ms => asInt (member key ms)
  | _ => none

/-- The total a snapshot reports, where it is an integer. -/
def Total.reported (total : Total) (snapshot : List (PyStr × Json)) : Option ℤ :=
  reportedIn total.place.2 (member total.place.1 snapshot)

/-- How a delta says the total moved, where it has the section and both sides were
integers. -/
def Total.change (total : Total) (d : SnapshotDelta) : Option Change :=
  match total with
  | .totalTracked => d.objects.bind ObjectsDelta.totalTracked
  | .distinctTypes => d.objects.bind ObjectsDelta.distinctTypes
  | .garbageCount => d.gc.bind GcDelta.garbageCount
  | .freezeCount => d.gc.bind GcDelta.freezeCount
  | .fdsCount => d.fds.bind FdsDelta.count

/-- The change between two integers that are there. -/
def changeOf : Option ℤ → Option ℤ → Option Change
  | some was, some now => some ⟨was, now, now - was⟩
  | _, _ => none

/-- The totals of the objects section, where both sides report them, whatever the ranking
is. -/
theorem objectsDelta_totals {before after : Json} {objects : Option ObjectsDelta}
    (h : objectsDelta before after = .ok objects) :
    objects.bind ObjectsDelta.totalTracked =
        changeOf (reportedIn (py "total_tracked") before) (reportedIn (py "total_tracked") after) ∧
      objects.bind ObjectsDelta.distinctTypes =
        changeOf (reportedIn (py "distinct_types") before)
          (reportedIn (py "distinct_types") after) := by
  unfold objectsDelta at h
  split at h
  · obtain ⟨was, -, h⟩ := bind_eq_ok.1 h
    obtain ⟨now, -, h⟩ := bind_eq_ok.1 h
    obtain rfl := Except.ok.inj h
    exact ⟨rfl, rfl⟩
  · obtain rfl := Except.ok.inj h
    cases before <;> cases after <;> simp_all [reportedIn, changeOf]

/-- Those of the gc section. -/
theorem gcDelta_totals (before after : Json) :
    (gcDelta before after).bind GcDelta.garbageCount =
        changeOf (reportedIn (py "garbage_count") before) (reportedIn (py "garbage_count") after) ∧
      (gcDelta before after).bind GcDelta.freezeCount =
        changeOf (reportedIn (py "freeze_count") before)
          (reportedIn (py "freeze_count") after) := by
  cases before <;> cases after <;> simp [gcDelta, reportedIn, changeOf]
  exact ⟨rfl, rfl⟩

/-- That of the fds section. -/
theorem fdsDelta_total (before after : Json) :
    (fdsDelta before after).bind FdsDelta.count =
      changeOf (reportedIn (py "count") before) (reportedIn (py "count") after) := by
  cases before <;> cases after <;> simp [fdsDelta, reportedIn, changeOf]
  rfl

/-! ## The other way round -/

/-- A change read backwards: from the later snapshot to the earlier one. -/
def Change.swap (c : Change) : Change := ⟨c.after, c.before, -c.delta⟩

/-- A row read backwards. -/
def TypeDelta.swap (row : TypeDelta) : TypeDelta := ⟨row.type, row.after, row.before, -row.delta⟩

/-- Exchanging the two sides of a total exchanges its change. -/
theorem changeOf_swap (was now : Option ℤ) :
    changeOf now was = (changeOf was now).map Change.swap := by
  cases was <;> cases now <;> simp [changeOf, Change.swap]

/-- Exchanging the two sides exchanges the delta of a type. -/
theorem typeDelta_swap (before after : List (PyStr × ℤ)) (label : PyStr) :
    typeDelta after before label = (typeDelta before after label).swap := by
  simp [typeDelta, TypeDelta.swap]

/-- Exchanging twice changes nothing. -/
theorem TypeDelta.swap_swap (row : TypeDelta) : row.swap.swap = row := by
  simp [TypeDelta.swap]

/-- A row of a delta is, with its sides exchanged, a row of the delta the other way round.
-/
theorem swap_mem_typeDeltas {before after : List (PyStr × ℤ)} {row : TypeDelta}
    (h : row ∈ typeDeltas before after) : row.swap ∈ typeDeltas after before := by
  obtain ⟨hrow, hne⟩ := mem_typeDeltas.1 h
  refine mem_typeDeltas.2 ⟨?_, by simpa [TypeDelta.swap] using hne⟩
  exact (congrArg TypeDelta.swap hrow).trans (typeDelta_swap _ _ _).symm

/-- The rows of the swapped rankings are the swapped rows, in another order. -/
theorem typeDeltas_swap {before after : List (PyStr × ℤ)} (hb : Dict.NodupKeys before)
    (ha : Dict.NodupKeys after) :
    (typeDeltas after before).Perm ((typeDeltas before after).map TypeDelta.swap) := by
  have hinj : Function.Injective TypeDelta.swap :=
    Function.LeftInverse.injective TypeDelta.swap_swap
  rw [List.perm_ext_iff_of_nodup (nodup_typeDeltas ha hb) ((nodup_typeDeltas hb ha).map hinj)]
  intro row
  rw [List.mem_map]
  constructor
  · exact fun h => ⟨row.swap, swap_mem_typeDeltas h, row.swap_swap⟩
  · rintro ⟨row', h, rfl⟩
    exact swap_mem_typeDeltas h

/-- The objects section of the swapped snapshots: every delta is negated, and
`before` and `after` are exchanged. -/
structure SwappedObjects (d d' : SnapshotDelta) : Prop where
  rows : d'.rows.Perm (d.rows.map TypeDelta.swap)
  totalTracked : Total.totalTracked.change d' = (Total.totalTracked.change d).map Change.swap
  distinctTypes : Total.distinctTypes.change d' = (Total.distinctTypes.change d).map Change.swap

/-! ## Two snapshots of one process -/

section

variable [IsoFormat] [Unicode] [FloatText]

/-- A delta that is returned reports the totals both snapshots report, each as one change. -/
theorem total_change {pid : ℤ} {before after : List (PyStr × Json)} {d : SnapshotDelta}
    (hb : IsSnapshotOf pid before) (ha : IsSnapshotOf pid after)
    (hd : diffSnapshots before after = .ok d) (total : Total) :
    total.change d = changeOf (total.reported before) (total.reported after) := by
  obtain ⟨hok, herr⟩ := diffSnapshots_of_process hb ha
  rcases ho : objectsDelta (member (py "objects") before) (member (py "objects") after) with
    e | objects
  · rw [herr e ho] at hd
    cases hd
  · obtain ⟨d', hd', hobjects, hgc, hfds⟩ := hok objects ho
    obtain rfl : d = d' := Except.ok.inj (hd.symm.trans hd')
    obtain ⟨htracked, hdistinct⟩ := objectsDelta_totals ho
    cases total with
    | totalTracked => rw [Total.change, hobjects, htracked]; rfl
    | distinctTypes => rw [Total.change, hobjects, hdistinct]; rfl
    | garbageCount => rw [Total.change, hgc, (gcDelta_totals _ _).1]; rfl
    | freezeCount => rw [Total.change, hgc, (gcDelta_totals _ _).2]; rfl
    | fdsCount => rw [Total.change, hfds, fdsDelta_total]; rfl

/-- Two snapshots of one process with rankings have a delta, whose rows come from
the counts of the two rankings. -/
theorem diff_of_rankings {pid : ℤ} {before after : List (PyStr × Json)}
    (hb : IsSnapshotOf pid before) (ha : IsSnapshotOf pid after) (hrb : HasRanking before)
    (hra : HasRanking after) :
    ∃ d, diffSnapshots before after = .ok d ∧
      d.rows = typeDeltas (rankingCounts before) (rankingCounts after) := by
  obtain ⟨ranking, entries, hobj, htop⟩ := hrb
  obtain ⟨ranking', entries', hobj', htop'⟩ := hra
  have hwas := countsByType_arr htop
  have hnow := countsByType_arr htop'
  obtain ⟨d, hd, hobjects, -, -⟩ := (diffSnapshots_of_process hb ha).1 _ (by
    rw [hobj, hobj', objectsDelta, hwas, ok_bind, hnow, ok_bind])
  refine ⟨d, hd, ?_⟩
  simp only [SnapshotDelta.rows, hobjects, Option.elim_some, rankingCounts, hobj, hobj', hwas, hnow,
    Except.toOption, Option.getD_some]

/-- What a delta says of a label: the difference of its counts in the two rankings. -/
theorem labelDelta_of_diff {pid : ℤ} {before after : List (PyStr × Json)} {d : SnapshotDelta}
    (hb : IsSnapshotOf pid before) (ha : IsSnapshotOf pid after) (hrb : HasRanking before)
    (hra : HasRanking after) (hd : diffSnapshots before after = .ok d) (label : PyStr) :
    d.labelDelta label = rankingCount after label - rankingCount before label := by
  obtain ⟨d', hd', hrows⟩ := diff_of_rankings hb ha hrb hra
  obtain rfl : d = d' := Except.ok.inj (hd.symm.trans hd')
  rw [SnapshotDelta.labelDelta, hrows, delta_of_label, rankingCount, rankingCount]

/-- The deltas of two snapshots in both orders: the one is the other read backwards. -/
theorem swapped_of_rankings {pid : ℤ} {before after : List (PyStr × Json)}
    (hb : IsSnapshotOf pid before) (ha : IsSnapshotOf pid after) (hrb : HasRanking before)
    (hra : HasRanking after) :
    ∃ d d', diffSnapshots before after = .ok d ∧ diffSnapshots after before = .ok d' ∧
      SwappedObjects d d' := by
  obtain ⟨d, hd, hrows⟩ := diff_of_rankings hb ha hrb hra
  obtain ⟨d', hd', hrows'⟩ := diff_of_rankings ha hb hra hrb
  refine ⟨d, d', hd, hd', ⟨?_, ?_, ?_⟩⟩
  · rw [hrows, hrows']
    exact typeDeltas_swap (nodupKeys_rankingCounts _) (nodupKeys_rankingCounts _)
  · rw [total_change ha hb hd', total_change hb ha hd, changeOf_swap]
  · rw [total_change ha hb hd', total_change hb ha hd, changeOf_swap]

/-! ## A series of snapshots -/

/-- The deltas of consecutive snapshots, or the error of the first two that cannot be
compared. -/
def consecutiveDeltas :
    List (PyStr × Json) → List (List (PyStr × Json)) → Except PyError (List SnapshotDelta)
  | _, [] => .ok []
  | previous, current :: rest => do
    let delta ← diffSnapshots previous current
    let deltas ← consecutiveDeltas current rest
    .ok (delta :: deltas)

/-- Snapshots any two of which can be compared have consecutive deltas, each of
two of them. -/
theorem consecutiveDeltas_ok {first : List (PyStr × Json)} {rest : List (List (PyStr × Json))}
    (h : ∀ before ∈ first :: rest, ∀ after ∈ first :: rest,
      ∃ d, diffSnapshots before after = .ok d) :
    ∃ deltas, consecutiveDeltas first rest = .ok deltas ∧
      ∀ d ∈ deltas, ∃ before ∈ first :: rest, ∃ after ∈ first :: rest,
        diffSnapshots before after = .ok d := by
  induction rest generalizing first with
  | nil => exact ⟨[], rfl, by simp⟩
  | cons second rest ih =>
    obtain ⟨deltas, hds, hfrom⟩ := ih fun before hb after ha =>
      h before (List.mem_cons_of_mem _ hb) after (List.mem_cons_of_mem _ ha)
    obtain ⟨d, hd⟩ := h first (List.mem_cons_self ..) second (by simp)
    refine ⟨d :: deltas, by rw [consecutiveDeltas, hd, ok_bind, hds, ok_bind], ?_⟩
    rintro e he
    rcases List.mem_cons.1 he with rfl | he
    · exact ⟨first, List.mem_cons_self .., second, by simp, hd⟩
    · obtain ⟨before, hb, after, ha, he⟩ := hfrom e he
      exact ⟨before, List.mem_cons_of_mem _ hb, after, List.mem_cons_of_mem _ ha, he⟩

/-- What each delta says of its two snapshots, the deltas of a series say of its
first and its last one. -/
theorem sum_consecutiveDeltas (measure : List (PyStr × Json) → ℤ) {moved : SnapshotDelta → ℤ}
    {first : List (PyStr × Json)} {rest : List (List (PyStr × Json))} {deltas : List SnapshotDelta}
    (h : consecutiveDeltas first rest = .ok deltas)
    (hmoved : ∀ before ∈ first :: rest, ∀ after ∈ first :: rest, ∀ d,
      diffSnapshots before after = .ok d → moved d = measure after - measure before) :
    (deltas.map moved).sum =
      measure ((first :: rest).getLast (List.cons_ne_nil _ _)) - measure first := by
  induction rest generalizing first deltas with
  | nil =>
    obtain rfl := Except.ok.inj h
    simp
  | cons second rest ih =>
    obtain ⟨d, hd, h⟩ := bind_eq_ok.1 h
    obtain ⟨ds, hds, h⟩ := bind_eq_ok.1 h
    obtain rfl := Except.ok.inj h
    have htail := ih hds fun before hb after ha d =>
      hmoved before (List.mem_cons_of_mem _ hb) after (List.mem_cons_of_mem _ ha) d
    have hhead := hmoved first (List.mem_cons_self ..) second (by simp) d hd
    rw [List.map_cons, List.sum_cons, htail, hhead, List.getLast_cons (List.cons_ne_nil _ _)]
    ring

/-- The delta of a total, `0` where it has none, which is where a snapshot did not report
it. -/
def Total.delta (total : Total) (d : SnapshotDelta) : ℤ := (total.change d).elim 0 Change.delta

/-- The deltas of a series and the delta of its last snapshot against the first
say the same of every label and of every total all its snapshots report. -/
structure Composes (first last : List (PyStr × Json)) (series : List (List (PyStr × Json)))
    (deltas : List SnapshotDelta) (whole : SnapshotDelta) : Prop where
  labels : ∀ label,
    (deltas.map (SnapshotDelta.labelDelta label)).sum =
        rankingCount last label - rankingCount first label ∧
      whole.labelDelta label = rankingCount last label - rankingCount first label
  totals : ∀ total : Total, (∀ s ∈ series, (total.reported s).isSome) →
    (∀ d ∈ deltas, (total.change d).isSome) ∧ (total.change whole).isSome ∧
      ∀ m n, total.reported first = some m → total.reported last = some n →
        (deltas.map total.delta).sum = n - m ∧ total.delta whole = n - m

/-- **Deltas compose.**  Every series of snapshots of one process with object
rankings has its consecutive deltas and its delta of last against first, the
former add up to the latter, and two snapshots of the series in the other order
have the negated delta. -/
theorem deltas_compose {pid : ℤ} {first : List (PyStr × Json)}
    {rest : List (List (PyStr × Json))}
    (h : ∀ s ∈ first :: rest, IsSnapshotOf pid s ∧ HasRanking s) :
    (∃ deltas whole, consecutiveDeltas first rest = .ok deltas ∧
      diffSnapshots first ((first :: rest).getLast (List.cons_ne_nil _ _)) = .ok whole ∧
      Composes first ((first :: rest).getLast (List.cons_ne_nil _ _)) (first :: rest)
        deltas whole) ∧
    ∀ before ∈ first :: rest, ∀ after ∈ first :: rest,
      ∃ d d', diffSnapshots before after = .ok d ∧ diffSnapshots after before = .ok d' ∧
        SwappedObjects d d' := by
  have hswapped : ∀ before ∈ first :: rest, ∀ after ∈ first :: rest,
      ∃ d d', diffSnapshots before after = .ok d ∧ diffSnapshots after before = .ok d' ∧
        SwappedObjects d d' := by
    intro before hb after ha
    exact swapped_of_rankings (h _ hb).1 (h _ ha).1 (h _ hb).2 (h _ ha).2
  refine ⟨?_, hswapped⟩
  have hlabel : ∀ label, ∀ before ∈ first :: rest, ∀ after ∈ first :: rest, ∀ d,
      diffSnapshots before after = .ok d →
        d.labelDelta label = rankingCount after label - rankingCount before label := by
    intro label before hb after ha d hd
    exact labelDelta_of_diff (h _ hb).1 (h _ ha).1 (h _ hb).2 (h _ ha).2 hd label
  have hchange : ∀ total : Total, ∀ before ∈ first :: rest, ∀ after ∈ first :: rest, ∀ d,
      diffSnapshots before after = .ok d →
        total.change d = changeOf (total.reported before) (total.reported after) := by
    intro total before hb after ha d hd
    exact total_change (h _ hb).1 (h _ ha).1 hd total
  obtain ⟨deltas, hdeltas, hfrom⟩ := consecutiveDeltas_ok fun before hb after ha => by
    obtain ⟨d, -, hd, -, -⟩ := hswapped before hb after ha
    exact ⟨d, hd⟩
  have hfirst : first ∈ first :: rest := List.mem_cons_self ..
  have hlast := List.getLast_mem (List.cons_ne_nil first rest)
  set last := (first :: rest).getLast (List.cons_ne_nil _ _)
  obtain ⟨whole, -, hwhole, -, -⟩ := hswapped first hfirst last hlast
  refine ⟨deltas, whole, hdeltas, hwhole, fun label => ⟨?_, ?_⟩, fun total hall => ?_⟩
  · exact sum_consecutiveDeltas (fun s => rankingCount s label) hdeltas (hlabel label)
  · exact hlabel label first hfirst last hlast whole hwhole
  · have hsome : ∀ before ∈ first :: rest, ∀ after ∈ first :: rest, ∀ d,
        diffSnapshots before after = .ok d → (total.change d).isSome ∧
          total.delta d = (total.reported after).getD 0 - (total.reported before).getD 0 := by
      intro before hb after ha d hd
      obtain ⟨m, hm⟩ := Option.isSome_iff_exists.1 (hall before hb)
      obtain ⟨n, hn⟩ := Option.isSome_iff_exists.1 (hall after ha)
      rw [Total.delta, hchange total before hb after ha d hd, hm, hn]
      exact ⟨rfl, rfl⟩
    obtain ⟨hw, hwd⟩ := hsome first hfirst last hlast whole hwhole
    refine ⟨fun d hd => ?_, hw, fun m n hm hn => ⟨?_, ?_⟩⟩
    · obtain ⟨before, hb, after, ha, hd⟩ := hfrom d hd
      exact (hsome before hb after ha d hd).1
    · rw [sum_consecutiveDeltas (fun s => (total.reported s).getD 0) hdeltas
        fun before hb after ha d hd => (hsome before hb after ha d hd).2, hm, hn]
      rfl
    · rw [hwd, hm, hn]
      rfl

end

/-- A snapshot of process 7 that ranks lists only, with this count. -/
def listsOnly (count : ℤ) : List (PyStr × Json) :=
  [(py "meta", .obj [(py "pid", .int 7)]),
    (py "objects", .obj [(py "top", .arr [.obj [(py "type", .str (py "list")),
      (py "count", .int count)]])])]

/-- Three snapshots in which the lists become more and then fewer: the deltas add up to the
one from the first to the last. -/
theorem deltas_compose_lists :
    letI := Unicode.fullwidth
    letI := Json.wholeFloats
    letI : IsoFormat := ⟨fun _ => none⟩
    ∃ deltas whole, consecutiveDeltas (listsOnly 1) [listsOnly 3, listsOnly 2] = .ok deltas ∧
      diffSnapshots (listsOnly 1) (listsOnly 2) = .ok whole ∧
      Composes (listsOnly 1) (listsOnly 2) [listsOnly 1, listsOnly 3, listsOnly 2] deltas
        whole := by
  let _ := Unicode.fullwidth
  let _ := Json.wholeFloats
  let _ : IsoFormat := ⟨fun _ => none⟩
  have hlists : ∀ count, IsSnapshotOf 7 (listsOnly count) ∧ HasRanking (listsOnly count) := by
    intro count
    refine ⟨⟨_, rfl, rfl, fun text m htext => ?_⟩, _, _, rfl, rfl⟩
    cases htext
  have hall : ∀ s ∈ [listsOnly 1, listsOnly 3, listsOnly 2], IsSnapshotOf 7 s ∧ HasRanking s := by
    intro s hs
    simp only [List.mem_cons, List.not_mem_nil, or_false] at hs
    rcases hs with rfl | rfl | rfl <;> exact hlists _
  exact (deltas_compose hall).1

end Diff
end Pidprobe
