/-
# Which documents have a delta

`diff_snapshots` promises a delta or a `ValueError` for any two documents.  Each
helper guards the members it reads with a test of its own, and two members get
past them: `_interval_ms` catches what `fromisoformat` raises and not what the
subtraction does, and `_counts_by_type` iterates over whatever `top` is, once it
is not false.  `diffsOrRefuses_iff` says that nothing else is missing.
-/

import Pidprobe.Diff

namespace Pidprobe
namespace Diff

section Members

variable [IsoFormat]

/-- Two capture times, where both can be read, are both aware or both naive. Python refuses
to mix the two. -/
def Subtractable (capturedFrom capturedTo : Json) : Prop :=
  ∀ text text' m m', capturedFrom = .str text → capturedTo = .str text' →
    IsoFormat.fromisoformat text = some m → IsoFormat.fromisoformat text' = some m' →
      m.aware = m'.aware

/-- The ranking of a section, where it is not false, can be iterated over. A number, for
one, cannot. -/
def TopReadable (ranking : List (PyStr × Json)) : Prop :=
  (member (py "top") ranking).truthy = true → ∃ xs, (member (py "top") ranking).elements = some xs

/-- The interval is had exactly where one time can be subtracted from the other, or one of
them is no time. -/
theorem intervalMs_ok_iff {capturedFrom capturedTo : Json} :
    (∃ interval, intervalMs capturedFrom capturedTo = .ok interval) ↔
      Subtractable capturedFrom capturedTo := by
  constructor
  · rintro ⟨interval, h⟩ text text' m m' rfl rfl hm hm'
    simp only [intervalMs, hm, hm'] at h
    split_ifs at h with haware
    exact haware
  · intro h
    unfold intervalMs
    split
    · split
      · next hm hm' => exact ⟨_, if_pos (h _ _ _ _ rfl rfl hm hm')⟩
      · exact ⟨_, rfl⟩
    · exact ⟨_, rfl⟩

omit [IsoFormat] in
/-- Iterating returns exactly for what has elements: lists, dictionaries and texts. -/
theorem iterate_ok_iff {v : Json} :
    (∃ xs, iterate v = .ok xs) ↔ ∃ xs, v.elements = some xs := by
  unfold iterate
  cases v.elements <;> simp

omit [IsoFormat] in
/-- The counts are had exactly where the ranking can be read. -/
theorem countsByType_ok_iff {ranking : List (PyStr × Json)} :
    (∃ counts, countsByType ranking = .ok counts) ↔ TopReadable ranking := by
  have hiterate : (∃ counts, countsByType ranking = .ok counts) ↔
      ∃ xs, iterate ((member (py "top") ranking).orElse (.arr [])) = .ok xs := by
    simp only [countsByType, bind_eq_ok, Except.ok.injEq]
    constructor
    · rintro ⟨-, xs, hxs, -⟩
      exact ⟨xs, hxs⟩
    · rintro ⟨xs, hxs⟩
      exact ⟨_, xs, hxs, rfl⟩
  rw [hiterate, iterate_ok_iff, TopReadable, Json.orElse]
  cases (member (py "top") ranking).truthy <;> simp [Json.elements]

/-- The objects sections of two snapshots, where both are objects, have rankings
that can be read. -/
def RankingsReadable (before after : Json) : Prop :=
  ∀ ranking ranking', before = .obj ranking → after = .obj ranking' →
    TopReadable ranking ∧ TopReadable ranking'

omit [IsoFormat] in
/-- The delta of the objects is had exactly where both rankings can be read, or there is
nothing to compare. -/
theorem objectsDelta_ok_iff {before after : Json} :
    (∃ objects, objectsDelta before after = .ok objects) ↔ RankingsReadable before after := by
  constructor
  · rintro ⟨objects, h⟩ ranking ranking' rfl rfl
    obtain ⟨was, hwas, h⟩ := bind_eq_ok.1 h
    obtain ⟨now, hnow, -⟩ := bind_eq_ok.1 h
    exact ⟨countsByType_ok_iff.1 ⟨was, hwas⟩, countsByType_ok_iff.1 ⟨now, hnow⟩⟩
  · intro h
    unfold objectsDelta
    split
    · next ranking ranking' =>
      obtain ⟨hb, ha⟩ := h ranking ranking' rfl rfl
      obtain ⟨was, hwas⟩ := countsByType_ok_iff.2 hb
      obtain ⟨now, hnow⟩ := countsByType_ok_iff.2 ha
      rw [hwas, ok_bind, hnow, ok_bind]
      exact ⟨_, rfl⟩
    · exact ⟨_, rfl⟩

end Members

section Documents

variable [IsoFormat] [Unicode] [FloatText]

omit [IsoFormat] [Unicode] [FloatText] in
/-- `_meta_of(snapshot).get("pid")`. -/
def pidOf (snapshot : List (PyStr × Json)) : Json := member (py "pid") (metaOf snapshot)

omit [IsoFormat] [Unicode] [FloatText] in
/-- `_meta_of(snapshot).get("captured_at")`. -/
def capturedAtOf (snapshot : List (PyStr × Json)) : Json :=
  member (py "captured_at") (metaOf snapshot)

/-- Two documents of one process have a delta, and two of different processes are
refused with a `ValueError`. -/
structure DiffsOrRefuses (before after : List (PyStr × Json)) : Prop where
  diffs : (pidOf before).pyEq (pidOf after) = true → ∃ d, diffSnapshots before after = .ok d
  refuses : (pidOf before).pyEq (pidOf after) = false →
    ∃ message, diffSnapshots before after = .error (.valueError message)

/-- Documents of one process: what `diff_snapshots` reads without a guard is the two times
and the two rankings. -/
theorem diffSnapshots_ok_iff {before after : List (PyStr × Json)}
    (hpid : (pidOf before).pyEq (pidOf after) = true) :
    (∃ d, diffSnapshots before after = .ok d) ↔
      Subtractable (capturedAtOf before) (capturedAtOf after) ∧
        RankingsReadable (member (py "objects") before) (member (py "objects") after) := by
  rw [← intervalMs_ok_iff, ← objectsDelta_ok_iff, diffSnapshots]
  unfold pidOf at hpid
  simp only [hpid, if_true, bind_eq_ok, Except.ok.injEq]
  constructor
  · rintro ⟨d, interval, hinterval, objects, hobjects, -⟩
    exact ⟨⟨interval, hinterval⟩, objects, hobjects⟩
  · rintro ⟨⟨interval, hinterval⟩, objects, hobjects⟩
    exact ⟨_, interval, hinterval, objects, hobjects, rfl⟩

/-- Snapshots of two processes are refused before anything else is compared, with a message
that names both. -/
theorem diffSnapshots_refused {before after : List (PyStr × Json)}
    (hpid : (pidOf before).pyEq (pidOf after) = false) :
    diffSnapshots before after =
      .error (.valueError (differentProcesses (pidOf before) (pidOf after))) := by
  unfold pidOf at hpid
  simp only [diffSnapshots, hpid, Bool.false_eq_true, if_false, pidOf]

/-- **A delta or a `ValueError`, but for two members.**  Whatever the two
documents hold, `diff_snapshots` does what it promises if and only if they are of
different processes, or their capture times can be subtracted and their rankings
read. -/
theorem diffsOrRefuses_iff (before after : List (PyStr × Json)) :
    DiffsOrRefuses before after ↔ ((pidOf before).pyEq (pidOf after) = true →
      Subtractable (capturedAtOf before) (capturedAtOf after) ∧
        RankingsReadable (member (py "objects") before) (member (py "objects") after)) := by
  constructor
  · intro h hpid
    exact (diffSnapshots_ok_iff hpid).1 (h.diffs hpid)
  · intro h
    exact ⟨fun hpid => (diffSnapshots_ok_iff hpid).2 (h hpid),
      fun hpid => ⟨_, diffSnapshots_refused hpid⟩⟩

end Documents

/-- A document of process 1, captured at this time. -/
def capturedAtTime (text : PyStr) : List (PyStr × Json) :=
  [(py "meta", .obj [(py "pid", .int 1), (py "captured_at", .str text)])]

/-- An interpreter that reads one time with an offset, and one without, and no other text. -/
@[reducible] def twoTimes : IsoFormat where
  fromisoformat text :=
    if text = py "2026-01-01T00:00:00Z" then some ⟨true, 0⟩
    else if text = py "2026-01-01T00:00:00" then some ⟨false, 0⟩
    else none

/-- A capture time without an offset cannot be subtracted from one with it, and
a ranking that is a number cannot be iterated over. -/
theorem naive_time_not_diffed :
    letI := Unicode.fullwidth
    letI := Json.wholeFloats
    letI := twoTimes
    ¬DiffsOrRefuses (capturedAtTime (py "2026-01-01T00:00:00Z"))
        (capturedAtTime (py "2026-01-01T00:00:00")) ∧
      ¬DiffsOrRefuses [(py "objects", .obj [(py "top", .int 5)])]
        [(py "objects", .obj [(py "top", .int 5)])] := by
  let _ := Unicode.fullwidth
  let _ := Json.wholeFloats
  let _ := twoTimes
  constructor
  · intro h
    obtain ⟨d, hd⟩ := h.diffs (by decide)
    cases hd
  · intro h
    obtain ⟨d, hd⟩ := h.diffs (by decide)
    cases hd

end Diff
end Pidprobe
