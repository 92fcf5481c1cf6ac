/-
# When the samples start

`_wait_until` sleeps to the start of a sample on a grid from the first line of the
generator, so what a sample costs does not push the later ones.  On the `Costs` of
a run, the clock advances by what is slept, by the probes and while the consumer
holds a delta, and by nothing else.

The wait before a probe (`run_scheduled`) leaves the start of a sample at its place
on the grid or, if that has passed, where the loop tested its condition.  The
samples are so a `Backlog` with the grid as due times, and each of them is on the
grid unless the work since an earlier one is too much (`sampling_never_drifts`).
-/

import Pidprobe.Diff.Sampling
import Pidprobe.Lib.Backlog

namespace Pidprobe
namespace Diff

open Backlog

namespace SamplingEvent

/-- What an event sleeps; only a wait of the generator does. -/
def sleep : SamplingEvent → ℚ
  | slept seconds => seconds
  | _ => 0

end SamplingEvent

/-- What the clock shows at the first line of the generator, and how long each
probe takes and the consumer holds each delta, both counted from 0. -/
structure Costs where
  started : ℚ
  probe : ℕ → ℚ
  pause : ℕ → ℚ

namespace Costs

variable (costs : Costs)

/-- What the clock shows after a trace: the start, the sleeps, the probes, and the pauses in
which the consumer holds a delta. -/
def clock (trace : List SamplingEvent) : ℚ :=
  costs.started + (trace.map SamplingEvent.sleep).sum +
    ∑ i ∈ Finset.range (probes trace), costs.probe i +
    ∑ i ∈ Finset.range (deltas trace).length, costs.pause i

/-- Where sample `k` belongs: `k` intervals behind the start, whatever the samples before it
took. -/
def grid (interval : ℚ) (k : ℕ) : ℚ := costs.started + k * interval

/-- What passes between the start of a sample and the next test of the loop; the
first sample has no delta to hold. -/
def work : ℕ → ℚ
  | 0 => costs.probe 0
  | k + 1 => costs.probe (k + 1) + costs.pause k

/-- When the loop tests its condition for sample `k`: at the start, or when the work on the
sample before is done. -/
def ready (interval : ℚ) : ℕ → ℚ
  | 0 => costs.started
  | k + 1 => starts (costs.grid interval) costs.work k + costs.work k

/-- A sample starts on the grid, or where the loop is ready for it, whichever is later. -/
theorem starts_eq (interval : ℚ) (k : ℕ) : starts (costs.grid interval) costs.work k =
    max (costs.grid interval k) (costs.ready interval k) := by
  cases k with
  | zero => simp [starts, grid, ready]
  | succ k => rfl

@[simp] theorem clock_nil : costs.clock [] = costs.started := by simp [clock, probes, deltas]

/-- Sleeping `t` seconds advances the clock by `t`. -/
@[simp] theorem clock_slept (trace : List SamplingEvent) (seconds : ℚ) :
    costs.clock (trace ++ [.slept seconds]) = costs.clock trace + seconds := by
  have hprobes : probes [.slept seconds] = 0 := rfl
  have hdeltas : deltas [.slept seconds] = [] := rfl
  simp only [clock, probes_append, deltas_append, hprobes, hdeltas, List.append_nil,
    Nat.add_zero, List.map_append, List.sum_append, List.map_singleton, List.sum_singleton,
    SamplingEvent.sleep]
  ring

@[simp] theorem clock_probed (trace : List SamplingEvent) :
    costs.clock (trace ++ [.probed]) = costs.clock trace + costs.probe (probes trace) := by
  have hprobes : probes [.probed] = 1 := rfl
  have hdeltas : deltas [.probed] = [] := rfl
  simp only [clock, probes_append, deltas_append, hprobes, hdeltas, List.append_nil,
    List.map_append, List.sum_append, List.map_singleton, List.sum_singleton,
    SamplingEvent.sleep, Finset.sum_range_succ]
  ring

@[simp] theorem clock_yielded (trace : List SamplingEvent) (delta : SnapshotDelta) :
    costs.clock (trace ++ [.yielded delta]) =
      costs.clock trace + costs.pause (deltas trace).length := by
  have hprobes : probes [.yielded delta] = 0 := rfl
  have hdeltas : deltas [.yielded delta] = [delta] := rfl
  simp only [clock, probes_append, deltas_append, hprobes, hdeltas, List.length_append,
    List.length_singleton, Nat.add_zero, List.map_append, List.sum_append, List.map_singleton,
    List.sum_singleton, SamplingEvent.sleep, Finset.sum_range_succ]
  ring

/-- A wait ends at the deadline, or does not begin. -/
theorem clock_waitUntil (trace : List SamplingEvent) (deadline : ℚ) :
    costs.clock (trace ++ waitUntil (costs.clock trace) deadline) =
      max deadline (costs.clock trace) := by
  unfold waitUntil
  dsimp only
  split_ifs with hpos
  · rw [clock_slept, add_sub_cancel, max_eq_left (sub_pos.1 hpos).le]
  · rw [List.append_nil, max_eq_right (sub_nonpos.1 (not_lt.1 hpos))]

end Costs

/-! ## The waits of a run -/

/-- Where the loop tests its condition: at first, behind the first sample, and
where the generator is resumed. -/
inductive Tests : List SamplingEvent → Prop
  | started : Tests []
  | sampled {before : List SamplingEvent} (hfirst : probes before = 0) :
      Tests (before ++ [.probed])
  | resumed {before : List SamplingEvent} {delta : SnapshotDelta} (hlater : 1 ≤ probes before) :
      Tests (before ++ [.probed] ++ [.yielded delta])

section

variable [IsoFormat] [Unicode] [FloatText]

namespace Sampling

variable (w : Sampling)

/-- The wait behind a test of the loop, by the reading the generator takes for it. -/
def waited (test : List SamplingEvent) : List SamplingEvent :=
  waitUntil (w.reading (probes test + 1)) (w.reading 0 + probes test * w.interval)

/-- A probe comes right behind the wait for its sample; the other events are free. -/
inductive Scheduled (trace : List SamplingEvent) : SamplingEvent → Prop
  | probed {test : List SamplingEvent} (htest : Tests test)
      (hwait : trace = test ++ w.waited test) : Scheduled trace .probed
  | other {event : SamplingEvent} (h : event.isProbe = false) : Scheduled trace event

variable {w} {previous : Option (List (PyStr × Json))} {taken : ℕ} {trace : List SamplingEvent}

omit [IsoFormat] [Unicode] [FloatText] in
/-- Waiting for the next sample probes nothing. -/
theorem probes_waited (test : List SamplingEvent) : probes (w.waited test) = 0 := by
  unfold waited waitUntil
  dsimp only
  split_ifs <;> rfl

omit [IsoFormat] [Unicode] [FloatText] in
/-- A wait and the probe behind it. -/
theorem scheduled_probe (htest : Tests trace) (h : Lawful w.Scheduled trace) :
    Lawful w.Scheduled (trace ++ w.waited trace ++ [.probed]) := by
  refine Lawful.append_singleton.2 ⟨?_, .probed htest rfl⟩
  unfold waited waitUntil
  dsimp only
  split_ifs
  · exact Lawful.append_singleton.2 ⟨h, .other rfl⟩
  · rwa [List.append_nil]

omit [IsoFormat] [Unicode] [FloatText] in
/-- An answer of the generator needs no schedule: only a probe has a time it is due at. -/
theorem scheduled_answer (h : Lawful w.Scheduled trace) {event : SamplingEvent}
    (hevent : event.isProbe = false) : Lawful w.Scheduled (trace ++ [event]) :=
  Lawful.append_singleton.2 ⟨h, .other hevent⟩

/-- A round of calls probes on schedule, and ends where the loop will test its condition
again. -/
theorem AtLoop.scheduled (hloop : w.AtLoop previous taken trace) (htest : Tests trace)
    (h : Lawful w.Scheduled trace) :
    Lawful w.Scheduled (trace ++ (w.loop previous taken).1) ∧
      ((∃ current taken', (w.loop previous taken).2 = .suspended current taken') →
        Tests (trace ++ (w.loop previous taken).1)) := by
  induction previous, taken using Sampling.loop.induct w generalizing trace with
  | case1 previous taken hgo e hs =>
    obtain rfl := hloop.probed
    have hprobe := @scheduled_answer _ _ (scheduled_probe htest h) (.raised e) rfl
    rw [List.append_assoc, List.append_assoc] at hprobe
    simp only [Sampling.loop, hgo, hs, if_true]
    exact ⟨hprobe, by simp⟩
  | case2 taken hgo current before hs e hd =>
    obtain rfl := hloop.probed
    have hprobe := @scheduled_answer _ _ (scheduled_probe htest h) (.raised e) rfl
    rw [List.append_assoc, List.append_assoc] at hprobe
    simp only [Sampling.loop, hgo, hs, hd, if_true]
    exact ⟨hprobe, by simp⟩
  | case3 taken hgo current before hs d hd =>
    obtain ⟨i, hone, -⟩ := hloop.last_sample
    obtain rfl := hloop.probed
    have hprobe := @scheduled_answer _ _ (scheduled_probe htest h) (.yielded d) rfl
    have hresumed : Tests (trace ++ w.waited trace ++ [.probed] ++ [.yielded d]) := by
      refine .resumed ?_
      rw [probes_append, hone]
      omega
    rw [List.append_assoc, List.append_assoc] at hprobe hresumed
    simp only [Sampling.loop, hgo, hs, hd, if_true]
    exact ⟨hprobe, fun _ => hresumed⟩
  | case4 taken hgo current hs ih =>
    have hfirst : probes trace = 0 := hloop.probed.trans (hloop.last.resolve_right (by simp)).2
    obtain rfl := hloop.probed
    have hwaited := hloop.waited (w.reading (probes trace + 1))
      (w.reading 0 + probes trace * w.interval)
    have hsampled : Tests (trace ++ w.waited trace ++ [.probed]) := by
      refine .sampled ?_
      rw [probes_append, hfirst, probes_waited]
    have hrest := ih (hwaited.1.first hgo hs) hsampled (scheduled_probe htest h)
    rw [Sampling.loop]
    simp only [hgo, hs, if_true]
    rw [← List.append_assoc, ← List.append_assoc]
    exact hrest
  | case5 previous taken hgo =>
    rw [Sampling.loop, if_neg hgo]
    exact ⟨scheduled_answer h rfl, by simp⟩

variable (w) in
/-- **Every probe of a run is on schedule**, by induction on the calls of `next`. -/
theorem run_scheduled (n : ℕ) : Lawful w.Scheduled (w.run n).1 ∧
    ((∃ current taken, (w.run n).2 = .suspended current taken) → Tests (w.run n).1) := by
  induction n with
  | zero => exact ⟨Lawful.nil, nofun⟩
  | succ n ih =>
    have hmatches := (run_matches w n).1
    rw [run]
    revert hmatches ih
    rcases w.run n with ⟨trace, generator⟩
    intro ih hmatches
    cases hmatches with
    | created => exact atLoop_nil.scheduled .started Lawful.nil
    | suspended htwo hloop => exact hloop.scheduled (ih.2 ⟨_, _, rfl⟩) ih.1
    | finished hlawful hend => exact ⟨scheduled_answer ih.1 rfl, by simp [next]⟩

/-! ## What the clock shows -/

/-- The generator reads the clock at its first line and at each wait, and the clock shows
what the costs say. -/
structure OnClock (w : Sampling) (costs : Costs) : Prop where
  started : w.reading 0 = costs.started
  waits : ∀ n test rest, (w.run n).1 = test ++ rest → Tests test →
    w.reading (probes test + 1) = costs.clock test

variable {costs : Costs} {n : ℕ} {test before rest : List SamplingEvent}

omit [IsoFormat] [Unicode] [FloatText] in
/-- The clock behind a wait: the place of the sample on the grid, or the moment of the test
where that is later. -/
theorem clock_waited (hstarted : w.reading 0 = costs.started)
    (hread : w.reading (probes test + 1) = costs.clock test) :
    costs.clock (test ++ w.waited test) =
      max (costs.grid w.interval (probes test)) (costs.clock test) := by
  rw [waited, hread, hstarted, Costs.clock_waitUntil, Costs.grid]

/-- A probe stands behind a wait, and the wait behind a test of the loop. -/
theorem exists_tests (hrun : (w.run n).1 = before ++ .probed :: rest) :
    ∃ test, Tests test ∧ before = test ++ w.waited test ∧ probes before = probes test := by
  cases (run_scheduled w n).1 before _ rest hrun with
  | probed htest hwait =>
    refine ⟨_, htest, hwait, ?_⟩
    rw [hwait, probes_append, probes_waited, Nat.add_zero]
  | other h => cases h

/-- A test of the loop stands behind the work on a sample, so the one determines the time of
the other. -/
theorem exists_probed (htest : Tests test) {k : ℕ} (hk : probes test = k + 1)
    (hrun : (w.run n).1 = test ++ rest) :
    ∃ before rest', (w.run n).1 = before ++ .probed :: rest' ∧ probes before = k ∧
      costs.clock test = costs.clock before + costs.work k := by
  have hlawful := (run_matches w n).1.lawful
  cases htest with
  | started => cases hk
  | sampled hfirst =>
    rw [List.append_assoc] at hrun
    rw [probes_append, hfirst] at hk
    obtain rfl : k = 0 := by
      have hone : probes [.probed] = 1 := rfl
      omega
    exact ⟨_, _, hrun, hfirst, by rw [Costs.clock_probed, hfirst, Costs.work]⟩
  | @resumed before delta hlater =>
    rw [List.append_assoc, List.append_assoc] at hrun
    have hprobes : probes before = k := by
      have hone : probes [.probed] = 1 := rfl
      have hzero : probes [.yielded delta] = 0 := rfl
      rw [probes_append, probes_append] at hk
      omega
    obtain ⟨i, rfl⟩ : ∃ i, k = i + 1 := ⟨k - 1, by omega⟩
    have hdue : (deltas (before ++ [.probed])).length = i := by
      rw [deltas_append, List.length_append]
      cases hlawful before _ _ hrun with
      | probed _ _ _ hdue =>
        rw [hdue, hprobes]
        rfl
    refine ⟨_, _, hrun, hprobes, ?_⟩
    rw [Costs.clock_yielded, Costs.clock_probed, hdue, hprobes, Costs.work]
    ring

/-- The loop is ready for a sample when the work on the one before is done, where
the waits so far read the clock. -/
theorem clock_of_tests (htest : Tests test) (hrun : (w.run n).1 = test ++ rest)
    (hstarted : w.reading 0 = costs.started)
    (hread : ∀ test' rest', (w.run n).1 = test' ++ rest' → Tests test' →
      probes test' < probes test → w.reading (probes test' + 1) = costs.clock test') :
    costs.clock test = costs.ready w.interval (probes test) := by
  obtain ⟨k, hk⟩ : ∃ k, probes test = k := ⟨_, rfl⟩
  induction k generalizing test rest with
  | zero =>
    cases htest with
    | started => exact costs.clock_nil
    | sampled | resumed => simp [probes, SamplingEvent.isProbe] at hk
  | succ k ih =>
    obtain ⟨before, rest', hprobed, hbefore, hwork⟩ := exists_probed htest hk hrun
    obtain ⟨test', htest', rfl, heq⟩ := exists_tests hprobed
    have hk' : probes test' = k := heq.symm.trans hbefore
    have hsplit := hprobed
    rw [List.append_assoc] at hsplit
    have hready := ih htest' hsplit (fun test'' rest'' hrun'' htest'' hlt =>
      hread test'' rest'' hrun'' htest'' (by omega)) hk'
    rw [hwork, clock_waited hstarted (hread test' _ hsplit htest' (by omega)), hready, hk', hk,
      Costs.ready, Costs.starts_eq]

/-- What a run keeps of the grid: when samples start, that none is early, and which of them
are on time. -/
structure Punctual (w : Sampling) (costs : Costs) (trace : List SamplingEvent) : Prop where
  /-- Sample `k`, from 0, starts at its place on the grid or where the generator
  was resumed behind sample `k - 1`, whatever comes later. -/
  starts : ∀ before after, trace = before ++ .probed :: after →
    ∃ test wait, before = test ++ wait ∧ Tests test ∧ probes test = probes before ∧
      costs.clock before =
        max (costs.grid w.interval (probes before)) (costs.clock test) ∧
      (costs.clock test ≤ costs.grid w.interval (probes before) →
        costs.clock before = costs.grid w.interval (probes before))
  notEarly : ∀ before after, trace = before ++ .probed :: after →
    costs.grid w.interval (probes before) ≤ costs.clock before
  /-- It is on the grid exactly where the work from each earlier sample on fits in
  the intervals since then. -/
  onGrid : ∀ before after, trace = before ++ .probed :: after →
    (costs.clock before = costs.grid w.interval (probes before) ↔
      ∀ j < probes before, ∑ i ∈ Finset.Ico j (probes before), costs.work i ≤
        ((probes before : ℚ) - j) * w.interval)

/-- **Sampling never drifts.**  Whatever the probes cost and however long the
consumer holds the deltas. -/
theorem sampling_never_drifts (h : w.OnClock costs) (n : ℕ) : w.Punctual costs (w.run n).1 := by
  have hstarts : ∀ before after, (w.run n).1 = before ++ .probed :: after →
      costs.clock before = Backlog.starts (costs.grid w.interval) costs.work (probes before) := by
    intro before after hrun
    obtain ⟨test, htest, rfl, heq⟩ := exists_tests hrun
    rw [List.append_assoc] at hrun
    rw [clock_waited h.started (h.waits n test _ hrun htest), heq, Costs.starts_eq,
      clock_of_tests htest hrun h.started fun test' rest' hrun' htest' _ =>
        h.waits n test' rest' hrun' htest']
  refine ⟨fun before after hrun => ?_, fun before after hrun => ?_, fun before after hrun => ?_⟩
  · obtain ⟨test, htest, hwait, heq⟩ := exists_tests hrun
    have hsplit := hrun
    rw [hwait, List.append_assoc] at hsplit
    have hclock := clock_waited h.started (h.waits n test _ hsplit htest)
    rw [← hwait, ← heq] at hclock
    exact ⟨test, _, hwait, htest, heq.symm, hclock, fun hle => hclock.trans (max_eq_left hle)⟩
  · rw [hstarts before after hrun]
    exact due_le_starts _ _ _
  · rw [hstarts before after hrun, starts_eq_due_iff]
    refine forall₂_congr fun j _ => ?_
    rw [Costs.grid, Costs.grid, sub_mul, le_sub_iff_add_le', add_assoc, add_le_add_iff_left]

variable (w costs) in
/-- The series on the clock of these costs: its readings are what the clock would show. -/
def on : Sampling where
  interval := w.interval
  count := w.count
  reading
    | 0 => costs.started
    | k + 1 => costs.ready w.interval k
  sample := w.sample

variable (w costs) in
/-- There is such a series for all costs. -/
theorem on_onClock : (w.on costs).OnClock costs := by
  refine ⟨rfl, fun n test rest hrun htest => ?_⟩
  obtain ⟨k, hk⟩ : ∃ k, probes test = k := ⟨_, rfl⟩
  induction k using Nat.strong_induction_on generalizing test rest with
  | _ k ih =>
    refine (clock_of_tests htest hrun rfl fun test' rest' hrun' htest' hlt => ?_).symm
    exact ih _ (by omega) test' rest' hrun' htest' rfl

end Sampling
end

/-- Three samples, half a second apart; its clock is replaced by that of the costs. -/
def someSeries : Sampling where
  interval := 1 / 2
  count := some 3
  reading := fun _ => 0
  sample := fun _ => .ok []

/-- The first probe takes longer than the interval, so the second sample is late and the
third on time. -/
def someCosts : Costs where
  started := 100
  probe := fun k => if k = 0 then 7 / 10 else 1 / 10
  pause := fun _ => 1 / 20

/-- A series of three samples half a second apart, the first of which takes longer than
that. -/
theorem sampling_never_drifts_someSeries :
    letI : IsoFormat := ⟨fun _ => none⟩
    letI := Unicode.fullwidth
    letI := Json.wholeFloats
    (someSeries.on someCosts).OnClock someCosts ∧
      ∀ n, (someSeries.on someCosts).Punctual someCosts ((someSeries.on someCosts).run n).1 := by
  let _ : IsoFormat := ⟨fun _ => none⟩
  let _ := Unicode.fullwidth
  let _ := Json.wholeFloats
  have h := Sampling.on_onClock someSeries someCosts
  exact ⟨h, fun n => Sampling.sampling_never_drifts h n⟩

end Diff
end Pidprobe
