/-
# Durations nest

The driver times each collector and the whole stop, and `take_snapshot` times the
probe around it.  On one sequence of readings that does not run backwards
(`Clock`), the intervals of the rounds lie apart inside the stop, and the stop
inside the probe (`durations_nest`).

`driverLoop_durations` is the invariant of the loop: what the rounds took in all
fits between the first reading of it and the last.
-/

import Mathlib.Algebra.Order.BigOperators.Group.List
import Pidprobe.Collectors.Sections
import Pidprobe.Deadline

namespace Pidprobe
namespace Driver

/-- The duration a report holds, where it holds a number under `duration_ms`. -/
def durationOf : Json → Option ℚ
  | .obj ms =>
    match member (py "duration_ms") ms with
    | .float (.finite q) => some q
    | _ => none
  | _ => none

/-- The duration of a report is the one it was made with. -/
theorem durationOf_report (name status : PyStr) (error : Json) (durationMs : ℚ) :
    durationOf (report name status error durationMs) = some durationMs := rfl

/-- A report and the duration it holds. -/
def Times (r : Json) (d : ℚ) : Prop := ∃ name status error, r = report name status error d

/-- A report that is read back has the duration it had: the number is written so that it
reads back the same. -/
theorem Times.reread {r : Json} {d : ℚ} (h : Times r d) : Times r.reread d := by
  obtain ⟨name, status, error, rfl⟩ := h
  exact ⟨_, _, _, reread_report name status error d⟩

/-- A report that takes a time says so. -/
theorem Times.durationOf_eq {r : Json} {d : ℚ} (h : Times r d) : durationOf r = some d := by
  obtain ⟨name, status, error, rfl⟩ := h
  exact durationOf_report name status error d

/-- A report that serialises keeps its duration. -/
theorem times_walk {ε : Type} {r : Report ε} {v : Json}
    (h : (Serial.walk r : Except ε Json) = .ok v) : Times v r.durationMs := by
  obtain ⟨error, -, hv⟩ := bind_eq_ok.1 h
  exact ⟨_, _, _, (Except.ok.inj hv).symm⟩

/-- The document copies the reports, with their durations. -/
theorem reports_reread {reports : List Json} {durations : List ℚ}
    (h : List.Forall₂ Times reports durations) :
    (Json.rereadElems reports).map durationOf = durations.map some ∧
      ∃ entries, (Json.rereadElems reports).mapM reportEntry = .ok entries := by
  rw [Json.rereadElems_eq_map]
  constructor
  · rw [List.map_map]
    exact map_eq_of_forall₂ (h.imp fun r d hr => hr.reread.durationOf_eq)
  · refine mapM_ok.2 fun v hv => ?_
    obtain ⟨r, hr, rfl⟩ := List.mem_map.1 hv
    obtain ⟨d, -, hrd⟩ := exists_of_forall₂ h hr
    obtain ⟨name, status, error, hreport⟩ := hrd.reread
    rw [hreport]
    exact ⟨_, reportEntry_report name status error d⟩

section

variable [Unicode] {ε π : Type} [PyException ε] {w : World ε π}
  {specs : List (PyStr × SectionFunction)} {s t : LoopState ε π}

/-- A loop that ends has taken two readings a round, and the durations it reports
are parts of the time between them that lie apart. -/
theorem driverLoop_durations (hclock : Monotone w.clock) (h : driverLoop w specs s = .ok t) :
    t.readings = s.readings + 2 * specs.length ∧
      ∃ reports, t.reports = s.reports ++ reports ∧ reports.length = specs.length ∧
        (∀ d ∈ reports.map Report.durationMs, 0 ≤ d) ∧
        (reports.map Report.durationMs).sum ≤
          (w.clock t.readings - w.clock s.readings) * 1000 := by
  induction specs generalizing s with
  | nil =>
    obtain rfl := Except.ok.inj h
    exact ⟨rfl, [], (List.append_nil _).symm, rfl, by simp, by simp⟩
  | cons p specs ih =>
    obtain ⟨name, f⟩ := p
    rw [driverLoop] at h
    rcases hg : guarded (w.behaves f.collector) with exc | ⟨data, status, error⟩
    · rw [hg] at h
      cases h
    · rw [hg] at h
      obtain ⟨hreadings, reports, ht, hlength, hnonneg, hsum⟩ := ih h
      dsimp only at hreadings ht hsum
      have hbegin : w.clock s.readings ≤ w.clock (s.readings + 1) := hclock (Nat.le_succ _)
      have hend : w.clock (s.readings + 1) ≤ w.clock (s.readings + 2) := hclock (Nat.le_succ _)
      refine ⟨by rw [hreadings, List.length_cons]; ring,
        ⟨name, status, error, (w.clock (s.readings + 1) - w.clock s.readings) * 1000⟩ :: reports,
        ?_, congrArg (· + 1) hlength, List.forall_mem_cons.2 ⟨?_, hnonneg⟩, ?_⟩
      · rw [ht, List.append_assoc]
        rfl
      · exact mul_nonneg (sub_nonneg.2 hbegin) (by norm_num)
      · rw [List.map_cons, List.sum_cons]
        linarith

/-- A target whose clock the prober shares: the first reading is the prober's, taken before
the injection. -/
def World.on (w : World ε π) (clock : Clock) : World ε π :=
  { w with clock := fun i => clock.reading (i + 1) }

/-- `elapsed_ms`: the prober reads the clock before the driver takes two readings
for each collector and two for the stop, and behind them. -/
def elapsedMs (clock : Clock) (collectors : List Collector) : ℚ :=
  (clock.reading (2 * collectors.length + 3) - clock.reading 0) * 1000

/-- The durations of a payload lie in one another: those of the collectors add up to the
stop at most, and the stop to what the prober measured. -/
structure Nested (clock : Clock) (collectors : List Collector) (payload : List (PyStr × Json))
    (stopDurationMs : ℚ) : Prop where
  stop : member (py "stop_duration_ms") payload = .float (.finite stopDurationMs)
  rounds : ∃ (reports : List Json) (durations : List ℚ),
    member (py "collectors") payload = .arr reports ∧
    reports.map durationOf = durations.map some ∧ durations.length = collectors.length ∧
    (∀ d ∈ durations, 0 ≤ d) ∧ durations.sum ≤ stopDurationMs
  elapsed : stopDurationMs ≤ elapsedMs clock collectors

omit [PyException ε] in
/-- The stop begins behind the first reading of the prober and ends before its
last. -/
theorem stop_le_elapsedMs (clock : Clock) (collectors : List Collector) {readings : ℕ}
    (h : readings = 1 + 2 * collectors.length) :
    ((w.on clock).clock readings - (w.on clock).clock 0) * 1000 ≤ elapsedMs clock collectors := by
  have hbefore : clock.reading 0 ≤ clock.reading (0 + 1) := clock.monotone (Nat.le_succ _)
  have hbehind : clock.reading (readings + 1) ≤ clock.reading (2 * collectors.length + 3) :=
    clock.monotone (by omega)
  simp only [elapsedMs, World.on]
  linarith

variable [Serial ε π] [IsoFormat]

/-- **Durations nest**, in the payload of every list of collectors and, for the
stop and the probe, behind the rounding of the document. -/
theorem durations_nest (prober : Prober) (pid : ℤ) (clock : Clock) {collectors : List Collector}
    {payload : Json} (h : Collects collectors (w.on clock) payload) :
    ∃ ms stopDurationMs, payload.reread = .obj ms ∧ Nested clock collectors ms stopDurationMs ∧
      ∃ own stop elapsed,
        proberMeta prober pid ms (.finite (elapsedMs clock collectors)) = .ok (.obj own) ∧
        member (py "stop_duration_ms") own = .float (.finite stop) ∧
        member (py "elapsed_ms") own = .float (.finite elapsed) ∧ stop ≤ elapsed := by
  obtain ⟨script, specs, hscript, hlink, hcollected⟩ := h
  have hlength : specs.length = collectors.length := by
    rw [link_compose hscript] at hlink
    rw [← Option.some.inj hlink, List.length_map]
  obtain ⟨t, sections, reports, hloop, -, hwalk, rfl⟩ := exists_loop_of_collected hcollected
  have hclock : Monotone (w.on clock).clock := fun i j hij => clock.monotone (by omega)
  obtain ⟨hreadings, left, hleft, hcount, hnonneg, hsum⟩ := driverLoop_durations hclock hloop
  rw [List.nil_append] at hleft
  rw [hlength] at hreadings hcount
  rw [mapM_eq_ok, hleft] at hwalk
  have hrounds : List.Forall₂ Times reports (left.map Report.durationMs) := by
    rw [List.forall₂_map_right_iff]
    exact List.Forall₂.flip (hwalk.imp fun r v hv => times_walk hv)
  obtain ⟨hdurations, entries, hentries⟩ := reports_reread hrounds
  generalize hd : left.map Report.durationMs = durations at hnonneg hsum hdurations
  have hcount : durations.length = collectors.length := by rw [← hd, List.length_map, hcount]
  have hstop : durations.sum ≤ ((w.on clock).clock t.readings - (w.on clock).clock 0) * 1000 := by
    have hbefore : (w.on clock).clock 0 ≤ (w.on clock).clock 1 := hclock zero_le_one
    linarith
  have helapsed := stop_le_elapsedMs (w := w) clock collectors hreadings
  obtain ⟨stop, elapsed, hr, hr', hle⟩ :=
    roundThousandths_mono ((List.sum_nonneg hnonneg).trans hstop) helapsed
  refine ⟨_, _, reread_payload sections reports w.target.json _,
    ⟨rfl, ⟨_, durations, rfl, hdurations, hcount, hnonneg, hstop⟩, helapsed⟩, _, stop,
    elapsed, proberMeta_eq_ok prober pid _ _ _ _ hentries, ?_, ?_, hle⟩
  · rw [← hr]
    rfl
  · rw [← hr']
    rfl

end

/-- A clock on which a millisecond passes between two readings. -/
def millisecondClock : Clock where
  reading := fun i => i / 1000
  monotone := fun i j hij => by
    have hij : (i : ℚ) ≤ j := Nat.cast_le.2 hij
    dsimp only
    gcongr

/-- One collector on a clock that ticks at every reading: a millisecond for it, more for the
stop, and more again for the probe. -/
theorem durations_nest_counter :
    letI := Unicode.fullwidth
    letI : IsoFormat := ⟨fun _ => none⟩
    ∃ payload, Collects [counter] ((assigning (.int 1)).on millisecondClock) payload ∧
      ∃ ms stopDurationMs, payload.reread = .obj ms ∧
        Nested millisecondClock [counter] ms stopDurationMs ∧ ∃ own stop elapsed,
          proberMeta plainProber 1 ms (.finite (elapsedMs millisecondClock [counter])) =
            .ok (.obj own) ∧
          member (py "stop_duration_ms") own = .float (.finite stop) ∧
          member (py "elapsed_ms") own = .float (.finite elapsed) ∧ stop ≤ elapsed := by
  let _ := Unicode.fullwidth
  let _ : IsoFormat := ⟨fun _ => none⟩
  have hscript := composeCollectorSource_eq_ok.2
    ⟨List.cons_ne_nil counter [], plainNames_counter.nodup, rfl⟩
  obtain ⟨payload, hpayload⟩ : ∃ payload, Inject.collected
      (driver ((assigning (.int 1)).on millisecondClock)
        ([counter].map fun c => (c.name, sectionFunction (boundTo [counter] c)))) = .ok payload :=
    ⟨_, rfl⟩
  have h : Collects [counter] ((assigning (.int 1)).on millisecondClock) payload :=
    ⟨_, _, hscript, link_compose hscript, hpayload⟩
  exact ⟨payload, h, durations_nest plainProber 1 millisecondClock h⟩

end Driver
end Pidprobe
