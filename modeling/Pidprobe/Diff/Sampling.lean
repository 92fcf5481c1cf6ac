/-
# A series of deltas

`iter_snapshot_deltas` of `_diff.py`: a generator that probes the target, keeps
the last snapshot and suspends at each delta.  Its arguments and what its calls
come to are a `Sampling`; a call of `next` leaves a trace of events, the last of
which answers the consumer.

`Permitted` says when each event may happen, in terms of the events before it;
`run_matches` is the invariant of the generator, that it only does what is
permitted, and what a consumer may rely on (`sampling_contract`) follows from the
trace alone.
-/

import Pidprobe.Diff
import Pidprobe.Lib.Trace

namespace Pidprobe
namespace Diff

/-- What a consumer, the target and the clock see of the generator: it sleeps, probes,
yields, raises or stops. -/
inductive SamplingEvent
  | slept (seconds : ℚ)
  | probed
  | yielded (delta : SnapshotDelta)
  | raised (error : PyError)
  | stopped

namespace SamplingEvent

/-- The target is probed. -/
def isProbe : SamplingEvent → Bool
  | probed => true
  | _ => false

/-- The delta a consumer gets. -/
def delta? : SamplingEvent → Option SnapshotDelta
  | yielded delta => some delta
  | _ => none

/-- The series is over. -/
def ends : SamplingEvent → Bool
  | raised _ | stopped => true
  | _ => false

/-- A call of `next` returns or raises. -/
def answers : SamplingEvent → Bool
  | slept _ | probed => false
  | yielded _ | raised _ | stopped => true

end SamplingEvent

/-- How often the target was probed, successfully or not. -/
def probes (trace : List SamplingEvent) : ℕ := trace.countP SamplingEvent.isProbe

/-- The deltas a consumer got, in the order in which they were yielded. -/
def deltas (trace : List SamplingEvent) : List SnapshotDelta :=
  trace.filterMap SamplingEvent.delta?

/-- The calls of `next` that are answered, by a delta, by an exception or by the end of the
series. -/
def answered (trace : List SamplingEvent) : ℕ := trace.countP SamplingEvent.answers

/-- The series is not over: nothing was raised, and it did not stop. -/
def Live (trace : List SamplingEvent) : Prop := ∀ event ∈ trace, event.ends = false

section

variable {trace rest : List SamplingEvent} {event : SamplingEvent}

@[simp] theorem probes_append : probes (trace ++ rest) = probes trace + probes rest :=
  List.countP_append ..

@[simp] theorem deltas_append : deltas (trace ++ rest) = deltas trace ++ deltas rest :=
  List.filterMap_append ..

/-- One more event yields one more delta, or none. -/
theorem deltas_append_singleton (trace : List SamplingEvent) (event : SamplingEvent) :
    deltas (trace ++ [event]) = deltas trace ++ event.delta?.toList := by
  rw [deltas_append]
  cases event <;> rfl

/-- One more event is one more probe, or none. -/
theorem probes_append_singleton (trace : List SamplingEvent) (event : SamplingEvent) :
    probes (trace ++ [event]) = probes trace + if event.isProbe then 1 else 0 := by
  rw [probes_append, probes, probes, List.countP_singleton]

@[simp] theorem answered_append : answered (trace ++ rest) = answered trace + answered rest :=
  List.countP_append ..

@[simp] theorem live_append : Live (trace ++ rest) ↔ Live trace ∧ Live rest :=
  List.forall_mem_append

@[simp] theorem live_nil : Live [] := by simp [Live]

@[simp] theorem live_singleton : Live [event] ↔ event.ends = false := by simp [Live]

/-- As long as the series goes on, the answers are its deltas. -/
theorem answered_of_live (h : Live trace) : answered trace = (deltas trace).length := by
  induction trace with
  | nil => rfl
  | cons event trace ih =>
    obtain ⟨hevent, htrace⟩ := List.forall_mem_cons.1 h
    have hhead : answered [event] = (deltas [event]).length := by
      cases event with
      | slept | probed | yielded => rfl
      | raised | stopped => cases hevent
    rw [← List.singleton_append, answered_append, deltas_append, List.length_append, hhead,
      ih htrace]

end

/-- The arguments of the generator, what the clock reads at each call of
`monotonic`, and what each probe of the target comes to, the first being 1. -/
structure Sampling where
  interval : ℚ
  count : Option ℤ
  reading : ℕ → ℚ
  sample : ℕ → Except PyError (List (PyStr × Json))

/-- The state of the generator: at its first line, at the `yield`, or at
its end. -/
inductive Generator
  | created
  | suspended (current : List (PyStr × Json)) (taken : ℕ)
  | finished

/-- `_wait_until`: a sleep of what is left until the deadline, or none where it has
passed. -/
def waitUntil (now deadline : ℚ) : List SamplingEvent :=
  let remaining := deadline - now
  if 0 < remaining then [.slept remaining] else []

section

variable [IsoFormat] [Unicode] [FloatText]

namespace Sampling

variable (w : Sampling)

/-- `count is None or taken < count`. A count that is negative is reached at once. -/
def goesOn (taken : ℕ) : Bool :=
  match w.count with
  | none => true
  | some count => (taken : ℤ) < count

/-- The `while` loop, from a test of its condition up to where the call of `next`
is answered. -/
def loop (previous : Option (List (PyStr × Json))) (taken : ℕ) : List SamplingEvent × Generator :=
  if w.goesOn taken then
    let waited := waitUntil (w.reading (taken + 1)) (w.reading 0 + taken * w.interval)
    match w.sample (taken + 1), previous with
    | .error e, _ => (waited ++ [.probed, .raised e], .finished)
    | .ok current, some before =>
      match diffSnapshots before current with
      | .error e => (waited ++ [.probed, .raised e], .finished)
      | .ok delta => (waited ++ [.probed, .yielded delta], .suspended current (taken + 1))
    | .ok current, none =>
      let answer := loop (some current) (taken + 1)
      (waited ++ [.probed] ++ answer.1, answer.2)
  else ([.stopped], .finished)
termination_by previous.elim 1 fun _ => 0

/-- A call of `next`: the loop runs to its next `yield`, to an exception or to its end. -/
def next : Generator → List SamplingEvent × Generator
  | .created => w.loop none 0
  | .suspended current taken => w.loop (some current) taken
  | .finished => ([.stopped], .finished)

/-- The trace and the generator after `n` calls of `next`, on an iterator that was just
made. -/
def run : ℕ → List SamplingEvent × Generator
  | 0 => ([], .created)
  | n + 1 =>
    let answer := w.next (run n).2
    ((run n).1 ++ answer.1, answer.2)

/-! ## What the generator may do -/

/-- The first samples are snapshots: none of these probes raised. -/
def AllTaken (taken : ℕ) : Prop := ∀ k, 1 ≤ k → k ≤ taken → ∃ s, w.sample k = .ok s

/-- The delta of the samples `i + 1` and `i + 2`, which are consecutive. -/
def IsDelta (i : ℕ) (delta : SnapshotDelta) : Prop :=
  ∃ before after, w.sample (i + 1) = .ok before ∧ w.sample (i + 2) = .ok after ∧
    diffSnapshots before after = .ok delta

/-- Probe `k` raises, or its sample cannot be compared with the one before. Either ends the
series. -/
def Fails (k : ℕ) (e : PyError) : Prop :=
  w.sample k = .error e ∨ ∃ i before after, k = i + 2 ∧ w.sample (i + 1) = .ok before ∧
    w.sample (i + 2) = .ok after ∧ diffSnapshots before after = .error e

/-- What may happen after a trace. Nothing but the trace and the samples decides, so this is
the contract a consumer sees. -/
inductive Permitted (trace : List SamplingEvent) : SamplingEvent → Prop
  | slept {seconds : ℚ} (hlive : Live trace) (hpos : 0 < seconds) : Permitted trace (.slept seconds)
  | probed (hlive : Live trace) (hgo : w.goesOn (probes trace) = true)
      (hok : w.AllTaken (probes trace)) (hdue : (deltas trace).length = probes trace - 1) :
      Permitted trace .probed
  | yielded {delta : SnapshotDelta} (hlive : Live trace)
      (htwo : probes trace = (deltas trace).length + 2)
      (hdelta : w.IsDelta (deltas trace).length delta) : Permitted trace (.yielded delta)
  | raised {e : PyError} (hlive : Live trace) (hone : 1 ≤ probes trace)
      (hdue : (deltas trace).length = probes trace - 2) (hfails : w.Fails (probes trace) e) :
      Permitted trace (.raised e)
  | exhausted (hlive : Live trace) (hgo : w.goesOn (probes trace) = false)
      (hok : w.AllTaken (probes trace)) (hdue : (deltas trace).length = probes trace - 1) :
      Permitted trace .stopped
  | finished (hend : ¬Live trace) : Permitted trace .stopped

/-- Where the loop tests its condition: what it holds of the trace, with `taken` samples and
the last of them in hand. -/
structure AtLoop (previous : Option (List (PyStr × Json))) (taken : ℕ)
    (trace : List SamplingEvent) : Prop where
  lawful : Lawful w.Permitted trace
  live : Live trace
  probed : probes trace = taken
  due : (deltas trace).length = taken - 1
  samples : w.AllTaken taken
  last : (previous = none ∧ taken = 0) ∨
    ∃ s, previous = some s ∧ 1 ≤ taken ∧ w.sample taken = .ok s

/-- What the state of the generator says of the trace. It is the invariant from one call of
`next` to the next. -/
inductive Matches : Generator → List SamplingEvent → Prop
  | created : Matches .created []
  | suspended {current : List (PyStr × Json)} {taken : ℕ} {trace : List SamplingEvent}
      (htwo : 2 ≤ taken) (hloop : w.AtLoop (some current) taken trace) :
      Matches (.suspended current taken) trace
  | finished {trace : List SamplingEvent} (hlawful : Lawful w.Permitted trace)
      (hend : ¬Live trace) : Matches .finished trace

variable {w} {previous : Option (List (PyStr × Json))} {taken : ℕ} {trace : List SamplingEvent}

/-- Before its first event the generator is in front of its loop, with no sample taken. -/
theorem atLoop_nil : w.AtLoop none 0 [] :=
  ⟨Lawful.nil, live_nil, rfl, rfl, fun k hk hle => by omega, .inl ⟨rfl, rfl⟩⟩

/-- The wait changes nothing: it adds at most a sleep, which answers no call. -/
theorem AtLoop.waited (h : w.AtLoop previous taken trace) (now deadline : ℚ) :
    w.AtLoop previous taken (trace ++ waitUntil now deadline) ∧
      answered (waitUntil now deadline) = 0 := by
  unfold waitUntil
  dsimp only
  split_ifs with hpos
  · refine ⟨⟨?_, ?_, ?_, ?_, h.samples, h.last⟩, rfl⟩
    · exact Lawful.append_singleton.2 ⟨h.lawful, .slept h.live hpos⟩
    · exact live_append.2 ⟨h.live, live_singleton.2 rfl⟩
    · rw [probes_append, h.probed]
      rfl
    · rw [deltas_append, List.length_append, h.due]
      rfl
  · rw [List.append_nil]
    exact ⟨h, rfl⟩

/-- A probe of the target is permitted where the loop goes on: every delta that is due has
been yielded. -/
theorem AtLoop.probe (h : w.AtLoop previous taken trace) (hgo : w.goesOn taken = true) :
    Lawful w.Permitted (trace ++ [.probed]) ∧ Live (trace ++ [.probed]) ∧
      probes (trace ++ [.probed]) = taken + 1 ∧
      (deltas (trace ++ [.probed])).length = taken - 1 := by
  obtain ⟨hlawful, hlive, rfl, hdue, hsamples, -⟩ := h
  refine ⟨?_, ?_, ?_, ?_⟩
  · exact Lawful.append_singleton.2 ⟨hlawful, .probed hlive hgo hsamples hdue⟩
  · exact live_append.2 ⟨hlive, live_singleton.2 rfl⟩
  · rw [probes_append]
    rfl
  · rw [deltas_append, List.length_append, hdue]
    rfl

omit [IsoFormat] [Unicode] [FloatText] in
/-- Where the next sample is taken as well, one more of them is. -/
theorem AllTaken.succ {s : List (PyStr × Json)} (h : w.AllTaken taken)
    (hs : w.sample (taken + 1) = .ok s) : w.AllTaken (taken + 1) := by
  intro k hk hle
  rcases Nat.lt_or_ge taken k with hlt | hge
  · obtain rfl : k = taken + 1 := by omega
    exact ⟨s, hs⟩
  · exact h k hk hge

/-- A failure ends the series: the probe is made, and its exception is raised to the
consumer. -/
theorem AtLoop.raise {e : PyError} (h : w.AtLoop previous taken trace)
    (hgo : w.goesOn taken = true) (hfails : w.Fails (taken + 1) e) :
    w.Matches .finished (trace ++ [.probed, .raised e]) := by
  obtain ⟨hlawful, hlive, hprobed, hdue⟩ := h.probe hgo
  have hsplit : trace ++ [.probed, .raised e] = trace ++ [.probed] ++ [.raised e] := by simp
  rw [hsplit]
  refine .finished (Lawful.append_singleton.2 ⟨hlawful, .raised hlive ?_ ?_ ?_⟩) ?_
  · omega
  · omega
  · rwa [hprobed]
  · rw [live_append, live_singleton]
    exact fun hall => nomatch hall.2

/-- The first sample is not compared: there is none before it, and the loop goes round once
more. -/
theorem AtLoop.first {s : List (PyStr × Json)} (h : w.AtLoop none taken trace)
    (hgo : w.goesOn taken = true) (hs : w.sample (taken + 1) = .ok s) :
    w.AtLoop (some s) (taken + 1) (trace ++ [.probed]) := by
  obtain ⟨hlawful, hlive, hprobed, hdue⟩ := h.probe hgo
  obtain ⟨-, rfl⟩ : none = none ∧ taken = 0 := h.last.resolve_right (by simp)
  exact ⟨hlawful, hlive, hprobed, hdue, h.samples.succ hs, .inr ⟨s, rfl, by omega, hs⟩⟩

/-- Behind the first probe the loop holds the last sample. -/
theorem AtLoop.last_sample {before : List (PyStr × Json)}
    (h : w.AtLoop (some before) taken trace) :
    ∃ i, taken = i + 1 ∧ w.sample (i + 1) = .ok before := by
  obtain ⟨_, hsome, hone, hbefore⟩ := h.last.resolve_left (by simp)
  obtain rfl := Option.some.inj hsome
  obtain ⟨i, rfl⟩ : ∃ i, taken = i + 1 := ⟨taken - 1, by omega⟩
  exact ⟨i, rfl, hbefore⟩

/-- A later sample is compared with the one before, and the generator is suspended with it
in hand. -/
theorem AtLoop.yield {before current : List (PyStr × Json)} {d : SnapshotDelta}
    (h : w.AtLoop (some before) taken trace) (hgo : w.goesOn taken = true)
    (hs : w.sample (taken + 1) = .ok current) (hd : diffSnapshots before current = .ok d) :
    w.Matches (.suspended current (taken + 1)) (trace ++ [.probed, .yielded d]) := by
  obtain ⟨hlawful, hlive, hprobed, hdue⟩ := h.probe hgo
  obtain ⟨i, rfl, hbefore⟩ := h.last_sample
  have hsplit : trace ++ [.probed, .yielded d] = trace ++ [.probed] ++ [.yielded d] := by simp
  rw [hsplit]
  rw [Nat.add_sub_cancel] at hdue
  refine .suspended (by omega) ⟨?_, ?_, ?_, ?_, h.samples.succ hs, .inr ⟨_, rfl, by omega, hs⟩⟩
  · refine Lawful.append_singleton.2 ⟨hlawful, .yielded hlive (by omega) ?_⟩
    rw [hdue]
    exact ⟨before, current, hbefore, hs, hd⟩
  · exact live_append.2 ⟨hlive, live_singleton.2 rfl⟩
  · rw [probes_append, hprobed]
    rfl
  · rw [deltas_append, List.length_append, hdue]
    rfl

/-- The series is over once the count is reached, and every delta of its samples has been
yielded. -/
theorem AtLoop.stop (h : w.AtLoop previous taken trace) (hgo : w.goesOn taken = false) :
    w.Matches .finished (trace ++ [.stopped]) := by
  obtain ⟨hlawful, hlive, rfl, hdue, hsamples, -⟩ := h
  refine .finished (Lawful.append_singleton.2 ⟨hlawful, .exhausted hlive hgo hsamples hdue⟩) ?_
  rw [live_append, live_singleton]
  exact fun hall => nomatch hall.2

/-- **A round of calls.**  From the test of the loop the generator only does what
is permitted, up to one answer. -/
theorem AtLoop.loop (h : w.AtLoop previous taken trace) :
    w.Matches (w.loop previous taken).2 (trace ++ (w.loop previous taken).1) ∧
      answered (w.loop previous taken).1 = 1 := by
  induction previous, taken using Sampling.loop.induct w generalizing trace with
  | case1 previous taken hgo e hs =>
    obtain ⟨hwaited, hzero⟩ := h.waited (w.reading (taken + 1)) (w.reading 0 + taken * w.interval)
    have hend := hwaited.raise hgo (.inl hs)
    rw [List.append_assoc] at hend
    simp only [Sampling.loop, hgo, hs, if_true, answered_append, hzero]
    exact ⟨hend, rfl⟩
  | case2 taken hgo current before hs e hd =>
    obtain ⟨hwaited, hzero⟩ := h.waited (w.reading (taken + 1)) (w.reading 0 + taken * w.interval)
    obtain ⟨i, rfl, hbefore⟩ := h.last_sample
    have hend := hwaited.raise hgo (.inr ⟨i, before, current, rfl, hbefore, hs, hd⟩)
    rw [List.append_assoc] at hend
    simp only [Sampling.loop, hgo, hs, hd, if_true, answered_append, hzero]
    exact ⟨hend, rfl⟩
  | case3 taken hgo current before hs d hd =>
    obtain ⟨hwaited, hzero⟩ := h.waited (w.reading (taken + 1)) (w.reading 0 + taken * w.interval)
    have hnext := hwaited.yield hgo hs hd
    rw [List.append_assoc] at hnext
    simp only [Sampling.loop, hgo, hs, hd, if_true, answered_append, hzero]
    exact ⟨hnext, rfl⟩
  | case4 taken hgo current hs ih =>
    obtain ⟨hwaited, hzero⟩ := h.waited (w.reading (taken + 1)) (w.reading 0 + taken * w.interval)
    obtain ⟨hmatches, hone⟩ := ih (hwaited.first hgo hs)
    rw [Sampling.loop]
    simp only [hgo, hs, if_true, answered_append, hzero, hone]
    rw [← List.append_assoc, ← List.append_assoc]
    exact ⟨hmatches, rfl⟩
  | case5 previous taken hgo =>
    rw [Sampling.loop, if_neg hgo]
    exact ⟨h.stop (Bool.not_eq_true _ ▸ hgo), rfl⟩

/-- A trace that matches the generator has each of its events permitted by those before
it. -/
theorem Matches.lawful {generator : Generator} (h : w.Matches generator trace) :
    Lawful w.Permitted trace := by
  cases h with
  | created => exact Lawful.nil
  | suspended _ hloop => exact hloop.lawful
  | finished hlawful _ => exact hlawful

/-- A call of `next` is answered once, and what it does is permitted. This is the step of
the induction. -/
theorem Matches.next {generator : Generator} (h : w.Matches generator trace) :
    w.Matches (w.next generator).2 (trace ++ (w.next generator).1) ∧
      answered (w.next generator).1 = 1 := by
  cases h with
  | created => exact atLoop_nil.loop
  | suspended htwo hloop => exact hloop.loop
  | finished hlawful hend =>
    refine ⟨.finished (Lawful.append_singleton.2 ⟨hlawful, .finished hend⟩) ?_, rfl⟩
    rw [live_append]
    exact fun hall => hend hall.1

variable (w) in
/-- **The generator only does what is permitted**, and answers every call, by induction on
the number of calls. -/
theorem run_matches (n : ℕ) : w.Matches (w.run n).2 (w.run n).1 ∧ answered (w.run n).1 = n := by
  induction n with
  | zero => exact ⟨.created, rfl⟩
  | succ n ih =>
    obtain ⟨hmatches, hone⟩ := ih.1.next
    refine ⟨hmatches, ?_⟩
    rw [run, answered_append, ih.2, hone]

/-! ## What follows from the trace -/

/-- The deltas are those of consecutive samples, in order and without a gap. -/
theorem isDelta_of_lawful (h : Lawful w.Permitted trace) :
    ∀ i d, (deltas trace)[i]? = some d → w.IsDelta i d := by
  refine Lawful.invariant (fun trace => ∀ i d, (deltas trace)[i]? = some d → w.IsDelta i d)
    (by simp [deltas]) (fun trace event ih hevent i d hi => ?_) h
  rw [deltas_append_singleton, List.getElem?_append] at hi
  split_ifs at hi with hlt
  · exact ih i d hi
  · cases hevent with
    | yielded hlive htwo hdelta =>
      rcases hk : i - (deltas trace).length with _ | k
      · obtain rfl : i = (deltas trace).length := by omega
        rw [hk] at hi
        obtain rfl := Option.some.inj hi
        exact hdelta
      · rw [hk] at hi
        cases hi
    | _ => simp [SamplingEvent.delta?] at hi

/-- The target is probed up to the count, and not at all for a count that is not positive. -/
theorem probes_le_count (h : Lawful w.Permitted trace) {count : ℤ} (hcount : w.count = some count) :
    (probes trace : ℤ) ≤ max count 0 := by
  refine Lawful.invariant (fun trace => (probes trace : ℤ) ≤ max count 0)
    (le_max_right _ _) (fun trace event ih hevent => ?_) h
  rw [probes_append_singleton]
  cases hevent with
  | probed hlive hgo hok hdue =>
    have hlt : (probes trace : ℤ) < count := by simpa [goesOn, hcount] using hgo
    have hle : (probes trace : ℤ) + 1 ≤ count := hlt
    exact le_max_of_le_left (by simpa [SamplingEvent.isProbe] using hle)
  | _ => simpa [SamplingEvent.isProbe] using ih

/-- The target is not probed after a probe that fails. -/
theorem probes_le_of_error (h : Lawful w.Permitted trace) {k : ℕ} {e : PyError} (hk : 1 ≤ k)
    (hfail : w.sample k = .error e) : probes trace ≤ k := by
  refine Lawful.invariant (fun trace => probes trace ≤ k) (Nat.zero_le _)
    (fun trace event ih hevent => ?_) h
  rw [probes_append_singleton]
  cases hevent with
  | probed hlive hgo hok hdue =>
    have hlt : probes trace < k := by
      by_contra hle
      obtain ⟨s, hs⟩ := hok k hk (not_lt.1 hle)
      rw [hs] at hfail
      cases hfail
    exact hlt
  | _ => simpa [SamplingEvent.isProbe] using ih

/-- How a series ended: by an error, or by the count. -/
inductive Ended (w : Sampling) (trace : List SamplingEvent) : Prop
  | raised (before : List SamplingEvent) (e : PyError) (later : ℕ)
      (htrace : trace = before ++ .raised e :: List.replicate later .stopped)
      (hlive : Live before) (hone : 1 ≤ probes before)
      (hdue : (deltas before).length = probes before - 2) (hfails : w.Fails (probes before) e)
  | exhausted (before : List SamplingEvent) (later : ℕ)
      (htrace : trace = before ++ List.replicate (later + 1) .stopped)
      (hlive : Live before) (hgo : w.goesOn (probes before) = false)
      (hok : w.AllTaken (probes before)) (hdue : (deltas before).length = probes before - 1)

/-- A series that is over has ended in one of the two ways, and nothing happens
after. -/
theorem live_or_ended (h : Lawful w.Permitted trace) : Live trace ∨ w.Ended trace := by
  refine Lawful.invariant (fun trace => Live trace ∨ w.Ended trace) (.inl live_nil)
    (fun trace event ih hevent => ?_) h
  cases hevent with
  | slept hlive | probed hlive | yielded hlive =>
    exact .inl (live_append.2 ⟨hlive, live_singleton.2 rfl⟩)
  | raised hlive hone hdue hfails => exact .inr (.raised trace _ 0 rfl hlive hone hdue hfails)
  | exhausted hlive hgo hok hdue => exact .inr (.exhausted trace 0 rfl hlive hgo hok hdue)
  | finished hend =>
    right
    rcases ih.resolve_left hend with
      ⟨before, e, later, rfl, hlive, hone, hdue, hfails⟩ |
      ⟨before, later, rfl, hlive, hgo, hok, hdue⟩
    · refine .raised before e (later + 1) ?_ hlive hone hdue hfails
      rw [List.replicate_succ', List.append_assoc, List.cons_append]
    · refine .exhausted before (later + 1) ?_ hlive hgo hok hdue
      rw [List.replicate_succ' (n := later + 1), List.append_assoc]

omit [IsoFormat] [Unicode] [FloatText] in
/-- A generator that has stopped probes nothing any more. -/
theorem probes_replicate_stopped (m : ℕ) : probes (List.replicate m .stopped) = 0 := by
  rw [probes, List.countP_replicate]
  rfl

omit [IsoFormat] [Unicode] [FloatText] in
/-- A generator that has stopped yields nothing any more. -/
theorem deltas_replicate_stopped (m : ℕ) : deltas (List.replicate m .stopped) = [] := by
  rw [deltas, List.filterMap_replicate_of_none rfl]

/-- An error ends the series, and comes of the last probe; behind it the iterator only
stops. -/
theorem of_raised_mem (h : Lawful w.Permitted trace) {e : PyError} (he : .raised e ∈ trace) :
    w.Fails (probes trace) e ∧ (deltas trace).length = probes trace - 2 ∧
      ∃ before later, trace = before ++ .raised e :: List.replicate later .stopped := by
  have hnot : ∀ before, Live before → .raised e ∉ before := by
    intro before hlive hmem
    cases hlive _ hmem
  rcases live_or_ended h with hlive |
    ⟨before, e', later, rfl, hlive, hone, hdue, hfails⟩ |
    ⟨before, later, rfl, hlive, hgo, hok, hdue⟩
  · exact absurd he (hnot trace hlive)
  · obtain rfl : e = e' := by simpa [hnot before hlive, List.mem_replicate] using he
    have hprobes :
        probes (before ++ .raised e :: List.replicate later .stopped) = probes before := by
      rw [← List.singleton_append, probes_append, probes_append, probes_replicate_stopped]
      rfl
    have hdeltas :
        deltas (before ++ .raised e :: List.replicate later .stopped) = deltas before := by
      rw [← List.singleton_append, deltas_append, deltas_append, deltas_replicate_stopped]
      exact List.append_nil _
    rw [hprobes, hdeltas]
    exact ⟨hfails, hdue, before, later, rfl⟩
  · simp [hnot before hlive, List.mem_replicate] at he

/-- A series that stopped without an error has taken all its samples, and yielded all their
deltas. -/
theorem of_stopped_mem (h : Lawful w.Permitted trace) (hstop : .stopped ∈ trace)
    (hno : ∀ e, .raised e ∉ trace) :
    w.goesOn (probes trace) = false ∧ w.AllTaken (probes trace) ∧
      (deltas trace).length = probes trace - 1 := by
  rcases live_or_ended h with hlive |
    ⟨before, e, later, rfl, -⟩ | ⟨before, later, rfl, hlive, hgo, hok, hdue⟩
  · cases hlive _ hstop
  · exact absurd (by simp) (hno e)
  · rw [probes_append, probes_replicate_stopped, Nat.add_zero, deltas_append,
      deltas_replicate_stopped, List.append_nil]
    exact ⟨hgo, hok, hdue⟩

/-- While the series goes on, there is a delta for each answer, and one probe more
once there is one. -/
theorem Matches.required {generator : Generator} (h : w.Matches generator trace)
    (hlive : Live trace) :
    (deltas trace).length = answered trace ∧
      probes trace = if answered trace = 0 then 0 else answered trace + 1 := by
  refine ⟨(answered_of_live hlive).symm, ?_⟩
  cases h with
  | created => rfl
  | suspended htwo hloop =>
    rw [answered_of_live hlive, hloop.due, hloop.probed, if_neg (by omega)]
    omega
  | finished _ hend => exact absurd hlive hend

/-- A probe that failed has ended the series. -/
theorem Matches.of_error {generator : Generator} (h : w.Matches generator trace) {e : PyError}
    (hone : 1 ≤ probes trace) (hfail : w.sample (probes trace) = .error e) :
    .raised e ∈ trace := by
  have hnot : ∀ taken, 1 ≤ taken → w.sample taken = .error e → ¬w.AllTaken taken := by
    intro taken hone hfail hok
    obtain ⟨s, hs⟩ := hok taken hone le_rfl
    rw [hs] at hfail
    cases hfail
  cases h with
  | created => cases hone
  | suspended htwo hloop =>
    rw [hloop.probed] at hone hfail
    exact absurd hloop.samples (hnot _ hone hfail)
  | finished hlawful hend =>
    by_cases hraised : ∃ e', .raised e' ∈ trace
    · obtain ⟨e', he'⟩ := hraised
      rcases (of_raised_mem hlawful he').1 with hs | ⟨i, before, after, hi, -, hs, -⟩
      · rw [hs] at hfail
        exact Except.error.inj hfail ▸ he'
      · rw [hi, hs] at hfail
        cases hfail
    · have hstop : .stopped ∈ trace := by
        by_contra hstop
        refine hend fun event hmem => ?_
        cases event with
        | slept | probed | yielded => rfl
        | raised e' => exact absurd ⟨e', hmem⟩ hraised
        | stopped => exact absurd hmem hstop
      have hok := (of_stopped_mem hlawful hstop (not_exists.1 hraised)).2.1
      exact absurd hok (hnot _ hone hfail)

/-- The sections a sample brings can be compared: they are of one process, with rankings
that can be read. -/
def Comparable (pid : ℤ) : Prop :=
  ∀ k s, w.sample (k + 1) = .ok s → IsSnapshotOf pid s ∧
    ∀ ranking, member (py "objects") s = .obj ranking → ∃ counts, countsByType ranking = .ok counts

/-- Two comparable samples have a delta, whichever two of the series they are. -/
theorem Comparable.diff {pid : ℤ} (h : w.Comparable pid) {i j : ℕ}
    {before after : List (PyStr × Json)} (hb : w.sample (i + 1) = .ok before)
    (ha : w.sample (j + 1) = .ok after) : ∃ d, diffSnapshots before after = .ok d := by
  obtain ⟨hbefore, hwas⟩ := h i before hb
  obtain ⟨hafter, hnow⟩ := h j after ha
  have hobjects : ∃ objects,
      objectsDelta (member (py "objects") before) (member (py "objects") after) = .ok objects := by
    unfold objectsDelta
    split
    · next ranking ranking' hr hr' =>
      obtain ⟨was, hwas⟩ := hwas ranking hr
      obtain ⟨now, hnow⟩ := hnow ranking' hr'
      rw [hwas, ok_bind, hnow, ok_bind]
      exact ⟨_, rfl⟩
    · exact ⟨_, rfl⟩
  obtain ⟨objects, hobjects⟩ := hobjects
  obtain ⟨d, hd, -⟩ := (diffSnapshots_of_process hbefore hafter).1 objects hobjects
  exact ⟨d, hd⟩

/-- What a consumer that made `n` calls can rely on, whatever the samples are. -/
structure Contract (w : Sampling) (n : ℕ) (trace : List SamplingEvent) : Prop where
  /-- Every call was answered once. -/
  answered : answered trace = n
  /-- The `i`-th delta is that of samples `i` and `i + 1`, counted from 1. -/
  consecutive : ∀ i d, (deltas trace)[i]? = some d → w.IsDelta i d
  /-- At each probe all deltas of the samples before it have been yielded. -/
  inTime : ∀ before after, trace = before ++ .probed :: after →
    (deltas before).length = probes before - 1
  /-- As long as the series goes on there is a delta for each call and one probe
  more than there are deltas. -/
  required : Live trace → (deltas trace).length = n ∧ probes trace = if n = 0 then 0 else n + 1
  /-- The target is not probed more often than asked for. -/
  atMost : ∀ count, w.count = some count → (probes trace : ℤ) ≤ max count 0
  /-- A series that ends without an error has reached its count. -/
  exhausted : .stopped ∈ trace → (∀ e, .raised e ∉ trace) → ∃ count, w.count = some count ∧
    (probes trace : ℤ) = max count 0 ∧ ((deltas trace).length : ℤ) = max (count - 1) 0
  /-- A probe that fails is the last one, and its error ends the series. -/
  failure : ∀ k e, 1 ≤ k → w.sample k = .error e → probes trace ≤ k ∧
    (probes trace = k → (deltas trace).length = k - 2 ∧
      ∃ before later, trace = before ++ .raised e :: List.replicate later .stopped)
  /-- An error comes of the last probe. -/
  raised : ∀ e, .raised e ∈ trace → w.Fails (probes trace) e
  /-- Samples of one process that can be compared leave the errors of the probes
  only. -/
  ownErrors : ∀ pid, w.Comparable pid → ∀ e, .raised e ∈ trace → w.sample (probes trace) = .error e

variable (w) in
/-- **Sampling runs.**  Whatever the count, the probes and the clock come to, and
however often the consumer calls `next`. -/
theorem sampling_contract (n : ℕ) : w.Contract n (w.run n).1 := by
  obtain ⟨hmatches, hanswered⟩ := run_matches w n
  have hlawful := hmatches.lawful
  refine ⟨hanswered, isDelta_of_lawful hlawful, fun before after htrace => ?_, fun hlive => ?_,
    fun count hcount => probes_le_count hlawful hcount, fun hstop hno => ?_,
    fun k e hk hfail => ⟨probes_le_of_error hlawful hk hfail, fun heq => ?_⟩,
    fun e he => (of_raised_mem hlawful he).1, fun pid hpid e he => ?_⟩
  · cases hlawful before _ after htrace with
    | probed hlive hgo hok hdue => exact hdue
  · simpa only [hanswered] using hmatches.required hlive
  · obtain ⟨hgo, -, hdue⟩ := of_stopped_mem hlawful hstop hno
    rcases hcount : w.count with _ | count
    · simp [goesOn, hcount] at hgo
    · have hle : count ≤ probes (w.run n).1 := by simpa [goesOn, hcount] using hgo
      have hmost := probes_le_count hlawful hcount
      refine ⟨count, rfl, ?_, ?_⟩
      · omega
      · omega
  · have hraised := hmatches.of_error (heq ▸ hk) (heq ▸ hfail)
    obtain ⟨-, hdue, hends⟩ := of_raised_mem hlawful hraised
    exact ⟨heq ▸ hdue, hends⟩
  · rcases (of_raised_mem hlawful he).1 with hs | ⟨i, before, after, hi, hb, ha, hd⟩
    · exact hs
    · obtain ⟨d, hd'⟩ := hpid.diff hb ha
      rw [hd'] at hd
      cases hd

end Sampling
end

end Diff
end Pidprobe
