/-
# What the commands print

`write_json` of `_commands.py`, and the loop of `run_diff` with what it leaves on
stdout: `printed` is its transcript, every step of the generator and every line in
the order they happen.  `Due` says when each may happen: the generator only goes
on once all its deltas are written, so a delta is out before the target is probed
again (`diff_prints_as_computed`).

A line holds no newline but its own, so a reader that is cut off anywhere has a
front of the deltas (`diff_stream_reads_back`).
-/

import Pidprobe.Commands
import Pidprobe.Lib.JsonLayout
import Pidprobe.Lib.Records

namespace Pidprobe

/-! ## Documents -/

namespace Diff

/-- `{"before": was, "after": now, "delta": now - was}`. -/
def Change.json (c : Change) : Json :=
  .obj [(py "before", .int c.before), (py "after", .int c.after), (py "delta", .int c.delta)]

/-- A value, or `None`, which `json.dumps` writes as null. -/
def orNull {α : Type} (json : α → Json) (x : Option α) : Json := x.elim .null json

/-- A row of `objects.types`. -/
def TypeDelta.json (row : TypeDelta) : Json :=
  .obj [(py "type", .str row.type), (py "before", orNull .int row.before),
    (py "after", orNull .int row.after), (py "delta", .int row.delta)]

/-- The document of `_objects_delta`. -/
def ObjectsDelta.json (d : ObjectsDelta) : Json :=
  .obj [(py "top_n", orNull .int d.topN), (py "total_tracked", orNull Change.json d.totalTracked),
    (py "distinct_types", orNull Change.json d.distinctTypes),
    (py "types", .arr (d.types.map TypeDelta.json))]

/-- A row of `gc.generations`. -/
def GenerationDelta.json (row : GenerationDelta) : Json :=
  .obj ((py "generation", .int row.generation) ::
    row.changes.map fun change => (change.1, change.2.json))

/-- The document of `_gc_delta`. -/
def GcDelta.json (d : GcDelta) : Json :=
  .obj [(py "generations", .arr (d.generations.map GenerationDelta.json)),
    (py "garbage_count", orNull Change.json d.garbageCount),
    (py "freeze_count", orNull Change.json d.freezeCount)]

/-- The document of `_fds_delta`. -/
def FdsDelta.json (d : FdsDelta) : Json := .obj [(py "count", orNull Change.json d.count)]

/-- The document of `diff_snapshots`, its members in the order of the source. -/
def SnapshotDelta.json (d : SnapshotDelta) : Json :=
  .obj [(py "schema_version", .str d.schemaVersion),
    (py "meta", .obj [(py "pid", d.pid), (py "from", d.capturedFrom), (py "to", d.capturedTo),
      (py "interval_ms", orNull .float d.intervalMs)]),
    (py "objects", orNull ObjectsDelta.json d.objects), (py "gc", orNull GcDelta.json d.gc),
    (py "fds", orNull FdsDelta.json d.fds)]

end Diff

namespace Commands

open Diff

/-! ## Writing -/

/-- `_COMPACT_SEPARATORS`: no blanks and no line breaks. -/
def compactLayout : Json.Layout := ⟨0, 0, none⟩

/-- `indent=_PRETTY_INDENT`: two blanks for a level, and a blank behind each colon. -/
def prettyLayout : Json.Layout := ⟨0, 1, some 2⟩

section

variable [FloatText]

/-- `text` of `write_json`: the document on one line, or indented where `--pretty` asks for
it. -/
def jsonText (isPretty : Bool) (document : Json) : PyStr :=
  document.dumpsWith (if isPretty then prettyLayout else compactLayout) 0

/-- What `write_json` writes: the text and a newline. It flushes, so that a reader sees each
document as it comes. -/
def writeJson (isPretty : Bool) (document : Json) : PyStr := jsonText isPretty document ++ [cp '\n']

/-- A printed document is read back, compact or indented. -/
theorem read_jsonText (isPretty : Bool) {document : Json} (h : document.ReadsBack) :
    Json.read (jsonText isPretty document) = some document.reread := by
  unfold jsonText
  exact Json.read_dumpsWith h

/-- A compact document is one line. -/
theorem newline_notMem_jsonText (document : Json) : cp '\n' ∉ jsonText false document := by
  have hcompact : (if false = true then prettyLayout else compactLayout) = compactLayout := rfl
  unfold jsonText
  rw [hcompact]
  exact Json.newline_notMem_dumpsWith rfl 0 document

end

/-! ## The transcript of `run_diff` -/

/-- A step of the generator, a line that was written and flushed, or a line that
could not be. -/
inductive Output
  | sampled (event : SamplingEvent)
  | wrote (text : PyStr)
  | failed (failure : WriteError)

namespace Output

/-- The step of the generator. -/
def event? : Output → Option SamplingEvent
  | sampled event => some event
  | _ => none

/-- The text on stdout. -/
def text? : Output → Option PyStr
  | wrote text => some text
  | _ => none

end Output

/-- What the generator did, by itself: the transcript without what happens on stdout. -/
def sampledOf (transcript : List Output) : List SamplingEvent :=
  transcript.filterMap Output.event?

/-- What was written, in order; a write that failed has written nothing. -/
def textsOf (transcript : List Output) : List PyStr := transcript.filterMap Output.text?

section

variable [Unicode] [FloatText] [IsoFormat] {ε : Type} (w : World ε)
  (isPretty : Bool)

/-- The loop of `run_diff`, with all that happens in it: each delta is written before the
next call of `next`. -/
def printedFrom (series : Sampling) : ℕ → ℕ → Generator → List Output
  | 0, _, _ => []
  | calls + 1, written, generator =>
    let answer := series.next generator
    answer.1.map .sampled ++
      match answer.1.getLast? with
      | some (.yielded delta) =>
        match w.write written with
        | none => .wrote (writeJson isPretty delta.json) ::
            printedFrom series calls (written + 1) answer.2
        | some failure => [.failed failure]
      | _ => []

/-- The transcript of `run_diff`, for so many calls of `next`. A run that is cut off has a
transcript too. -/
def printed (options : Options) (pid : ℤ) (calls : ℕ) : List Output :=
  printedFrom w isPretty (sampling w options pid) calls 0 .created

/-- How the command ends, by its last step: a failed write, an exception of the series, or
its end. -/
def ending (transcript : List Output) : Option (Except Raised ℕ) :=
  match transcript.getLast? with
  | some (.failed failure) => some (.error failure.raised)
  | some (.sampled (.raised exc)) => some (.error (.exception exc))
  | some (.sampled .stopped) => some (.ok exitOk)
  | _ => none

end

/-! ## When each step may happen -/

/-- Every delta of the generator is on stdout: nothing that was yielded is held back. -/
def Flushed [FloatText] (isPretty : Bool) (transcript : List Output) : Prop :=
  textsOf transcript = (deltas (sampledOf transcript)).map fun d => writeJson isPretty d.json

section

variable [IsoFormat] [Unicode] [FloatText]

/-- What may happen after a transcript: the generator goes on once all its deltas
are written, and then with what is permitted to it; and a line is that of the
last delta. -/
inductive Due (series : Sampling) (isPretty : Bool) (transcript : List Output) : Output → Prop
  | sampled {event : SamplingEvent} (hflushed : Flushed isPretty transcript)
      (hnext : series.Permitted (sampledOf transcript) event) :
      Due series isPretty transcript (.sampled event)
  | wrote {earlier : List SnapshotDelta} {delta : SnapshotDelta}
      (hlast : deltas (sampledOf transcript) = earlier ++ [delta])
      (hearlier : textsOf transcript = earlier.map fun d => writeJson isPretty d.json) :
      Due series isPretty transcript (.wrote (writeJson isPretty delta.json))
  | failed {failure : WriteError} {earlier : List SnapshotDelta} {delta : SnapshotDelta}
      (hlast : deltas (sampledOf transcript) = earlier ++ [delta])
      (hearlier : textsOf transcript = earlier.map fun d => writeJson isPretty d.json) :
      Due series isPretty transcript (.failed failure)

end

section

variable {transcript rest : List Output} {events : List SamplingEvent}

@[simp] theorem sampledOf_append :
    sampledOf (transcript ++ rest) = sampledOf transcript ++ sampledOf rest :=
  List.filterMap_append ..

@[simp] theorem textsOf_append :
    textsOf (transcript ++ rest) = textsOf transcript ++ textsOf rest :=
  List.filterMap_append ..

@[simp] theorem sampledOf_map : sampledOf (events.map .sampled) = events := by
  rw [sampledOf, List.filterMap_map]
  exact List.filterMap_some

@[simp] theorem textsOf_map : textsOf (events.map .sampled) = [] := by
  rw [textsOf, List.filterMap_map]
  exact List.filterMap_none ..

@[simp] theorem sampledOf_wrote (text : PyStr) : sampledOf [.wrote text] = [] := rfl

@[simp] theorem sampledOf_failed (failure : WriteError) : sampledOf [.failed failure] = [] := rfl

@[simp] theorem textsOf_sampled (event : SamplingEvent) : textsOf [.sampled event] = [] := rfl

@[simp] theorem textsOf_failed (failure : WriteError) : textsOf [.failed failure] = [] := rfl

/-- Without an answer there is no delta. -/
theorem deltas_of_unanswered (h : ∀ event ∈ events, event.answers = false) :
    deltas events = [] := by
  refine List.filterMap_eq_nil_iff.2 fun event hevent => ?_
  have hnot := h event hevent
  cases event with
  | yielded delta => cases hnot
  | _ => rfl

end

/-! ## One call of `next` -/

section

variable [IsoFormat] [Unicode] [FloatText] {series : Sampling}

/-- A call of `next` is answered by its last event, and by no other. -/
theorem loop_shape (previous : Option (List (PyStr × Json))) (taken : ℕ) :
    ∃ front last, (series.loop previous taken).1 = front ++ [last] ∧
      (∀ event ∈ front, event.answers = false) ∧ last.answers = true := by
  have hwait : ∀ now deadline : ℚ, ∀ event ∈ waitUntil now deadline, event.answers = false := by
    intro now deadline event hevent
    unfold waitUntil at hevent
    dsimp only at hevent
    split_ifs at hevent with hpos
    · obtain rfl := List.mem_singleton.1 hevent
      rfl
    · cases hevent
  have hprobed : ∀ now deadline : ℚ, ∀ event ∈ waitUntil now deadline ++ [.probed],
      event.answers = false := fun now deadline =>
    List.forall_mem_append.2 ⟨hwait now deadline, List.forall_mem_singleton.2 rfl⟩
  induction previous, taken using Sampling.loop.induct series with
  | case1 previous taken hgo e hs =>
    have hfront := hprobed (series.reading (taken + 1)) (series.reading 0 + taken * series.interval)
    refine ⟨_, .raised e, ?_, hfront, rfl⟩
    simp only [Sampling.loop, hgo, hs, if_true]
    rw [List.append_assoc]
    rfl
  | case2 taken hgo current before hs e hd =>
    have hfront := hprobed (series.reading (taken + 1)) (series.reading 0 + taken * series.interval)
    refine ⟨_, .raised e, ?_, hfront, rfl⟩
    simp only [Sampling.loop, hgo, hs, hd, if_true]
    rw [List.append_assoc]
    rfl
  | case3 taken hgo current before hs d hd =>
    have hfront := hprobed (series.reading (taken + 1)) (series.reading 0 + taken * series.interval)
    refine ⟨_, .yielded d, ?_, hfront, rfl⟩
    simp only [Sampling.loop, hgo, hs, hd, if_true]
    rw [List.append_assoc]
    rfl
  | case4 taken hgo current hs ih =>
    obtain ⟨front, last, hshape, hrest, hlast⟩ := ih
    have hfront := hprobed (series.reading (taken + 1)) (series.reading 0 + taken * series.interval)
    refine ⟨_ ++ front, last, ?_, List.forall_mem_append.2 ⟨hfront, hrest⟩, hlast⟩
    rw [Sampling.loop]
    simp only [hgo, hs, if_true]
    rw [hshape, ← List.append_assoc]
  | case5 previous taken hgo =>
    refine ⟨[], .stopped, ?_, List.forall_mem_nil _, rfl⟩
    rw [Sampling.loop, if_neg hgo]
    rfl

variable (series) in

/-- One call of `next` ends with an event that answers it, and with none before. -/
theorem next_shape (generator : Generator) :
    ∃ front last, (series.next generator).1 = front ++ [last] ∧
      (∀ event ∈ front, event.answers = false) ∧ last.answers = true := by
  cases generator with
  | created => exact loop_shape none 0
  | suspended current taken => exact loop_shape (some current) taken
  | finished => exact ⟨[], .stopped, rfl, List.forall_mem_nil _, rfl⟩

variable {isPretty : Bool} {transcript : List Output}

/-- Up to its answer the generator only does what is due: it sleeps and probes with every
delta on stdout. -/
theorem due_front {front : List SamplingEvent} (hdue : Lawful (Due series isPretty) transcript)
    (hflushed : Flushed isPretty transcript)
    (hlawful : Lawful series.Permitted (sampledOf transcript ++ front))
    (hfront : ∀ event ∈ front, event.answers = false) :
    Lawful (Due series isPretty) (transcript ++ front.map .sampled) ∧
      Flushed isPretty (transcript ++ front.map .sampled) := by
  have hin : ∀ front : List SamplingEvent, (∀ event ∈ front, event.answers = false) →
      Flushed isPretty (transcript ++ front.map .sampled) := by
    intro front hfront
    rw [Flushed, textsOf_append, sampledOf_append, textsOf_map, sampledOf_map, deltas_append,
      deltas_of_unanswered hfront, List.append_nil, List.append_nil]
    exact hflushed
  refine ⟨?_, hin front hfront⟩
  induction front using List.reverseRecOn with
  | nil => simpa using hdue
  | append_singleton front event ih =>
    rw [← List.append_assoc] at hlawful
    obtain ⟨hlawful, hevent⟩ := Lawful.append_singleton.1 hlawful
    obtain ⟨hfront, -⟩ := List.forall_mem_append.1 hfront
    rw [List.map_append, ← List.append_assoc]
    refine Lawful.append_singleton.2 ⟨ih hlawful hfront, .sampled (hin front hfront) ?_⟩
    rwa [sampledOf_append, sampledOf_map]

/-- And so is its answer, which is about samples that were probed. -/
theorem due_answer {front : List SamplingEvent} {last : SamplingEvent}
    (hdue : Lawful (Due series isPretty) transcript) (hflushed : Flushed isPretty transcript)
    (hlawful : Lawful series.Permitted (sampledOf transcript ++ (front ++ [last])))
    (hfront : ∀ event ∈ front, event.answers = false) :
    Lawful (Due series isPretty) (transcript ++ (front ++ [last]).map .sampled) := by
  rw [← List.append_assoc] at hlawful
  obtain ⟨hbefore, hlast⟩ := Lawful.append_singleton.1 hlawful
  obtain ⟨hmap, hin⟩ := due_front hdue hflushed hbefore hfront
  rw [List.map_append, ← List.append_assoc]
  refine Lawful.append_singleton.2 ⟨hmap, .sampled hin ?_⟩
  rwa [sampledOf_append, sampledOf_map]

end

/-! ## The whole transcript -/

section

variable [Unicode] [FloatText] [IsoFormat] {ε : Type} {w : World ε}
  {isPretty : Bool} {series : Sampling}

/-- **The loop only does what is due**, by induction on the calls of `next`. -/
theorem printedFrom_due : ∀ (calls written : ℕ) (generator : Generator) (transcript : List Output),
    Lawful (Due series isPretty) transcript → Flushed isPretty transcript →
      series.Matches generator (sampledOf transcript) →
        Lawful (Due series isPretty)
          (transcript ++ printedFrom w isPretty series calls written generator)
  | 0, _, _, _, hdue, _, _ => by simpa [printedFrom] using hdue
  | calls + 1, written, generator, transcript, hdue, hflushed, hmatches => by
      obtain ⟨front, last, hshape, hfront, -⟩ := next_shape series generator
      obtain ⟨hnext, -⟩ := hmatches.next
      rw [hshape] at hnext
      have hanswer := due_answer hdue hflushed hnext.lawful hfront
      rw [printedFrom]
      simp only [hshape, List.getLast?_concat]
      cases last with
      | yielded delta =>
        let answered := front ++ [SamplingEvent.yielded delta]
        have hdeltas : deltas (sampledOf (transcript ++ answered.map .sampled)) =
            deltas (sampledOf transcript) ++ [delta] := by
          rw [sampledOf_append, sampledOf_map, deltas_append, deltas_append,
            deltas_of_unanswered hfront]
          rfl
        have htexts : textsOf (transcript ++ answered.map .sampled) =
            (deltas (sampledOf transcript)).map fun d => writeJson isPretty d.json := by
          rw [textsOf_append, textsOf_map, List.append_nil]
          exact hflushed
        dsimp only
        rcases w.write written with _ | failure
        · have hwrote := Lawful.append_singleton.2 ⟨hanswer, .wrote hdeltas htexts⟩
          have hall : Flushed isPretty (transcript ++ answered.map .sampled ++
              [.wrote (writeJson isPretty delta.json)]) := by
            rw [Flushed, textsOf_append, htexts, sampledOf_append, sampledOf_wrote, List.append_nil,
              hdeltas, List.map_append]
            rfl
          have hsampled : sampledOf (transcript ++ answered.map .sampled ++
              [.wrote (writeJson isPretty delta.json)]) =
                sampledOf transcript ++ answered := by
            rw [sampledOf_append, sampledOf_append, sampledOf_map, sampledOf_wrote,
              List.append_nil]
          have hrest := printedFrom_due calls (written + 1) (series.next generator).2 _ hwrote hall
            (by rwa [hsampled])
          simpa only [List.append_assoc, List.singleton_append] using hrest
        · rw [← List.append_assoc]
          exact Lawful.append_singleton.2 ⟨hanswer, .failed hdeltas htexts⟩
      | _ => simpa using hanswer

omit [Unicode] [FloatText] [IsoFormat] in
/-- How a transcript ends is how its last part ends. -/
theorem ending_append {front rest : List Output} (h : rest ≠ []) :
    ending (front ++ rest) = ending rest := by
  rw [ending, ending, List.getLast?_append_of_ne_nil _ h]

/-- The command ends as its last step says: the transcript has all that decides its
outcome. -/
theorem consume_eq_ending : ∀ (calls written : ℕ) (generator : Generator),
    consume w series calls written generator =
      ending (printedFrom w isPretty series calls written generator)
  | 0, _, _ => rfl
  | calls + 1, written, generator => by
      obtain ⟨front, last, hshape, -, hlast⟩ := next_shape series generator
      rw [consume, printedFrom]
      simp only [hshape, List.getLast?_concat]
      have hmap : (front ++ [last]).map Output.sampled = front.map .sampled ++ [.sampled last] := by
        rw [List.map_append]
        rfl
      cases last with
      | yielded delta =>
        dsimp only [World.writeOut]
        rcases w.write written with _ | failure
        · dsimp only
          rw [consume_eq_ending calls (written + 1), ending_append (List.cons_ne_nil _ _)]
          rcases hrest : printedFrom w isPretty series calls (written + 1)
            (series.next generator).2 with _ | ⟨first, rest⟩
          · rfl
          · change _ = ending ([_] ++ first :: rest)
            exact (ending_append (List.cons_ne_nil first rest)).symm
        · rw [ending_append (List.cons_ne_nil _ _)]
          rfl
      | raised exc => rw [List.append_nil, hmap, ending_append (List.cons_ne_nil _ _)]; rfl
      | stopped => rw [List.append_nil, hmap, ending_append (List.cons_ne_nil _ _)]; rfl
      | slept | probed => cases hlast

/-! ## What a reader sees -/

variable (w isPretty) in

/-- In every run of `diff`, each event comes when it is due: a delta is written before the
generator is asked for the next. -/
theorem printed_due (options : Options) (pid : ℤ) (calls : ℕ) :
    Lawful (Due (sampling w options pid) isPretty) (printed w isPretty options pid calls) :=
  printedFrom_due calls 0 .created [] Lawful.nil rfl .created

/-- What is written is a front of the deltas: in order, and without a gap. -/
theorem texts_of_due {transcript : List Output} (h : Lawful (Due series isPretty) transcript) :
    textsOf transcript <+:
      (deltas (sampledOf transcript)).map fun d => writeJson isPretty d.json := by
  refine Lawful.invariant (fun transcript => textsOf transcript <+:
    (deltas (sampledOf transcript)).map fun d => writeJson isPretty d.json)
    List.nil_prefix (fun transcript step ih hstep => ?_) h
  cases hstep with
  | sampled hflushed hnext =>
    have htexts : textsOf transcript = _ := hflushed
    rw [textsOf_append, sampledOf_append, deltas_append, List.map_append, htexts, textsOf_sampled,
      List.append_nil]
    exact List.prefix_append _ _
  | wrote hlast hearlier =>
    rw [textsOf_append, sampledOf_append, sampledOf_wrote, List.append_nil, hlast, hearlier,
      List.map_append]
    exact List.prefix_rfl
  | failed hlast hearlier =>
    rw [textsOf_append, sampledOf_append, sampledOf_failed, textsOf_failed, List.append_nil,
      List.append_nil, hlast, hearlier, List.map_append]
    exact List.prefix_append _ _

/-- What the generator did is permitted to it. -/
theorem sampled_of_due {transcript : List Output} (h : Lawful (Due series isPretty) transcript) :
    Lawful series.Permitted (sampledOf transcript) := by
  refine Lawful.invariant (fun transcript => Lawful series.Permitted (sampledOf transcript))
    Lawful.nil (fun transcript step ih hstep => ?_) h
  rw [sampledOf_append]
  cases hstep with
  | sampled hflushed hnext => exact Lawful.append_singleton.2 ⟨ih, hnext⟩
  | wrote => rwa [sampledOf_wrote, List.append_nil]
  | failed => rwa [sampledOf_failed, List.append_nil]

omit [Unicode] [FloatText] [IsoFormat] in
/-- An element of a list is at the same place in a list that begins with it. -/
theorem getElem?_of_front {α : Type} {xs ys : List α} (h : xs <+: ys) {i : ℕ} {x : α}
    (hi : xs[i]? = some x) : ys[i]? = some x := by
  obtain ⟨rest, rfl⟩ := h
  rwa [List.getElem?_append_left (List.getElem?_eq_some_iff.1 hi).1]

/-- **Printed as computed.**  In every run of `diff`, whatever the clock, the
samples and the writes come to: before every step of the generator, a probe of the
target above all, every delta it has yielded is written; and the `i`-th text is
the document of the samples `i + 1` and `i + 2`. -/
theorem diff_prints_as_computed (w : World ε) (isPretty : Bool) (options : Options) (pid : ℤ)
    (calls : ℕ) :
    runDiff w options pid calls = ending (printed w isPretty options pid calls) ∧
    (∀ before event after,
      printed w isPretty options pid calls = before ++ .sampled event :: after →
      textsOf before = (deltas (sampledOf before)).map fun d => writeJson isPretty d.json) ∧
    ∀ i text, (textsOf (printed w isPretty options pid calls))[i]? = some text →
      ∃ d, (sampling w options pid).IsDelta i d ∧ text = writeJson isPretty d.json := by
  have hdue := printed_due w isPretty options pid calls
  refine ⟨consume_eq_ending calls 0 .created, fun before event after hsplit => ?_,
    fun i text hi => ?_⟩
  · cases hdue before _ after hsplit with
    | sampled hflushed => exact hflushed
  · have hd := getElem?_of_front (texts_of_due hdue) hi
    rw [List.getElem?_map, Option.map_eq_some_iff] at hd
    obtain ⟨d, hd, rfl⟩ := hd
    exact ⟨d, Sampling.isDelta_of_lawful (sampled_of_due hdue) i d hd, rfl⟩

/-- What is on stdout, all texts behind one another. -/
def stdoutOf (transcript : List Output) : PyStr := (textsOf transcript).flatten

omit [Unicode] [IsoFormat] in
/-- Compact documents are records that end in a newline, and hold none before it. -/
theorem stdoutOf_eq_frame {transcript : List Output} {ds : List SnapshotDelta}
    (h : textsOf transcript = ds.map fun d => writeJson false d.json) :
    stdoutOf transcript = Records.frame (cp '\n') (ds.map fun d => jsonText false d.json) := by
  rw [stdoutOf, h, Records.frame, List.flatMap_map, List.flatMap_def]
  rfl

/-- **A cut stream is a front of the deltas.**  However `diff` ends, and wherever
its output is cut, each line that is whole is read as the document of one delta,
in order and without a gap; there are as many as newlines. -/
theorem diff_stream_reads_back (w : World ε) (options : Options) (pid : ℤ) (calls : ℕ)
    (hfloats : ∀ i d, (sampling w options pid).IsDelta i d → d.json.ReadsBack) {t : PyStr}
    (ht : t <+: stdoutOf (printed w false options pid calls)) :
    ∃ ds : List SnapshotDelta,
      (Records.records (cp '\n') t).map Json.read = ds.map (fun d => some d.json.reread) ∧
      ds.length = t.count (cp '\n') ∧
        ∀ i d, ds[i]? = some d → (sampling w options pid).IsDelta i d := by
  have hdue := printed_due w false options pid calls
  obtain ⟨written, hwritten, htexts⟩ := List.prefix_map_iff.1 (texts_of_due hdue)
  have hisDelta : ∀ i d, written[i]? = some d → (sampling w options pid).IsDelta i d := by
    intro i d hi
    exact Sampling.isDelta_of_lawful (sampled_of_due hdue) i d (getElem?_of_front hwritten hi)
  rw [stdoutOf_eq_frame htexts] at ht
  have hlines : ∀ line ∈ written.map (fun d => jsonText false d.json), cp '\n' ∉ line := by
    intro line hline
    obtain ⟨d, -, rfl⟩ := List.mem_map.1 hline
    exact newline_notMem_jsonText d.json
  obtain ⟨ds, hds, hrecords⟩ := List.prefix_map_iff.1 (Records.records_of_cut hlines ht)
  refine ⟨ds, ?_, ?_, fun i d hi => hisDelta i d (getElem?_of_front hds hi)⟩
  · have hread : ∀ d ∈ ds, Json.read (jsonText false d.json) = some d.json.reread := by
      intro d hd
      obtain ⟨i, hi⟩ := List.getElem?_of_mem hd
      exact read_jsonText false (hfloats i d (hisDelta i d (getElem?_of_front hds hi)))
    rw [hrecords, List.map_map]
    refine List.map_congr_left fun d hd => ?_
    rw [Function.comp_apply, hread d hd]
  · rw [← Records.length_records hlines ht, hrecords, List.length_map]

end

end Commands
end Pidprobe
