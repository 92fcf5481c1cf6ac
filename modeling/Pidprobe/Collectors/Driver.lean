/-
# The collector driver

`_DRIVER_SOURCE` of `collectors/_base.py`, run by the injected script after
the section functions are defined.  It calls the functions one by one, times each,
and turns an exception derived from `Exception` into a `null` section and a
report; then the script serialises the whole payload in one `json.dumps`.

A snippet is taken by what calling its function comes to: the value of `data` or
the exception it raises.  Of what it comes to, three things cost every section
and not the snippet's own: an exception that is no `Exception` (`SystemExit`,
`KeyboardInterrupt`), an exception the handler cannot report (its type name or its
`str` raises, or the name is nothing `json` writes), and a value `json` cannot
serialise.  A section is lost as well where its name is bound to another
collector's function (`Pidprobe.Collectors.Base`).  Up to these outcomes the
snapshot is isolated (`isolated_iff`).
-/

import Pidprobe.Collectors.Base
import Pidprobe.Inject

namespace Pidprobe
namespace Driver

/-- What the driver reads of the target's interpreter: plain values of `os` and `sys`, which
are taken not to raise. -/
structure TargetInfo where
  pid : ℤ
  pythonVersion : PyStr
  implementation : PyStr
  platform : PyStr
  executable : Option PyStr

/-- The `target` member of the payload. -/
def TargetInfo.json (target : TargetInfo) : Json :=
  .obj [(py "pid", .int target.pid), (py "python_version", .str target.pythonVersion),
    (py "implementation", .str target.implementation), (py "platform", .str target.platform),
    (py "executable", target.executable.elim .null .str)]

/-! ## The payload -/

/-- One entry of `_pidprobe_reports`, as `json.dumps` writes it. The duration is added last,
behind the error. -/
def report (name status : PyStr) (error : Json) (durationMs : ℚ) : Json :=
  .obj [(py "name", .str name), (py "status", .str status), (py "error", error),
    (py "duration_ms", .float (.finite durationMs))]

/-- One entry of `_pidprobe_reports`; `error` is the dictionary the handler made of
the exception, and `none` where there was none. -/
structure Report (ε : Type) where
  name : PyStr
  status : PyStr
  error : Option (Inject.Failure ε)
  durationMs : ℚ

/-- The payload of the driver; `none` is the `None` of a failed section. Sections and errors
are still objects here. -/
structure Payload (ε π : Type) where
  sections : List (PyStr × Option π)
  collectors : List (Report ε)
  target : TargetInfo
  stopDurationMs : ℚ

section Walk

variable {ε π : Type} [Serial ε π]

/-- One member of `sections` as JSON. The object a snippet returned is serialised here,
outside its `try`. -/
def walkSection (entry : PyStr × Option π) : Except ε (PyStr × Json) :=
  match entry.2 with
  | none => .ok (entry.1, .null)
  | some data => do
    let v ← Serial.walk data
    .ok (entry.1, v)

/-- The `error` of a report as JSON: `None`, or the dictionary of the handler,
whose type name may be anything. -/
def walkError : Option (Inject.Failure ε) → Except ε Json
  | none => .ok .null
  | some failure => Serial.walk failure

instance : Serial ε (Report ε) where
  walk r := do
    let error ← walkError r.error
    .ok (report r.name r.status error r.durationMs)

/-- The payload as JSON, its sections and reports serialised. -/
def Payload.json (payload : Payload ε π) (sections : List (PyStr × Json))
    (reports : List Json) : Json :=
  .obj [(py "sections", .obj sections), (py "collectors", .arr reports),
    (py "target", payload.target.json),
    (py "stop_duration_ms", .float (.finite payload.stopDurationMs))]

instance : Serial ε (Payload ε π) where
  walk payload := do
    let sections ← payload.sections.mapM walkSection
    let reports ← payload.collectors.mapM Serial.walk
    .ok (payload.json sections reports)

end Walk

section

variable [Unicode] {ε π : Type}

/-- What the driver meets inside the target.  A snippet is given by its outcome
alone: one that reaches for the driver's own names, or changes an object another
snippet handed over, is outside the model. -/
structure World (ε π : Type) where
  /-- Calling the function of a collector: the value of `data`, or what the
  snippet raises. -/
  behaves : Collector → Except ε π
  /-- Reading `i` of `perf_counter`. -/
  clock : ℕ → ℚ
  target : TargetInfo

/-- The state of the loop over `_pidprobe_specs`: the sections filled, the reports made, and
where the clock stands. -/
structure LoopState (ε π : Type) where
  sections : List (PyStr × Option π)
  reports : List (Report ε)
  /-- Readings of `perf_counter` taken so far. -/
  readings : ℕ

section Driver

variable [PyException ε]

/-- The `try` of one round: the section, and the status and error of its report.
The handler catches an `Exception`, and what building its dictionary raises
escapes. -/
def guarded (outcome : Except ε π) :
    Except ε (Option π × PyStr × Option (Inject.Failure ε)) :=
  match outcome with
  | .ok data => .ok (some data, py "ok", none)
  | .error exc =>
    if PyException.isException exc then do
      let failure ← Inject.failureOf exc
      .ok (none, py "error", some failure)
    else .error exc

/-- The loop over `_pidprobe_specs`. A round takes two readings of the clock, and an
exception that its handler does not get past ends the loop. -/
def driverLoop (w : World ε π) :
    List (PyStr × SectionFunction) → LoopState ε π → Except ε (LoopState ε π)
  | [], s => .ok s
  | (name, f) :: specs, s =>
    match guarded (w.behaves f.collector) with
    | .error exc => .error exc
    | .ok (data, status, error) =>
      driverLoop w specs
        { sections := Dict.set name data s.sections
          reports := s.reports ++ [⟨name, status, error,
            (w.clock (s.readings + 1) - w.clock s.readings) * 1000⟩]
          readings := s.readings + 2 }

/-- The driver: reading `0` is `_pidprobe_started`, and the last reading is taken behind the
loop. -/
def driver (w : World ε π) (specs : List (PyStr × SectionFunction)) :
    Except ε (Payload ε π) := do
  let s ← driverLoop w specs ⟨[], [], 1⟩
  .ok
    { sections := s.sections
      collectors := s.reports
      target := w.target
      stopDurationMs := (w.clock s.readings - w.clock 0) * 1000 }

end Driver

/-- The value of a section in a serialised payload, by the name the payload lists it
under. -/
def sectionOf (payload : Json) (name : PyStr) : Option Json :=
  match payload with
  | .obj ms =>
    match Dict.get? (py "sections") ms with
    | some (.obj sections) => Dict.get? name sections
    | _ => none
  | _ => none

/-! ## What a section comes to -/

section Sections

variable [PyException ε] [Serial ε π]

/-- The snippet assigned a value that serialises as `v`. -/
def Assigns (outcome : Except ε π) (v : Json) : Prop :=
  ∃ data, outcome = .ok data ∧ (Serial.walk data : Except ε Json) = .ok v

/-- The snippet costs at most its own section, which comes to `v`: it assigned a
value that serialises as `v`, or raised an `Exception` that can be rendered. -/
def Fills (outcome : Except ε π) (v : Json) : Prop :=
  Assigns outcome v ∨
    v = .null ∧ ∃ exc, outcome = .error exc ∧ PyException.isException exc = true ∧
      Inject.Renders exc

/-- What a round leaves behind, its report's error as `json.dumps` writes it: the handler,
and then the serialisation of what it built. -/
def reported (outcome : Except ε π) : Except ε (Option π × PyStr × Json) := do
  let (data, status, failure) ← guarded outcome
  let error ← walkError failure
  .ok (data, status, error)

omit [Serial ε π] [Unicode] in
/-- A report is written where the handler returns one and its error can be serialised. -/
theorem reported_eq_ok {outcome : Except ε π} {data : Option π} {status : PyStr} {error : Json} :
    reported outcome = .ok (data, status, error) ↔
      ∃ failure, guarded outcome = .ok (data, status, failure) ∧ walkError failure = .ok error := by
  simp only [reported, bind_eq_ok, Except.ok.injEq, Prod.exists, Prod.mk.injEq]
  constructor
  · rintro ⟨_, _, failure, hguarded, _, hwalk, rfl, rfl, rfl⟩
    exact ⟨failure, hguarded, hwalk⟩
  · rintro ⟨failure, hguarded, hwalk⟩
    exact ⟨_, _, failure, hguarded, _, hwalk, rfl, rfl, rfl⟩

omit [Serial ε π] [Unicode] in
/-- The driver's handler gets past an `Exception` whose dictionary it can build. -/
theorem guarded_error {exc : ε} {r : Option π × PyStr × Option (Inject.Failure ε)} :
    guarded (.error exc) = .ok r ↔ PyException.isException exc = true ∧
      ∃ failure, Inject.failureOf exc = .ok failure ∧ r = (none, py "error", some failure) := by
  rw [guarded]
  split_ifs with he
  · simp [bind_eq_ok, eq_comm (b := r), he]
  · simp [he]

omit [Serial ε π] [Unicode] in
/-- The driver's handler catches an `Exception`, and reports one that renders: a name, a
message and a traceback that can be had and written. -/
theorem reported_ok {outcome : Except ε π} : (∃ r, reported outcome = .ok r) ↔
    ∀ exc, outcome = .error exc → PyException.isException exc = true ∧ Inject.Renders exc := by
  cases outcome with
  | ok data =>
    refine iff_of_true ⟨(some data, py "ok", .null), rfl⟩ ?_
    rintro _ ⟨⟩
  | error exc =>
    simp only [Prod.exists, reported_eq_ok, guarded_error, Except.error.injEq, forall_eq',
      Inject.renders_iff]
    constructor
    · rintro ⟨_, _, error, _, ⟨he, failure, hfailure, ⟨⟩⟩, hwalk⟩
      obtain ⟨typeName, hname, -⟩ := bind_eq_ok.1 hwalk
      exact ⟨he, failure, typeName, hfailure, hname⟩
    · rintro ⟨he, failure, typeName, hfailure, hname⟩
      exact ⟨_, _, _, _, ⟨he, failure, hfailure, rfl⟩, bind_eq_ok.2 ⟨typeName, hname, rfl⟩⟩

omit [Serial ε π] [Unicode] in
/-- The section a guarded call fills is the data it returns, and nothing where it raises.
-/
theorem guarded_fst {outcome : Except ε π} {r : Option π × PyStr × Option (Inject.Failure ε)}
    (h : guarded outcome = .ok r) : r.1 = outcome.toOption := by
  cases outcome with
  | ok data => exact (Except.ok.inj h) ▸ rfl
  | error exc =>
    obtain ⟨-, failure, -, rfl⟩ := guarded_error.1 h
    rfl

omit [Serial ε π] [Unicode] in
/-- The status of a report tells whether the snippet raised. An error holds the name, the
message and the traceback. -/
theorem reported_status {outcome : Except ε π} {data : Option π} {status : PyStr} {error : Json}
    (h : reported outcome = .ok (data, status, error)) :
    (status = py "ok" ∧ error = .null ∧ ∃ v, outcome = .ok v) ∨
      (status = py "error" ∧ ∃ exc, outcome = .error exc ∧ ∃ typeName message traceback,
        typeNameJson exc = .ok typeName ∧
          error = Inject.errorDetails typeName message traceback) := by
  obtain ⟨failure, hguarded, hwalk⟩ := reported_eq_ok.1 h
  cases outcome with
  | ok v =>
    obtain ⟨-, rfl, rfl⟩ := by simpa [guarded] using hguarded
    exact .inl ⟨rfl, (Except.ok.inj hwalk).symm, v, rfl⟩
  | error exc =>
    obtain ⟨-, f, hf, ⟨⟩⟩ := guarded_error.1 hguarded
    obtain ⟨typeName, hname, hv⟩ := bind_eq_ok.1 hwalk
    exact .inr ⟨rfl, exc, rfl, typeName, f.message, f.traceback,
      bind_eq_ok.2 ⟨_, (Inject.failureOf_eq_ok.1 hf).1, hname⟩, (Except.ok.inj hv).symm⟩

omit [Unicode] in
/-- A section is filled exactly when the driver gets past it, and its report and its
value serialise. -/
theorem fills_iff {outcome : Except ε π} {v : Json} (name : PyStr) :
    Fills outcome v ↔ (∃ r, reported outcome = .ok r) ∧
      (walkSection (name, outcome.toOption) : Except ε (PyStr × Json)) = .ok (name, v) := by
  rw [reported_ok]
  cases outcome with
  | ok data =>
    simp [Fills, Assigns, Except.toOption, walkSection, bind_eq_ok]
  | error exc =>
    have hn : ¬Assigns (.error exc : Except ε π) v := fun ⟨_, h, _⟩ => nomatch h
    simp only [Fills, hn, false_or, Except.error.injEq, exists_eq_left', forall_eq',
      Except.toOption, walkSection, Except.ok.injEq, Prod.mk.injEq, true_and]
    exact ⟨fun ⟨hv, h⟩ => ⟨h, hv.symm⟩, fun ⟨h, hv⟩ => ⟨hv.symm, h⟩⟩

omit [Unicode] in
/-- A snippet fills a section with one value at most. -/
theorem Fills.unique {outcome : Except ε π} {u v : Json} (hu : Fills outcome u)
    (hv : Fills outcome v) : u = v := by
  simpa [((fills_iff []).1 hu).2] using ((fills_iff []).1 hv).2

/-! ## The loop -/

omit [Serial ε π] in
/-- A loop that ends has filled the sections in order: with the value of a snippet, or with
nothing where it raised. -/
theorem driverLoop_sections {w : World ε π} {specs : List (PyStr × SectionFunction)}
    {s t : LoopState ε π} (hn : Dict.NodupKeys (s.sections ++ specs.map fun p => (p.1, none)))
    (h : driverLoop w specs s = .ok t) :
    t.sections =
      s.sections ++ specs.map (fun p => (p.1, (w.behaves p.2.collector).toOption)) := by
  induction specs generalizing s with
  | nil =>
    obtain rfl := Except.ok.inj h
    simp
  | cons p specs ih =>
    obtain ⟨name, f⟩ := p
    rw [driverLoop] at h
    rcases hg : guarded (w.behaves f.collector) with exc | r
    · rw [hg] at h
      cases h
    · rw [hg] at h
      have hname : name ∉ s.sections.map Prod.fst := by
        intro hmem
        rw [Dict.NodupKeys, List.map_append, List.nodup_append] at hn
        exact hn.2.2 _ hmem _ (by simp) rfl
      have hset : Dict.set name r.1 s.sections = s.sections ++ [(name, r.1)] :=
        Dict.set_of_notMem hname
      have ht := ih (by simpa [hset, Dict.NodupKeys] using hn) h
      rw [ht, hset, guarded_fst hg]
      simp

omit [Serial ε π] in
/-- A loop whose rounds all get past their handlers ends, whatever the snippets return. -/
theorem driverLoop_ok {w : World ε π} {specs : List (PyStr × SectionFunction)}
    (s : LoopState ε π) (h : ∀ p ∈ specs, ∃ r, guarded (w.behaves p.2.collector) = .ok r) :
    ∃ t, driverLoop w specs s = .ok t := by
  induction specs generalizing s with
  | nil => exact ⟨s, rfl⟩
  | cons p specs ih =>
    obtain ⟨⟨r, hr⟩, hrest⟩ := List.forall_mem_cons.1 h
    obtain ⟨t, ht⟩ := ih _ hrest
    exact ⟨t, by rw [driverLoop, hr]; exact ht⟩

omit [PyException ε] [Unicode] in
/-- Serialising a section keeps its name. -/
theorem walkSection_fst {entry : PyStr × Option π} {v : PyStr × Json}
    (h : (walkSection entry : Except ε _) = .ok v) : v.1 = entry.1 := by
  unfold walkSection at h
  split at h
  · rw [← Except.ok.inj h]
  · obtain ⟨j, -, h⟩ := bind_eq_ok.1 h
    rw [← Except.ok.inj h]

/-- What a round leaves behind in `_pidprobe_reports`, before serialisation, at some reading
of the clock. -/
def RoundLeaves (w : World ε π) (p : PyStr × SectionFunction) (r : Report ε) : Prop :=
  ∃ data status failure i, guarded (w.behaves p.2.collector) = .ok (data, status, failure) ∧
    r = ⟨p.1, status, failure, (w.clock (i + 1) - w.clock i) * 1000⟩

/-- What `json.dumps` writes for it. -/
def RoundReport (w : World ε π) (p : PyStr × SectionFunction) (r : Json) : Prop :=
  ∃ data status error i, reported (w.behaves p.2.collector) = .ok (data, status, error) ∧
    r = report p.1 status error ((w.clock (i + 1) - w.clock i) * 1000)

omit [Serial ε π] in
/-- A loop that ends has reported on every round, in order, and on nothing else. -/
theorem driverLoop_reports {w : World ε π} {specs : List (PyStr × SectionFunction)}
    {s t : LoopState ε π} (h : driverLoop w specs s = .ok t) :
    ∃ reports, t.reports = s.reports ++ reports ∧ List.Forall₂ (RoundLeaves w) specs reports := by
  induction specs generalizing s with
  | nil =>
    obtain rfl := Except.ok.inj h
    exact ⟨[], (List.append_nil _).symm, .nil⟩
  | cons p specs ih =>
    obtain ⟨name, f⟩ := p
    rw [driverLoop] at h
    rcases hg : guarded (w.behaves f.collector) with exc | ⟨data, status, error⟩
    · rw [hg] at h
      cases h
    · rw [hg] at h
      obtain ⟨reports, ht, hreports⟩ := ih h
      refine ⟨_ :: reports, ?_, .cons ⟨data, status, error, s.readings, hg, rfl⟩ hreports⟩
      rw [ht, List.append_assoc]
      rfl

omit [Serial ε π] in
/-- A report that serialises is that of an outcome that is reported. -/
theorem RoundLeaves.walk {w : World ε π} {p : PyStr × SectionFunction} {r : Report ε} {v : Json}
    (h : RoundLeaves w p r) (hv : (Serial.walk r : Except ε Json) = .ok v) :
    RoundReport w p v := by
  obtain ⟨data, status, failure, i, hguarded, rfl⟩ := h
  obtain ⟨error, hwalk, hv⟩ := bind_eq_ok.1 hv
  exact ⟨data, status, error, i, reported_eq_ok.2 ⟨failure, hguarded, hwalk⟩,
    (Except.ok.inj hv).symm⟩

omit [Serial ε π] in
/-- An outcome that is reported has a report that serialises. -/
theorem RoundLeaves.walk_ok {w : World ε π} {p : PyStr × SectionFunction} {r : Report ε}
    (h : RoundLeaves w p r) (hr : ∃ r, reported (w.behaves p.2.collector) = .ok r) :
    ∃ v, (Serial.walk r : Except ε Json) = .ok v := by
  obtain ⟨data, status, failure, i, hguarded, rfl⟩ := h
  obtain ⟨⟨data', status', error⟩, hr⟩ := hr
  obtain ⟨failure', hguarded', hwalk⟩ := reported_eq_ok.1 hr
  obtain ⟨-, -, rfl⟩ := by simpa [hguarded] using hguarded'
  exact ⟨_, bind_eq_ok.2 ⟨error, hwalk, rfl⟩⟩

/-- A payload that serialises is made of what the loop leaves behind. -/
theorem exists_loop_of_collected {w : World ε π} {specs : List (PyStr × SectionFunction)}
    {payload : Json} (h : Inject.collected (driver w specs) = .ok payload) :
    ∃ t sections reports, driverLoop w specs ⟨[], [], 1⟩ = .ok t ∧
      t.sections.mapM walkSection = (.ok sections : Except ε _) ∧
      t.reports.mapM Serial.walk = (.ok reports : Except ε _) ∧
      payload = .obj [(py "sections", .obj sections), (py "collectors", .arr reports),
        (py "target", w.target.json),
        (py "stop_duration_ms", .float (.finite ((w.clock t.readings - w.clock 0) * 1000)))] := by
  obtain ⟨_, hdriver, hwalk⟩ := bind_eq_ok.1 h
  obtain ⟨t, hloop, hpayload⟩ := bind_eq_ok.1 hdriver
  obtain rfl := Except.ok.inj hpayload
  obtain ⟨sections, hsections, hwalk⟩ := bind_eq_ok.1 hwalk
  obtain ⟨reports, hreports, hjson⟩ := bind_eq_ok.1 hwalk
  obtain rfl := Except.ok.inj hjson
  exact ⟨t, sections, reports, hloop, hsections, hreports, rfl⟩

/-- **The payload of the driver**, where it serialises: the sections and the
reports, one of each for every pair and in their order. -/
theorem collected_driver_payload {w : World ε π} {specs : List (PyStr × SectionFunction)}
    (hn : (specs.map Prod.fst).Nodup) {payload : Json}
    (h : Inject.collected (driver w specs) = .ok payload) :
    ∃ sections reports k,
      payload = .obj [(py "sections", .obj sections), (py "collectors", .arr reports),
        (py "target", w.target.json),
        (py "stop_duration_ms", .float (.finite ((w.clock k - w.clock 0) * 1000)))] ∧
      List.Forall₂ (fun p v => v.1 = p.1 ∧ Fills (w.behaves p.2.collector) v.2) specs sections ∧
      List.Forall₂ (RoundReport w) specs reports := by
  obtain ⟨t, sections, reports, hl, hs, hr, rfl⟩ := exists_loop_of_collected h
  have ht := driverLoop_sections (by simpa [Dict.NodupKeys, Function.comp_def] using hn) hl
  obtain ⟨left, hleft, hrounds⟩ := driverLoop_reports hl
  rw [List.nil_append] at ht hleft
  rw [mapM_eq_ok, ht, List.forall₂_map_left_iff] at hs
  rw [mapM_eq_ok, hleft] at hr
  have hreports : List.Forall₂ (RoundReport w) specs reports :=
    forall₂_trans hrounds hr fun p r v hp hv => hp.walk hv
  refine ⟨sections, reports, t.readings, rfl, ?_, hreports⟩
  refine forall₂_of_mem hs fun p v hmem hwalk => ?_
  obtain ⟨v', -, data, status, error, i, hreported, -⟩ := exists_of_forall₂ hreports hmem
  obtain ⟨name, v⟩ := v
  obtain rfl : name = p.1 := walkSection_fst hwalk
  exact ⟨rfl, (fills_iff p.1).2 ⟨⟨_, hreported⟩, hwalk⟩⟩

/-- A payload that serialises: every section is filled, and the sections of the
payload are these values under their names. -/
theorem collected_driver {w : World ε π} {specs : List (PyStr × SectionFunction)}
    (hn : (specs.map Prod.fst).Nodup) {payload : Json}
    (h : Inject.collected (driver w specs) = .ok payload) :
    ∀ p ∈ specs, ∃ v, Fills (w.behaves p.2.collector) v ∧ sectionOf payload p.1 = some v := by
  obtain ⟨sections, reports, k, rfl, hs, -⟩ := collected_driver_payload hn h
  have hkeys : Dict.NodupKeys sections := by
    have hfst : specs.map Prod.fst = sections.map Prod.fst :=
      map_eq_of_forall₂ (hs.imp fun _ _ hv => hv.1.symm)
    rwa [Dict.NodupKeys, ← hfst]
  intro p hmem
  obtain ⟨⟨name, v⟩, hv, rfl, hfills⟩ := exists_of_forall₂ hs hmem
  exact ⟨v, hfills, Dict.get?_of_mem hkeys hv⟩

/-- Where every section is filled, the payload serialises: no name is there twice, and each
value and each report can be written. -/
theorem collected_driver_ok {w : World ε π} {specs : List (PyStr × SectionFunction)}
    (hn : (specs.map Prod.fst).Nodup)
    (h : ∀ p ∈ specs, ∃ v, Fills (w.behaves p.2.collector) v) :
    ∃ payload, Inject.collected (driver w specs) = .ok payload := by
  have hg : ∀ p ∈ specs, ∃ r, reported (w.behaves p.2.collector) = .ok r := by
    intro p hp
    obtain ⟨v, hv⟩ := h p hp
    exact ((fills_iff p.1).1 hv).1
  obtain ⟨t, hl⟩ := driverLoop_ok (w := w) ⟨[], [], 1⟩ fun p hp => by
    obtain ⟨⟨data, status, error⟩, hr⟩ := hg p hp
    obtain ⟨failure, hguarded, -⟩ := reported_eq_ok.1 hr
    exact ⟨_, hguarded⟩
  have ht := driverLoop_sections (by simpa [Dict.NodupKeys, Function.comp_def] using hn) hl
  obtain ⟨left, hleft, hrounds⟩ := driverLoop_reports hl
  rw [List.nil_append] at ht hleft
  obtain ⟨sections, hs⟩ : ∃ sections,
      t.sections.mapM walkSection = (.ok sections : Except ε _) := by
    refine mapM_ok.2 fun entry hentry => ?_
    rw [ht] at hentry
    obtain ⟨p, hp, rfl⟩ := List.mem_map.1 hentry
    obtain ⟨v, hv⟩ := h p hp
    exact ⟨_, ((fills_iff p.1).1 hv).2⟩
  obtain ⟨reports, hr⟩ : ∃ reports, t.reports.mapM Serial.walk = (.ok reports : Except ε _) := by
    have hflip : List.Forall₂ (flip (RoundLeaves w)) left specs := List.Forall₂.flip hrounds
    refine mapM_ok.2 fun r hmem => ?_
    obtain ⟨p, hp, hround⟩ := exists_of_forall₂ hflip (hleft ▸ hmem)
    exact hround.walk_ok (hg p hp)
  have hd : driver w specs = .ok _ := bind_eq_ok.2 ⟨t, hl, rfl⟩
  exact ⟨_, bind_eq_ok.2 ⟨_, hd, bind_eq_ok.2 ⟨sections, hs, bind_eq_ok.2 ⟨reports, hr, rfl⟩⟩⟩⟩

/-! ## Isolation -/

/-- The snapshot of a list of collectors is isolated: the script answers with
status `ok`, and every collector whose snippet assigned a serialisable value has
that value as its section. -/
def Isolated [FloatText] (collectors : List Collector) (w : World ε π) : Prop :=
  ∃ script specs payload, composeCollectorSource collectors = .ok script ∧
    script.link = some specs ∧ Inject.collected (driver w specs) = .ok payload ∧
    Inject.written (driver w specs) = [Inject.encoded (Inject.okEnvelope payload)] ∧
    ∀ c ∈ collectors, ∀ v, Assigns (w.behaves c) v → sectionOf payload c.name = some v

/-- **Isolation, and what costs it.**  For every list of collectors with distinct
names and every outcome of their snippets, the snapshot is isolated if and only if
each section's function, the one its name is bound to, assigns a serialisable value
or raises an `Exception` that can be rendered (type name, `str` and traceback), and
a snippet that assigns a serialisable value has no other function fill its section
with another one. -/
theorem isolated_iff [FloatText] (collectors : List Collector) (hne : collectors ≠ [])
    (hn : (collectors.map Collector.name).Nodup) (w : World ε π) :
    Isolated collectors w ↔ ∀ c ∈ collectors, ∃ v, Fills (w.behaves (boundTo collectors c)) v ∧
      ∀ u, Assigns (w.behaves c) u → u = v := by
  obtain ⟨script, hscript⟩ : ∃ script, composeCollectorSource collectors = .ok script :=
    ⟨_, composeCollectorSource_eq_ok.2 ⟨hne, hn, rfl⟩⟩
  have hlink := link_compose hscript
  have hnames : ((collectors.map fun c =>
      (c.name, sectionFunction (boundTo collectors c))).map Prod.fst).Nodup := by
    simpa [Function.comp_def] using hn
  constructor
  · rintro ⟨script', specs, payload, hs, hl, hcol, -, hsec⟩ c hc
    obtain rfl : script = script' := Except.ok.inj (hscript.symm.trans hs)
    obtain rfl := Option.some.inj (hlink.symm.trans hl)
    obtain ⟨v, hv, hval⟩ := collected_driver hnames hcol _ (List.mem_map_of_mem hc)
    refine ⟨v, hv, fun u hu => ?_⟩
    exact Option.some.inj ((hsec c hc u hu).symm.trans hval)
  · intro h
    obtain ⟨payload, hcol⟩ := collected_driver_ok (w := w) hnames (by
      intro p hp
      obtain ⟨c, hc, rfl⟩ := List.mem_map.1 hp
      obtain ⟨v, hv, -⟩ := h c hc
      exact ⟨v, hv⟩)
    refine ⟨script, _, payload, hscript, hlink, hcol, ?_, fun c hc u hu => ?_⟩
    · exact Inject.written_of_collected hcol
    · obtain ⟨v, hv, hval⟩ := collected_driver hnames hcol _ (List.mem_map_of_mem hc)
      obtain ⟨v', hv', huv⟩ := h c hc
      rw [hval, huv u hu, hv'.unique hv]

end Sections

end

/-- A collector of a number. -/
def counter : @Collector Unicode.fullwidth :=
  @Collector.mk Unicode.fullwidth (py "counter") (py "data = 1") [] (by decide) (by decide)

/-- A collector that assigns a `set`, which is no JSON value. -/
def tags : @Collector Unicode.fullwidth :=
  @Collector.mk Unicode.fullwidth (py "tags") (py "data = set()") [] (by decide) (by decide)

/-- What `json.dumps` raises for it. -/
def setError : ExcData := .plain (py "TypeError") (py "Object of type set is not JSON serializable")

/-- A target in which these two run: the number can be written, the set cannot. -/
def tagsWorld : @World Unicode.fullwidth ExcData (Except ExcData Json) :=
  let _ := Unicode.fullwidth
  { behaves := fun c =>
      if c.name = py "tags" then .ok (.error setError) else .ok (.ok (.int 1))
    clock := fun i => i
    target := ⟨1, py "3.14.0", py "cpython", py "linux", none⟩ }

/-- The hypotheses are satisfiable: two collectors of different names. -/
theorem isolated_iff_tags :
    letI := Unicode.fullwidth
    letI := Json.wholeFloats
    Isolated [counter, tags] tagsWorld ↔ ∀ c ∈ [counter, tags],
      ∃ v, Fills (tagsWorld.behaves (boundTo [counter, tags] c)) v ∧
        ∀ u, Assigns (tagsWorld.behaves c) u → u = v := by
  let _ := Unicode.fullwidth
  let _ := Json.wholeFloats
  exact isolated_iff [counter, tags] (by simp) (by decide) tagsWorld

/-- A `set` costs the other collector its section: one `json.dumps` writes the whole
payload, and raises. -/
theorem unserialisable_section_not_isolated :
    ¬@Isolated Unicode.fullwidth ExcData (Except ExcData Json) _ _ Json.wholeFloats
      [counter, tags] tagsWorld := by
  let _ := Unicode.fullwidth
  let _ := Json.wholeFloats
  rintro ⟨script, specs, payload, hs, hl, hcol, -, -⟩
  obtain rfl := Option.some.inj ((link_compose hs).symm.trans hl)
  obtain ⟨v, hv, -⟩ := collected_driver (by decide) hcol _
    (List.mem_map_of_mem (List.mem_cons_of_mem _ (List.mem_cons_self ..)))
  have hb : tagsWorld.behaves (boundTo [counter, tags] tags) = .ok (.error setError) := by rfl
  rcases hv with ⟨data, hdata, hwalk⟩ | ⟨-, exc, hexc, -⟩
  · obtain rfl := Except.ok.inj (hb.symm.trans hdata)
    cases hwalk
  · cases hb.symm.trans hexc

end Driver
end Pidprobe
