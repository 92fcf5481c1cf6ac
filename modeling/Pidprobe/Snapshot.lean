/-
# The snapshot document

`_snapshot.py` behind the probe: `payload_of` takes the payload out of the
envelope and `_document` turns it into the snapshot.

The validation of an envelope stops at "the payload is an object", so
`_document` meets any JSON value at the four members it reads.  It iterates,
unpacks and converts them without asking what they are; `document_ok` says for
which payloads that works, and `snapshotInContract_iff` that for every other one
the exception is none of the prober's own.
-/

import Pidprobe.Envelope
import Pidprobe.Lib.PyValue

namespace Pidprobe

/-- `SCHEMA_VERSION`. -/
def schemaVersion : PyStr := py "1.0"

/-- What `_interpreter` reads of the interpreter. `sys.executable` is `None` where Python
cannot tell it. -/
structure Interpreter where
  pythonVersion : PyStr
  implementation : PyStr
  platform : PyStr
  executable : Option PyStr

/-- `_interpreter`. -/
def Interpreter.json (i : Interpreter) : Json :=
  .obj [(py "python_version", .str i.pythonVersion), (py "implementation", .str i.implementation),
    (py "platform", .str i.platform), (py "executable", i.executable.elim .null .str)]

/-- `captured_at`, from the `isoformat` of the current time: the offset of UTC is written as
`Z`. -/
def capturedAt (isoNow : PyStr) : PyStr := replace (py "+00:00") (py "Z") isoNow

/-- What `_document` reads of the prober's own process.  The current time is
taken in UTC, so it is aware. -/
structure Prober [IsoFormat] where
  /-- `datetime.now(UTC).isoformat()`. -/
  isoNow : PyStr
  version : PyStr
  interpreter : Interpreter
  aware : ∀ m, IsoFormat.fromisoformat (capturedAt isoNow) = some m → m.aware = true

/-- `_rounded`: numbers are rounded to three digits, and what is no number is null. An
integer `float` has no value for is an `OverflowError`. -/
def rounded : Json → Except PyError Json
  | .int n =>
    match floatOfInt n with
    | some x => .ok (.float (roundThousandths x))
    | none => .error .overflow
  | .float x => .ok (.float (roundThousandths x))
  | _ => .ok .null

/-- `for x in value`: lists, dictionaries and texts can be iterated, the other values raise
`TypeError`. -/
def iterate (value : Json) : Except PyError (List Json) :=
  match value.elements with
  | some xs => .ok xs
  | none => .error (.typeError (py "'" ++ value.typeName ++ py "' object is not iterable"))

/-- `{**report, "duration_ms": _rounded(report.get("duration_ms"))}`. What is no mapping
raises `TypeError`. -/
def reportEntry : Json → Except PyError Json
  | .obj report => do
    let durationMs ← rounded (member (py "duration_ms") report)
    .ok (.obj (Dict.set (py "duration_ms") durationMs report))
  | v => .error (.typeError (py "'" ++ v.typeName ++ py "' object is not a mapping"))

/-- `value.items()`; what has no items raises `AttributeError`. -/
def items : Json → Except PyError (List (PyStr × Json))
  | .obj ms => .ok ms
  | _ => .error .other

section

variable [IsoFormat]

/-- The `meta` member of the document: what the prober knows of itself and of the time, and
what the target has reported. -/
def proberMeta (prober : Prober) (pid : ℤ) (payload : List (PyStr × Json)) (elapsedMs : PyFloat) :
    Except PyError Json := do
  let stopDurationMs ← rounded (member (py "stop_duration_ms") payload)
  let elapsedMs ← rounded (.float elapsedMs)
  let reports ← iterate ((member (py "collectors") payload).orElse (.arr []))
  let collectors ← reports.mapM reportEntry
  .ok (.obj [(py "pid", .int pid), (py "captured_at", .str (capturedAt prober.isoNow)),
    (py "pidprobe_version", .str prober.version), (py "prober", prober.interpreter.json),
    (py "target", (member (py "target") payload).orElse (.obj [])),
    (py "stop_duration_ms", stopDurationMs), (py "elapsed_ms", elapsedMs),
    (py "collectors", .arr collectors)])

/-- The document before its sections: the two members that no collector may be named
after. -/
def header (proberMeta : Json) : List (PyStr × Json) :=
  [(py "schema_version", .str schemaVersion), (py "meta", proberMeta)]

/-- `for name, section in sections: document[str(name)] = section`. A section named like an
earlier member replaces it. -/
def setSections (document sections : List (PyStr × Json)) : List (PyStr × Json) :=
  sections.foldl (fun document entry => Dict.set entry.1 entry.2 document) document

/-- `_document`: the header, and behind it whatever sections the payload lists, under the
names it lists them. -/
def document (prober : Prober) (pid : ℤ) (payload : List (PyStr × Json)) (elapsedMs : PyFloat) :
    Except PyError (List (PyStr × Json)) := do
  let ownMeta ← proberMeta prober pid payload elapsedMs
  let sections ← items ((member (py "sections") payload).orElse (.obj []))
  .ok (setSections (header ownMeta) sections)

/-- The end of `take_snapshot`, from the envelope on: the payload, or its error, and the
document. -/
def snapshotOf (prober : Prober) (pid : ℤ) (elapsedMs : PyFloat) (envelope : Envelope) :
    Except PyError (List (PyStr × Json)) := do
  let payload ← payloadOf pid envelope
  document prober pid payload elapsedMs

end

/-! ## The payloads a document can be built from -/

/-- A number `float` has a value for, or no integer at all: a JSON integer may be as large
as it likes. -/
def FitsFloat (v : Json) : Prop := ∀ n, v = .int n → |n| < floatBound

/-- A report `_document` can copy: a dictionary whose duration can be rounded. -/
def IsReport (v : Json) : Prop :=
  ∃ report, v = .obj report ∧ FitsFloat (member (py "duration_ms") report)

/-- The payloads `_document` gets through: the durations fit a `float`, the
collectors, where there are any, are a list of objects, and so the sections an
object. -/
structure Convertible (payload : List (PyStr × Json)) : Prop where
  duration : FitsFloat (member (py "stop_duration_ms") payload)
  collectors : (member (py "collectors") payload).truthy = true →
    ∃ reports, member (py "collectors") payload = .arr reports ∧ ∀ v ∈ reports, IsReport v
  sections : (member (py "sections") payload).truthy = true →
    ∃ sections, member (py "sections") payload = .obj sections

/-- `_rounded` returns exactly for what `float` takes. -/
theorem rounded_ok {v : Json} : (∃ r, rounded v = .ok r) ↔ FitsFloat v := by
  cases v with
  | int n =>
    have hn := floatOfInt_eq_none (n := n)
    rw [rounded]
    rcases hx : floatOfInt n with _ | x
    · simpa [FitsFloat] using hn.1 hx
    · simpa [FitsFloat, hx] using hn.not
  | _ => simp [rounded, FitsFloat]

/-- An entry of the reports is rebuilt exactly where it is one. -/
theorem reportEntry_ok {v : Json} : (∃ r, reportEntry v = .ok r) ↔ IsReport v := by
  cases v with
  | obj report =>
    simp only [reportEntry, bind_eq_ok, IsReport, Json.obj.injEq, exists_eq_left']
    rw [← rounded_ok]
    constructor
    · rintro ⟨_, d, hd, -⟩
      exact ⟨d, hd⟩
    · rintro ⟨d, hd⟩
      exact ⟨_, d, hd, rfl⟩
  | _ => simp [reportEntry, IsReport]

/-- A text is no report. -/
theorem not_isReport_str (s : PyStr) : ¬IsReport (.str s) := fun ⟨_, h, _⟩ => nomatch h

/-- The loop over the reports is one over a list of reports: what else can be
iterated over yields strings. -/
theorem reports_ok {v : Json} :
    (∃ reports entries, iterate (v.orElse (.arr [])) = .ok reports ∧
        reports.mapM reportEntry = .ok entries) ↔
      (v.truthy = true → ∃ reports, v = .arr reports ∧ ∀ r ∈ reports, IsReport r) := by
  rcases ht : v.truthy
  · exact iff_of_true ⟨[], [], by rw [Json.orElse, ht]; rfl, rfl⟩ (by simp)
  rw [Json.orElse, if_pos ht]
  have hstrings : ∀ texts : List PyStr, texts ≠ [] →
      ¬∃ entries, (texts.map Json.str).mapM reportEntry = .ok entries := by
    rintro (_ | ⟨text, texts⟩) hne h
    · exact hne rfl
    · exact not_isReport_str text (reportEntry_ok.1 (mapM_ok.1 h _ (List.mem_cons_self ..)))
  cases v with
  | arr xs => simp [iterate, Json.elements, mapM_ok, reportEntry_ok]
  | str s =>
    have hne : s.map (fun c => [c]) ≠ [] := by simpa [Json.truthy] using ht
    have := hstrings _ hne
    simpa [iterate, Json.elements, Function.comp_def] using this
  | obj ms =>
    have hne : ms.map Prod.fst ≠ [] := by simpa [Json.truthy] using ht
    have := hstrings _ hne
    simpa [iterate, Json.elements, Function.comp_def] using this
  | _ => simp [iterate, Json.elements]

/-- The sections are read exactly where they are a dictionary, or nothing at all. -/
theorem items_ok {v : Json} :
    (∃ ms, items (v.orElse (.obj [])) = .ok ms) ↔
      (v.truthy = true → ∃ ms, v = .obj ms) := by
  rcases ht : v.truthy
  · exact iff_of_true ⟨[], by rw [Json.orElse, ht]; rfl⟩ (by simp)
  · rw [Json.orElse, if_pos ht]
    cases v <;> simp [items]

/-- The items of a dictionary are its items, the empty one included. -/
theorem items_obj (sections : List (PyStr × Json)) :
    items ((Json.obj sections).orElse (.obj [])) = .ok sections := by
  cases sections <;> rfl

/-- The sections of a document are those of an object, or there are none. -/
theorem of_items {v : Json} {sections : List (PyStr × Json)}
    (h : items (v.orElse (.obj [])) = .ok sections) : v = .obj sections ∨ sections = [] := by
  rcases ht : v.truthy
  · rw [Json.orElse, ht] at h
    exact .inr (Except.ok.inj h).symm
  · rw [Json.orElse, if_pos ht] at h
    cases v with
    | obj ms => exact .inl (congrArg Json.obj (Except.ok.inj h))
    | _ => cases h

/-! ## The exceptions of a payload it does not get through -/

/-- The exceptions the command line does not report as a defect, which are those the
functions document. -/
def IsProbeError (e : PyError) : Prop := ∃ error, e = .probe error

/-- What `_rounded` raises is no `ProbeError`. -/
theorem rounded_notProbe {v : Json} {e : PyError} (h : rounded v = .error e) : ¬IsProbeError e := by
  rintro ⟨error, rfl⟩
  cases v with
  | int n =>
    rw [rounded] at h
    split at h <;> cases h
  | _ => cases h

/-- What iterating over a value raises is no `ProbeError`. -/
theorem iterate_notProbe {v : Json} {e : PyError} (h : iterate v = .error e) : ¬IsProbeError e := by
  rintro ⟨error, rfl⟩
  unfold iterate at h
  split at h <;> cases h

/-- What rebuilding a report raises is no `ProbeError`. -/
theorem reportEntry_notProbe {v : Json} {e : PyError} (h : reportEntry v = .error e) :
    ¬IsProbeError e := by
  cases v with
  | obj report =>
    rcases bind_eq_error.1 h with h | ⟨_, -, h⟩
    · exact rounded_notProbe h
    · cases h
  | _ =>
    rintro ⟨error, rfl⟩
    cases h

/-- What reading the sections raises is no `ProbeError`. -/
theorem items_notProbe {v : Json} {e : PyError} (h : items v = .error e) : ¬IsProbeError e := by
  rintro ⟨error, rfl⟩
  cases v <;> cases h

/-- What `payload_of` raises is a `ProbeError`: the target's exception, or an envelope
without its parts. -/
theorem payloadOf_probe {pid : ℤ} {envelope : Envelope} {e : PyError}
    (h : payloadOf pid envelope = .error e) : IsProbeError e := by
  unfold payloadOf at h
  split at h <;> split at h
  · exact ⟨_, (Except.error.inj h).symm⟩
  · exact ⟨_, (Except.error.inj h).symm⟩
  · exact ⟨_, (Except.error.inj h).symm⟩
  · cases h

/-- A payload is returned exactly from an envelope of status `ok` that has one. -/
theorem payloadOf_eq_ok {pid : ℤ} {envelope : Envelope} {payload : List (PyStr × Json)} :
    payloadOf pid envelope = .ok payload ↔
      envelope.status = .ok ∧ envelope.payload = some payload := by
  obtain ⟨status, error, payload'⟩ := envelope
  cases status <;> cases error <;> cases payload' <;> simp [payloadOf]

section

variable [IsoFormat] {prober : Prober} {pid : ℤ} {payload : List (PyStr × Json)}
  {elapsedMs : PyFloat}

/-- The prober's part of `meta` is built exactly where the duration is a number and the
reports are a list of reports. -/
theorem proberMeta_ok : (∃ own, proberMeta prober pid payload elapsedMs = .ok own) ↔
    FitsFloat (member (py "stop_duration_ms") payload) ∧
      ((member (py "collectors") payload).truthy = true →
        ∃ reports, member (py "collectors") payload = .arr reports ∧
          ∀ r ∈ reports, IsReport r) := by
  rw [← rounded_ok, ← reports_ok]
  simp only [proberMeta, bind_eq_ok]
  constructor
  · rintro ⟨_, stop, hs, -, -, reports, hr, entries, he, -⟩
    exact ⟨⟨stop, hs⟩, reports, entries, hr, he⟩
  · rintro ⟨⟨stop, hs⟩, reports, entries, hr, he⟩
    exact ⟨_, stop, hs, _, rfl, reports, hr, entries, he, rfl⟩

/-- **The payloads a document is built from**: durations that can be rounded, reports that
can be copied, and sections that are a dictionary. -/
theorem document_ok : (∃ doc, document prober pid payload elapsedMs = .ok doc) ↔
    Convertible payload := by
  simp only [document, bind_eq_ok]
  constructor
  · rintro ⟨_, own, ho, sections, hs, -⟩
    obtain ⟨hd, hc⟩ := proberMeta_ok.1 ⟨own, ho⟩
    exact ⟨hd, hc, items_ok.1 ⟨sections, hs⟩⟩
  · rintro ⟨hd, hc, hs⟩
    obtain ⟨own, ho⟩ := proberMeta_ok.2 ⟨hd, hc⟩
    obtain ⟨sections, hs⟩ := items_ok.2 hs
    exact ⟨_, own, ho, sections, hs, rfl⟩

/-- None of them is a `ProbeError`. -/
theorem document_notProbe {e : PyError} (h : document prober pid payload elapsedMs = .error e) :
    ¬IsProbeError e := by
  rcases bind_eq_error.1 h with h | ⟨own, -, h⟩
  · rcases bind_eq_error.1 h with h | ⟨_, -, h⟩
    · exact rounded_notProbe h
    rcases bind_eq_error.1 h with h | ⟨_, -, h⟩
    · exact rounded_notProbe h
    rcases bind_eq_error.1 h with h | ⟨reports, -, h⟩
    · exact iterate_notProbe h
    rcases bind_eq_error.1 h with h | ⟨_, -, h⟩
    · obtain ⟨v, -, hv⟩ := mapM_eq_error h
      exact reportEntry_notProbe hv
    · cases h
  · rcases bind_eq_error.1 h with h | ⟨_, -, h⟩
    · exact items_notProbe h
    · cases h

/-- Where there is a payload, the snapshot is the document made of it. -/
theorem snapshotOf_eq {envelope : Envelope} (h : payloadOf pid envelope = .ok payload) :
    snapshotOf prober pid elapsedMs envelope = document prober pid payload elapsedMs := by
  rw [snapshotOf, h, ok_bind]

/-- **The payloads that stay inside the error contract.**  For every envelope,
turning it into a snapshot returns a document or raises a `ProbeError` if and
only if the payload of a success is one `_document` gets through. -/
theorem snapshotInContract_iff (prober : Prober) (pid : ℤ) (elapsedMs : PyFloat)
    (envelope : Envelope) :
    (∀ e, snapshotOf prober pid elapsedMs envelope = .error e → IsProbeError e) ↔
      (envelope.status = .ok → ∀ payload, envelope.payload = some payload →
        Convertible payload) := by
  constructor
  · intro h hs payload hp
    have hpayload : payloadOf pid envelope = .ok payload := payloadOf_eq_ok.2 ⟨hs, hp⟩
    rcases hd : document prober pid payload elapsedMs with e | doc
    · exact absurd (h e ((snapshotOf_eq hpayload).trans hd)) (document_notProbe hd)
    · exact document_ok.1 ⟨doc, hd⟩
  · intro h e herr
    rcases bind_eq_error.1 herr with herr | ⟨payload, hpayload, herr⟩
    · exact payloadOf_probe herr
    · obtain ⟨hs, hp⟩ := payloadOf_eq_ok.1 hpayload
      obtain ⟨doc, hd⟩ := document_ok.2 (h hs payload hp)
      rw [hd] at herr
      cases herr

end

/-- A prober, on an interpreter that reads no timestamp; for examples in which the time does
not matter. -/
def plainProber : @Prober ⟨fun _ => none⟩ :=
  @Prober.mk ⟨fun _ => none⟩ (py "2026-08-05T14:51:08.863505+00:00") (py "1.0.0")
    ⟨py "3.14.0", py "cpython", py "linux", some (py "/usr/bin/python3")⟩ (by simp)

/-- A duration `float` has no value for ends in `OverflowError`, which no caller is told to
expect. -/
theorem huge_duration_not_in_contract :
    letI : IsoFormat := ⟨fun _ => none⟩
    ¬∀ e, snapshotOf plainProber 1 (.finite 3)
        ⟨.ok, none, some [(py "stop_duration_ms", .int floatBound)]⟩ = .error e →
      IsProbeError e := by
  let _ : IsoFormat := ⟨fun _ => none⟩
  intro h
  have hpayload : payloadOf 1 ⟨.ok, none, some [(py "stop_duration_ms", .int floatBound)]⟩ =
      .ok [(py "stop_duration_ms", .int floatBound)] := rfl
  rcases hd : document plainProber 1 [(py "stop_duration_ms", .int floatBound)] (.finite 3) with
    e | doc
  · exact document_notProbe hd (h e ((snapshotOf_eq hpayload).trans hd))
  · have hfits := (document_ok.1 ⟨doc, hd⟩).duration floatBound rfl
    exact absurd hfits (not_lt.2 (le_abs_self _))

end Pidprobe
