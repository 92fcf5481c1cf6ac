/-
# Sections and reports

A snapshot from the composition of its collectors to the document: the driver
runs in the target, the script writes its payload as JSON, and `parse_envelope`,
`payload_of` and `_document` read it on the other side.

The sections and the reports of the document are those of the collectors, in
their order.  A failed section is `null` there, but so is one whose collector
assigned `None`, and its report says `ok` (`linesUp_iff`).
-/

import Pidprobe.Collectors.Driver
import Pidprobe.Lib.JsonRoundTrip
import Pidprobe.Snapshot

namespace Pidprobe
namespace Driver

/-! ## From the collectors to the document -/

section

variable [Unicode] {ε π : Type} [PyException ε] [Serial ε π]

/-- The payload the script collects for a list of collectors: the composition is rendered,
its references are bound, and all of it serialises. -/
def Collects (collectors : List Collector) (w : World ε π) (payload : Json) : Prop :=
  ∃ script specs, composeCollectorSource collectors = .ok script ∧ script.link = some specs ∧
    Inject.collected (driver w specs) = .ok payload

/-- The names of collectors are what the reader, the compiler and the document
take them for. -/
structure PlainNames (collectors : List Collector) : Prop where
  nodup : (collectors.map Collector.name).Nodup
  ascii : ∀ c ∈ collectors, ∀ x ∈ c.name, IsAscii x

variable [FloatText]

/-- The message the target sends for a list of collectors, as text: the one write-back of
the script, decoded. -/
def Sends (collectors : List Collector) (w : World ε π) (raw : PyStr) : Prop :=
  ∃ script specs data, composeCollectorSource collectors = .ok script ∧
    script.link = some specs ∧ Inject.written (driver w specs) = [data] ∧
    Utf8.decode data = some raw

/-- What `take_snapshot` makes of a message: the envelope, its payload, and the document
built from that. -/
def received [IsoFormat] (loads : PyStr → Except PyStr Json) (prober : Prober) (pid : ℤ)
    (elapsedMs : PyFloat) (raw : PyStr) : Except PyError (List (PyStr × Json)) := do
  let envelope ← parseEnvelope loads raw
  snapshotOf prober pid elapsedMs envelope

/-- `json.loads` returns what the text of the payload denotes, in which a surrogate pair
that was written as two characters is one. -/
def ReadsBack (loads : PyStr → Except PyStr Json) (collectors : List Collector)
    (w : World ε π) : Prop :=
  ∀ payload, Collects collectors w payload →
    loads (Inject.okEnvelope payload).dumps = .ok (Inject.okEnvelope payload).reread

end

/-! ## What the reader sees of a payload -/

/-- A report that is read back has its texts read back and its duration unchanged. -/
theorem reread_report (name status : PyStr) (error : Json) (durationMs : ℚ) :
    (report name status error durationMs).reread =
      report (Json.rereadStr name) (Json.rereadStr status) error.reread durationMs := by
  simp only [report, Json.reread, Json.rereadMembers]
  rfl

/-- An answer that is read back is the answer with its payload read back. -/
theorem reread_okEnvelope (payload : Json) :
    (Inject.okEnvelope payload).reread = Inject.okEnvelope payload.reread := by
  simp only [Inject.okEnvelope, Json.reread, Json.rereadMembers]
  rfl

/-- The report of a document: the report of the driver with its duration rounded to
thousandths. -/
def rendered (name status : PyStr) (error : Json) (durationMs : ℚ) : List (PyStr × Json) :=
  [(py "name", .str name), (py "status", .str status), (py "error", error),
    (py "duration_ms", .float (roundThousandths (.finite durationMs)))]

/-- The prober rebuilds a report of the driver from the members it wrote. -/
theorem reportEntry_report (name status : PyStr) (error : Json) (durationMs : ℚ) :
    reportEntry (report name status error durationMs) =
      .ok (.obj (rendered name status error durationMs)) := rfl

/-- The payload of the driver, by its four members, as `_document` will read them. -/
def payloadMembers (sections : List (PyStr × Json)) (reports : List Json) (target : Json)
    (stopDurationMs : ℚ) : List (PyStr × Json) :=
  [(py "sections", .obj sections), (py "collectors", .arr reports), (py "target", target),
    (py "stop_duration_ms", .float (.finite stopDurationMs))]

/-- Reading a payload back reads its sections, its reports and its target back, each in
its place. -/
theorem reread_payload (sections : List (PyStr × Json)) (reports : List Json) (target : Json)
    (stopDurationMs : ℚ) :
    (Json.obj (payloadMembers sections reports target stopDurationMs)).reread =
      .obj (payloadMembers (Dict.ofPairs (Json.rereadMembers sections)) (Json.rereadElems reports)
        target.reread stopDurationMs) := by
  simp only [payloadMembers, Json.reread, Json.rereadMembers]
  rfl

section

variable [IsoFormat]

/-- The `meta` of a document that is built from the payload of the driver: what the prober
knows, and what the target said of itself. -/
def builtMeta (prober : Prober) (pid : ℤ) (elapsedMs : PyFloat) (entries : List Json)
    (target : Json) (stopDurationMs : ℚ) : List (PyStr × Json) :=
  [(py "pid", .int pid), (py "captured_at", .str (capturedAt prober.isoNow)),
    (py "pidprobe_version", .str prober.version), (py "prober", prober.interpreter.json),
    (py "target", target.orElse (.obj [])),
    (py "stop_duration_ms", .float (roundThousandths (.finite stopDurationMs))),
    (py "elapsed_ms", .float (roundThousandths elapsedMs)), (py "collectors", .arr entries)]

/-- From a payload of the driver the prober's part of `meta` is built, with the entries of
the reports. -/
theorem proberMeta_eq_ok (prober : Prober) (pid : ℤ) (elapsedMs : PyFloat)
    (sections : List (PyStr × Json)) {reports entries : List Json} (target : Json)
    (stopDurationMs : ℚ) (hentries : reports.mapM reportEntry = .ok entries) :
    proberMeta prober pid (payloadMembers sections reports target stopDurationMs) elapsedMs =
      .ok (.obj (builtMeta prober pid elapsedMs entries target stopDurationMs)) := by
  have hstop : rounded (member (py "stop_duration_ms")
      (payloadMembers sections reports target stopDurationMs)) =
        .ok (.float (roundThousandths (.finite stopDurationMs))) := rfl
  have hreports : member (py "collectors")
      (payloadMembers sections reports target stopDurationMs) = .arr reports := rfl
  rw [proberMeta, hstop, ok_bind, rounded, ok_bind, hreports, Json.orElse_arr, iterate,
    Json.elements, ok_bind, hentries, ok_bind]
  rfl

/-- A document that is built from the payload of the driver: the sections come
after the header, and none of them takes a name of it. -/
theorem document_eq_ok (prober : Prober) (pid : ℤ) (elapsedMs : PyFloat)
    {sections : List (PyStr × Json)} {reports entries : List Json} (target : Json)
    (stopDurationMs : ℚ) (hentries : reports.mapM reportEntry = .ok entries)
    (hkeys : ∀ own, Dict.NodupKeys (header own ++ sections)) :
    document prober pid (payloadMembers sections reports target stopDurationMs) elapsedMs =
      .ok (header (.obj (builtMeta prober pid elapsedMs entries target stopDurationMs)) ++
        sections) := by
  have hsections : member (py "sections")
      (payloadMembers sections reports target stopDurationMs) = .obj sections := rfl
  rw [document, proberMeta_eq_ok prober pid elapsedMs sections target stopDurationMs hentries,
    ok_bind, hsections, items_obj, ok_bind, setSections, Dict.foldl_set_of_nodupKeys (hkeys _)]

end

section

variable [Unicode] {ε π : Type} [PyException ε] [Serial ε π]

/-- What the list of reports in the document holds of a collector: its name, whether it
raised, and its rounded duration. -/
def ReportedAs (w : World ε π) (c : Collector) (r : Json) : Prop :=
  ∃ data status error i, reported (w.behaves c) = .ok (data, status, error) ∧
    r = .obj (rendered c.name (Json.rereadStr status) error.reread
      ((w.clock (i + 1) - w.clock i) * 1000))

/-- What the document holds of a collector's section: the value its snippet returned, sent
and read back. -/
def FilledAs (w : World ε π) (c : Collector) (v : PyStr × Json) : Prop :=
  ∃ u, Fills (w.behaves c) u ∧ v = (c.name, u.reread)

omit [Serial ε π] in
/-- A report that is sent and copied is the collector's own: its name is ASCII, and the
duration is rounded. -/
theorem reportEntry_reread {w : World ε π} {c : Collector} (ha : ∀ x ∈ c.name, IsAscii x) {r : Json}
    (h : RoundReport w (c.name, sectionFunction c) r) :
    ∃ r', reportEntry r.reread = .ok r' ∧ ReportedAs w c r' := by
  obtain ⟨data, status, error, i, hg, rfl⟩ := h
  rw [reread_report, Json.rereadStr_ascii ha, reportEntry_report]
  exact ⟨_, rfl, data, status, error, i, hg, rfl⟩

omit [Serial ε π] in
/-- A report has the name of its collector, and tells by its status whether the snippet
raised. -/
theorem ReportedAs.members {w : World ε π} {c : Collector} {r : Json} (h : ReportedAs w c r) :
    ∃ ms, r = .obj ms ∧ member (py "name") ms = .str c.name ∧
      (member (py "status") ms = .str (py "error") ↔ ∃ exc, w.behaves c = .error exc) := by
  obtain ⟨data, status, error, i, hg, rfl⟩ := h
  refine ⟨_, rfl, rfl, ?_⟩
  rcases reported_status hg with ⟨rfl, -, v, hv⟩ | ⟨rfl, exc, hexc, -⟩
  · have hok : Json.rereadStr (py "ok") ≠ py "error" := by decide
    rw [hv]
    exact iff_of_false (fun herr => hok (Json.str.inj herr)) fun ⟨_, hexc⟩ => nomatch hexc
  · have herr : Json.rereadStr (py "error") = py "error" := by decide
    exact iff_of_true (congrArg Json.str herr) ⟨exc, hexc⟩

/-- Names that are apart and not reserved leave the header alone. -/
theorem nodupKeys_document {collectors : List Collector} {sections : List (PyStr × Json)}
    (hn : (collectors.map Collector.name).Nodup)
    (hnames : sections.map Prod.fst = collectors.map Collector.name) (own : Json) :
    Dict.NodupKeys (header own ++ sections) := by
  rw [Dict.NodupKeys, List.map_append, hnames]
  refine List.nodup_append.2 ⟨(by decide : [py "schema_version", py "meta"].Nodup), hn, ?_⟩
  rintro name hname _ hmem rfl
  obtain ⟨c, -, rfl⟩ := List.mem_map.1 hmem
  refine c.notReserved ?_
  rcases List.mem_cons.1 hname with h | h
  · rw [h, reservedSectionNames]
    simp
  · rw [List.mem_singleton.1 h, reservedSectionNames]
    simp

variable [IsoFormat]

/-- **The document of a list of collectors**, from the payload it collects: header, sections
and reports, one of each for every collector and in order. -/
theorem document_of_collects {collectors : List Collector} {w : World ε π} {payload : Json}
    (hnames : PlainNames collectors) (h : Collects collectors w payload)
    (prober : Prober) (pid : ℤ) (elapsedMs : PyFloat) :
    ∃ ms k entries sections, payload.reread = .obj ms ∧
      document prober pid ms elapsedMs = .ok (header (.obj (builtMeta prober pid elapsedMs entries
        w.target.json.reread ((w.clock k - w.clock 0) * 1000))) ++ sections) ∧
      List.Forall₂ (FilledAs w) collectors sections ∧
      List.Forall₂ (ReportedAs w) collectors entries := by
  obtain ⟨hn, ha⟩ := hnames
  obtain ⟨script, specs, hscript, hlink, hcollected⟩ := h
  have hspecs : specs = collectors.map fun c => (c.name, sectionFunction c) := by
    rw [link_compose hscript] at hlink
    rw [← Option.some.inj hlink]
    refine List.map_congr_left fun c hc => ?_
    rw [boundTo_of_ascii hn ha hc]
  subst hspecs
  obtain ⟨sections, reports, k, rfl, hsections, hreports⟩ :=
    collected_driver_payload (by simpa [Function.comp_def] using hn) hcollected
  rw [List.forall₂_map_left_iff] at hsections hreports
  obtain ⟨entries, hentries, hreported⟩ := forall₂_exists hreports fun c r hc hr =>
    reportEntry_reread (ha c hc) hr
  have hmapM : (Json.rereadElems reports).mapM reportEntry = .ok entries := by
    rwa [Json.rereadElems_eq_map, mapM_eq_ok, List.forall₂_map_left_iff]
  have hfilled : List.Forall₂ (FilledAs w) collectors (Json.rereadMembers sections) := by
    rw [Json.rereadMembers_eq_map, List.forall₂_map_right_iff]
    refine forall₂_of_mem hsections fun c v hc hv => ⟨v.2, hv.2, ?_⟩
    rw [hv.1, Json.rereadStr_ascii (ha c hc)]
  have hfst : (Json.rereadMembers sections).map Prod.fst = collectors.map Collector.name := by
    refine (map_eq_of_forall₂ (hfilled.imp fun c v hv => ?_)).symm
    obtain ⟨u, -, rfl⟩ := hv
    rfl
  have hkeys : Dict.NodupKeys (Json.rereadMembers sections) := by rwa [Dict.NodupKeys, hfst]
  have hdoc := document_eq_ok prober pid elapsedMs w.target.json.reread
    ((w.clock k - w.clock 0) * 1000) hmapM (nodupKeys_document hn hfst)
  have hread := reread_payload sections reports w.target.json ((w.clock k - w.clock 0) * 1000)
  rw [Dict.ofPairs_of_nodupKeys hkeys] at hread
  exact ⟨_, k, entries, _, hread, hdoc, hfilled, hreported⟩

/-! ## Whether they line up -/

/-- The keys of the document are the header and the names in their order, each
collector has its report, and a section is `null` exactly where the report says
`error`. -/
def Aligned (collectors : List Collector) (doc : List (PyStr × Json)) : Prop :=
  doc.map Prod.fst = py "schema_version" :: py "meta" :: collectors.map Collector.name ∧
    ∃ own reports, member (py "meta") doc = .obj own ∧
      member (py "collectors") own = .arr reports ∧
      List.Forall₂ (fun c r => ∃ ms, r = .obj ms ∧ member (py "name") ms = .str c.name ∧
        (member c.name doc = .null ↔ member (py "status") ms = .str (py "error")))
        collectors reports

/-- The snapshot of a list of collectors lines up: the target sends a message, and
the document made of it is aligned. -/
def LinesUp [FloatText] (loads : PyStr → Except PyStr Json) (prober : Prober) (pid : ℤ)
    (elapsedMs : PyFloat) (collectors : List Collector) (w : World ε π) : Prop :=
  (collectors ≠ [] → ∃ raw, Sends collectors w raw) ∧ ∀ raw, Sends collectors w raw →
    ∃ doc, received loads prober pid elapsedMs raw = .ok doc ∧ Aligned collectors doc

omit [Unicode] [IsoFormat] in
/-- A section comes to `null` exactly where the snippet raised, unless the snippet
assigned `None`. -/
theorem null_iff_raised {outcome : Except ε π} {u : Json} (h : Fills outcome u) :
    (u = .null ↔ ∃ exc, outcome = .error exc) ↔ ¬Assigns outcome .null := by
  rcases h with ⟨data, rfl, hwalk⟩ | ⟨rfl, exc, rfl, -, -⟩
  · have hassigns : Assigns (.ok data : Except ε π) .null ↔ u = .null := by
      constructor
      · rintro ⟨data', hdata, hnull⟩
        obtain rfl := Except.ok.inj hdata
        exact Except.ok.inj (hwalk.symm.trans hnull)
      · rintro rfl
        exact ⟨data, rfl, hwalk⟩
    rw [hassigns]
    simp
  · have hraised : ¬Assigns (.error exc : Except ε π) .null := fun ⟨_, h, _⟩ => nomatch h
    simp [hraised]

omit [IsoFormat] in
/-- A document of these sections and reports is aligned unless a snippet assigned
`None`. -/
theorem aligned_iff {collectors : List Collector} {w : World ε π} {own : List (PyStr × Json)}
    {entries : List Json} {sections : List (PyStr × Json)}
    (hn : (collectors.map Collector.name).Nodup)
    (hown : member (py "collectors") own = .arr entries)
    (hfilled : List.Forall₂ (FilledAs w) collectors sections)
    (hreported : List.Forall₂ (ReportedAs w) collectors entries) :
    Aligned collectors (header (.obj own) ++ sections) ↔
      ∀ c ∈ collectors, ¬Assigns (w.behaves c) .null := by
  have hnames : sections.map Prod.fst = collectors.map Collector.name := by
    refine (map_eq_of_forall₂ (hfilled.imp fun c v hv => ?_)).symm
    obtain ⟨u, -, rfl⟩ := hv
    rfl
  have hkeys := nodupKeys_document hn hnames (.obj own)
  have hsection : ∀ c ∈ collectors, ∃ u, Fills (w.behaves c) u ∧
      member c.name (header (.obj own) ++ sections) = u.reread := by
    intro c hc
    obtain ⟨v, hv, u, hu, rfl⟩ := exists_of_forall₂ hfilled hc
    refine ⟨u, hu, ?_⟩
    rw [member, Dict.get?_of_mem hkeys (List.mem_append_right _ hv), Option.getD_some]
  have hmeta : member (py "meta") (header (.obj own) ++ sections) = .obj own := rfl
  have hdoc : (header (.obj own) ++ sections).map Prod.fst =
      py "schema_version" :: py "meta" :: collectors.map Collector.name := by
    rw [List.map_append, hnames]
    rfl
  have hlist := forall₂_iff_of_forall₂ hreported (P := fun c => ¬Assigns (w.behaves c) .null)
    (S := fun c r => ∃ ms, r = .obj ms ∧ member (py "name") ms = .str c.name ∧
      (member c.name (header (.obj own) ++ sections) = .null ↔
        member (py "status") ms = .str (py "error"))) fun c r hc hr => by
    obtain ⟨ms, rfl, hname, hraised⟩ := hr.members
    obtain ⟨u, hu, hmember⟩ := hsection c hc
    simp only [Json.obj.injEq, exists_eq_left', hname, true_and, hraised, hmember,
      Json.reread_eq_null]
    exact null_iff_raised hu
  constructor
  · rintro ⟨-, own', reports, hown', hreports, h⟩
    obtain rfl := Json.obj.inj (hmeta.symm.trans hown')
    obtain rfl := Json.arr.inj (hown.symm.trans hreports)
    exact hlist.1 h
  · exact fun h => ⟨hdoc, own, entries, hmeta, hown, hlist.2 h⟩

omit [IsoFormat] in
/-- A composition whose sections are all filled collects a payload: nothing is left that
could raise. -/
theorem collected_of_compose {collectors : List Collector} {w : World ε π} {script : Composition}
    (hscript : composeCollectorSource collectors = .ok script) (hnames : PlainNames collectors)
    (hfills : ∀ c ∈ collectors, ∃ v, Fills (w.behaves c) v) :
    ∃ specs payload, script.link = some specs ∧
      Inject.collected (driver w specs) = .ok payload := by
  have hfilled : ∀ p ∈ collectors.map fun c => (c.name, sectionFunction (boundTo collectors c)),
      ∃ v, Fills (w.behaves p.2.collector) v := by
    intro p hp
    obtain ⟨c, hc, rfl⟩ := List.mem_map.1 hp
    rw [boundTo_of_ascii hnames.nodup hnames.ascii hc]
    exact hfills c hc
  have hn : ((collectors.map fun c =>
      (c.name, sectionFunction (boundTo collectors c))).map Prod.fst).Nodup := by
    simpa [Function.comp_def] using hnames.nodup
  obtain ⟨payload, hpayload⟩ := collected_driver_ok hn hfilled
  exact ⟨_, payload, link_compose hscript, hpayload⟩

omit [IsoFormat] in
/-- Collectors whose sections are all filled send their payload. -/
theorem sends_iff [FloatText] {collectors : List Collector} {w : World ε π} {raw : PyStr}
    (hnames : PlainNames collectors) (hfills : ∀ c ∈ collectors, ∃ v, Fills (w.behaves c) v) :
    Sends collectors w raw ↔ ∃ payload, Collects collectors w payload ∧
      raw = (Inject.okEnvelope payload).dumps := by
  constructor
  · rintro ⟨script, specs, data, hscript, hlink, hwritten, hraw⟩
    obtain ⟨specs', payload, hlink', hpayload⟩ := collected_of_compose hscript hnames hfills
    obtain rfl := Option.some.inj (hlink.symm.trans hlink')
    refine ⟨payload, ⟨script, specs, hscript, hlink, hpayload⟩, ?_⟩
    rw [Inject.written_of_collected hpayload] at hwritten
    obtain rfl := List.singleton_inj.1 hwritten
    rw [Inject.decode_encoded] at hraw
    exact (Option.some.inj hraw).symm
  · rintro ⟨payload, ⟨script, specs, hscript, hlink, hpayload⟩, rfl⟩
    exact ⟨script, specs, _, hscript, hlink, Inject.written_of_collected hpayload,
      Inject.decode_encoded _⟩

/-- What is read back of a payload becomes the document, without an error on the way. -/
theorem received_of_collects [FloatText] {loads : PyStr → Except PyStr Json}
    {collectors : List Collector} {w : World ε π} {payload : Json} {ms : List (PyStr × Json)}
    (hloads : ReadsBack loads collectors w) (h : Collects collectors w payload)
    (hms : payload.reread = .obj ms) (prober : Prober) (pid : ℤ) (elapsedMs : PyFloat) :
    received loads prober pid elapsedMs (Inject.okEnvelope payload).dumps =
      document prober pid ms elapsedMs := by
  have hread := hloads payload h
  rw [reread_okEnvelope, hms] at hread
  have henvelope : parseEnvelope loads (Inject.okEnvelope payload).dumps =
      .ok ⟨.ok, none, some ms⟩ := parseEnvelope_eq_ok.2 ⟨_, hread, rfl, rfl, rfl⟩
  rw [received, henvelope, ok_bind, snapshotOf_eq (payloadOf_eq_ok.2 ⟨rfl, rfl⟩)]

/-- The document of a payload is aligned unless a snippet assigned `None`, which reads like
a section that failed. -/
theorem aligned_of_collects [FloatText] {loads : PyStr → Except PyStr Json}
    {collectors : List Collector} {w : World ε π} {payload : Json}
    (hnames : PlainNames collectors) (hloads : ReadsBack loads collectors w)
    (h : Collects collectors w payload) (prober : Prober) (pid : ℤ) (elapsedMs : PyFloat) :
    ∃ doc, received loads prober pid elapsedMs (Inject.okEnvelope payload).dumps = .ok doc ∧
      (Aligned collectors doc ↔ ∀ c ∈ collectors, ¬Assigns (w.behaves c) .null) := by
  obtain ⟨ms, k, entries, sections, hms, hdoc, hfilled, hreported⟩ :=
    document_of_collects hnames h prober pid elapsedMs
  refine ⟨_, (received_of_collects hloads h hms prober pid elapsedMs).trans hdoc, ?_⟩
  exact aligned_iff hnames.nodup rfl hfilled hreported

/-- Where the snapshot lines up, no snippet assigned `None`: a `null` section under a report
of success would not line up. -/
theorem LinesUp.not_null [FloatText] {loads : PyStr → Except PyStr Json} {prober : Prober}
    {pid : ℤ} {elapsedMs : PyFloat} {collectors : List Collector} {w : World ε π}
    (h : LinesUp loads prober pid elapsedMs collectors w) (hnames : PlainNames collectors)
    (hfills : ∀ c ∈ collectors, ∃ v, Fills (w.behaves c) v)
    (hloads : ReadsBack loads collectors w) :
    ∀ c ∈ collectors, ¬Assigns (w.behaves c) .null := by
  intro c hc
  obtain ⟨raw, hraw⟩ := h.1 (List.ne_nil_of_mem hc)
  obtain ⟨payload, hpayload, rfl⟩ := (sends_iff hnames hfills).1 hraw
  obtain ⟨doc, hdoc, hiff⟩ := aligned_of_collects hnames hloads hpayload prober pid elapsedMs
  obtain ⟨doc', hdoc', haligned⟩ := h.2 _ hraw
  obtain rfl := Except.ok.inj (hdoc.symm.trans hdoc')
  exact hiff.1 haligned c hc

/-- **Sections and reports line up, unless a snippet assigns `None`.**  For every
list of collectors with distinct ASCII names each of which assigns a serialisable
value or raises an `Exception` that can be rendered, the document has the
sections and the reports of the collectors in their order, and a section is
`null` exactly where the report says `error`, if and only if no snippet assigns
`None`. -/
theorem linesUp_iff [FloatText] {loads : PyStr → Except PyStr Json} {prober : Prober} {pid : ℤ}
    {elapsedMs : PyFloat} {collectors : List Collector} {w : World ε π}
    (hnames : PlainNames collectors) (hfills : ∀ c ∈ collectors, ∃ v, Fills (w.behaves c) v)
    (hloads : ReadsBack loads collectors w) :
    LinesUp loads prober pid elapsedMs collectors w ↔
      ∀ c ∈ collectors, ¬Assigns (w.behaves c) .null := by
  refine ⟨fun h => h.not_null hnames hfills hloads, fun h => ⟨fun hne => ?_, fun raw hraw => ?_⟩⟩
  · obtain ⟨script, hscript⟩ : ∃ script, composeCollectorSource collectors = .ok script :=
      ⟨_, composeCollectorSource_eq_ok.2 ⟨hne, hnames.nodup, rfl⟩⟩
    obtain ⟨specs, payload, hlink, hpayload⟩ := collected_of_compose hscript hnames hfills
    exact ⟨_, (sends_iff hnames hfills).2 ⟨payload, ⟨script, specs, hscript, hlink, hpayload⟩, rfl⟩⟩
  · obtain ⟨payload, hpayload, rfl⟩ := (sends_iff hnames hfills).1 hraw
    obtain ⟨doc, hdoc, hiff⟩ := aligned_of_collects hnames hloads hpayload prober pid elapsedMs
    exact ⟨doc, hdoc, hiff.2 h⟩

end

/-- A target in which every snippet assigns this value, on a clock that ticks at every
reading. -/
def assigning (v : Json) : @World Unicode.fullwidth ExcData Json :=
  let _ := Unicode.fullwidth
  { behaves := fun _ => .ok v
    clock := fun i => i
    target := ⟨1, py "3.14.0", py "cpython", py "linux", none⟩ }

/-- The payload of one collector there, as the driver builds it. -/
def counted (v : Json) (durationMs stopDurationMs : ℚ) : Json :=
  .obj (payloadMembers [(py "counter", v)] [report (py "counter") (py "ok") .null durationMs]
    (TargetInfo.json ⟨1, py "3.14.0", py "cpython", py "linux", none⟩) stopDurationMs)

/-- The reader of the one message it sends: `json.loads` there, and the same answer for
every other text. -/
def loadsCounted (v : Json) : PyStr → Except PyStr Json :=
  fun _ => .ok (Inject.okEnvelope (counted v 1000 3000)).reread

/-- The names of the two collectors are ASCII and different. -/
theorem plainNames_counter :
    letI := Unicode.fullwidth
    PlainNames [counter] := by
  let _ := Unicode.fullwidth
  exact ⟨by decide, List.forall_mem_singleton.2 (ascii_py (by decide))⟩

/-- What the two collectors send is read back as it was. -/
theorem readsBack_counted (v : Json) :
    letI := Unicode.fullwidth
    letI := Json.wholeFloats
    ReadsBack (loadsCounted v) [counter] (assigning v) := by
  let _ := Unicode.fullwidth
  let _ := Json.wholeFloats
  rintro payload ⟨script, specs, hscript, hlink, hpayload⟩
  obtain rfl := Option.some.inj ((link_compose hscript).symm.trans hlink)
  have hreport : (((1 + 1 : ℕ) : ℚ) - (1 : ℕ)) * 1000 = 1000 := by norm_num
  have hstop : (((3 : ℕ) : ℚ) - (0 : ℕ)) * 1000 = 3000 := by norm_num
  have hcounted :
      Inject.collected (driver (assigning v) [(py "counter", sectionFunction counter)]) =
        .ok (counted v ((((1 + 1 : ℕ) : ℚ) - (1 : ℕ)) * 1000)
          ((((3 : ℕ) : ℚ) - (0 : ℕ)) * 1000)) := rfl
  rw [hreport, hstop] at hcounted
  obtain rfl := Except.ok.inj (hcounted.symm.trans hpayload)
  rfl

/-- One collector that counts: its snapshot lines up, since the one is not `None`. -/
theorem linesUp_iff_counter :
    letI := Unicode.fullwidth
    letI := Json.wholeFloats
    letI : IsoFormat := ⟨fun _ => none⟩
    LinesUp (loadsCounted (.int 1)) plainProber 1 (.finite 3) [counter] (assigning (.int 1)) ↔
      ∀ c ∈ [counter], ¬Assigns ((assigning (.int 1)).behaves c) .null := by
  let _ := Unicode.fullwidth
  let _ := Json.wholeFloats
  let _ : IsoFormat := ⟨fun _ => none⟩
  exact linesUp_iff plainNames_counter (fun c _ => ⟨_, .inl ⟨_, rfl, rfl⟩⟩) (readsBack_counted _)

/-- A collector that assigns `None` has the section of one that failed, and the
report of one that did not. -/
theorem none_section_not_aligned :
    letI := Unicode.fullwidth
    letI := Json.wholeFloats
    letI : IsoFormat := ⟨fun _ => none⟩
    ¬LinesUp (loadsCounted .null) plainProber 1 (.finite 3) [counter] (assigning .null) := by
  let _ := Unicode.fullwidth
  let _ := Json.wholeFloats
  let _ : IsoFormat := ⟨fun _ => none⟩
  intro h
  have hnull := h.not_null plainNames_counter (fun c _ => ⟨_, .inl ⟨_, rfl, rfl⟩⟩)
    (readsBack_counted _)
  exact hnull counter (List.mem_singleton_self _) ⟨.null, rfl, rfl⟩

end Driver
end Pidprobe
