/-
# The header of a document

`_document` writes the sections under the names the target sends, and the check
of reserved names is on the prober's side only.  A section called `meta` or
`schema_version` replaces what the prober wrote there, although the docstring of
`_document` rules that out.

`header_protected_iff` says which payloads keep the header, and that a series of
samples made of such payloads is one of the process asked for: the `ValueError`
of `diff_snapshots` is not reached.
-/

import Pidprobe.Diff.Sampling

namespace Pidprobe
namespace Diff

section

variable [IsoFormat]

/-- Every document that is built from the payload has the schema version and the
`meta` of the prober, of the process asked for. -/
def Protected (prober : Prober) (payload : List (PyStr × Json)) : Prop :=
  ∀ pid elapsedMs doc, document prober pid payload elapsedMs = .ok doc →
    member (py "schema_version") doc = .str schemaVersion ∧
      ∃ own, proberMeta prober pid payload elapsedMs = .ok (.obj own) ∧
        member (py "meta") doc = .obj own ∧ member (py "pid") own = .int pid

/-- No section is called `meta`, and one called `schema_version` repeats the
prober's own. -/
def KeepsHeader (payload : List (PyStr × Json)) : Prop :=
  Convertible payload → ∀ sections, member (py "sections") payload = .obj sections →
    Dict.get? (py "meta") (Dict.ofPairs sections) = none ∧
      ∀ v, Dict.get? (py "schema_version") (Dict.ofPairs sections) = some v →
        v = .str schemaVersion

variable {prober : Prober} {pid : ℤ} {payload doc : List (PyStr × Json)} {elapsedMs : PyFloat}

/-- The `meta` the prober builds carries the pid asked for and the prober's time. -/
theorem proberMeta_members {own : Json} (h : proberMeta prober pid payload elapsedMs = .ok own) :
    ∃ ms, own = .obj ms ∧ member (py "pid") ms = .int pid ∧
      member (py "captured_at") ms = .str (capturedAt prober.isoNow) := by
  simp only [proberMeta, bind_eq_ok] at h
  obtain ⟨stop, -, elapsed, -, reports, -, collectors, -, h⟩ := h
  obtain rfl := Except.ok.inj h
  exact ⟨_, rfl, rfl, rfl⟩

/-- A document is its header under its sections: a section of a name is read before the
header's member of that name. -/
theorem member_document (h : document prober pid payload elapsedMs = .ok doc) :
    ∃ own sections, proberMeta prober pid payload elapsedMs = .ok own ∧
      items ((member (py "sections") payload).orElse (.obj [])) = .ok sections ∧
      ∀ key, Dict.get? key doc =
        (Dict.get? key (Dict.ofPairs sections)).or (Dict.get? key (header own)) := by
  obtain ⟨own, ho, h⟩ := bind_eq_ok.1 h
  obtain ⟨sections, hs, h⟩ := bind_eq_ok.1 h
  obtain rfl := Except.ok.inj h
  exact ⟨own, sections, ho, hs, fun key => Dict.get?_foldl_set_ofPairs key sections _⟩

/-- A payload that keeps the header leaves both of its members as they were, the version and
the prober's own `meta`. -/
theorem KeepsHeader.header_members (hkeeps : KeepsHeader payload)
    (h : document prober pid payload elapsedMs = .ok doc) :
    member (py "schema_version") doc = .str schemaVersion ∧
      proberMeta prober pid payload elapsedMs = .ok (member (py "meta") doc) := by
  obtain ⟨own, sections, ho, hs, hget⟩ := member_document h
  have hnames : Dict.get? (py "meta") (Dict.ofPairs sections) = none ∧
      ∀ v, Dict.get? (py "schema_version") (Dict.ofPairs sections) = some v →
        v = .str schemaVersion := by
    rcases of_items hs with hobj | rfl
    · exact hkeeps (document_ok.1 ⟨doc, h⟩) sections hobj
    · exact ⟨rfl, fun v hv => nomatch hv⟩
  constructor
  · rw [member, hget]
    rcases hv : Dict.get? (py "schema_version") (Dict.ofPairs sections) with _ | v
    · rfl
    · rw [hnames.2 v hv]
      rfl
  · rw [member, hget, hnames.1, ho]
    rfl

/-- A payload with a section called `meta` has the same `meta` for every process,
and so not the prober's. -/
theorem Protected.keepsHeader (h : Protected prober payload) : KeepsHeader payload := by
  intro hconv sections hsections
  have hdoc : ∀ pid, ∃ doc own, document prober pid payload (.finite 0) = .ok doc ∧
      member (py "schema_version") doc = .str schemaVersion ∧ member (py "meta") doc = .obj own ∧
      member (py "pid") own = .int pid ∧
      ∀ key v, Dict.get? key (Dict.ofPairs sections) = some v → member key doc = v := by
    intro pid
    obtain ⟨doc, hdoc⟩ : ∃ doc, document prober pid payload (.finite 0) = .ok doc :=
      document_ok.2 hconv
    obtain ⟨hversion, own, -, hmeta, hpid⟩ := h pid (.finite 0) doc hdoc
    refine ⟨doc, own, hdoc, hversion, hmeta, hpid, fun key v hv => ?_⟩
    obtain ⟨_, sections', -, hs, hget⟩ := member_document hdoc
    rw [hsections, items_obj] at hs
    obtain rfl := Except.ok.inj hs
    rw [member, hget, hv]
    rfl
  obtain ⟨doc, own, -, hversion, hmeta, hpid, hset⟩ := hdoc 0
  obtain ⟨doc', own', -, -, hmeta', hpid', hset'⟩ := hdoc 1
  refine ⟨?_, fun v hv => (hset _ v hv).symm.trans hversion⟩
  rcases hv : Dict.get? (py "meta") (Dict.ofPairs sections) with _ | v
  · rfl
  · rw [hset _ v hv] at hmeta
    rw [hset' _ v hv, hmeta] at hmeta'
    rw [Json.obj.inj hmeta', hpid'] at hpid
    cases hpid

/-- **The payloads that keep the header**: those with no section called `meta`, and none
called `schema_version` with another version in it. -/
theorem protected_iff : Protected prober payload ↔ KeepsHeader payload := by
  refine ⟨Protected.keepsHeader, fun hkeeps pid elapsedMs doc h => ?_⟩
  obtain ⟨hversion, hmeta⟩ := hkeeps.header_members h
  obtain ⟨own, hown, hpid, -⟩ := proberMeta_members hmeta
  exact ⟨hversion, own, hown ▸ hmeta, hown, hpid⟩

/-! ## Series of documents -/

/-- A document that keeps its header is a snapshot of the process asked for. -/
theorem isSnapshotOf_document (hkeeps : KeepsHeader payload)
    (h : document prober pid payload elapsedMs = .ok doc) : IsSnapshotOf pid doc := by
  obtain ⟨own, hown, hpid, htime⟩ := proberMeta_members (hkeeps.header_members h).2
  refine ⟨own, hown, hpid, fun text m htext hm => ?_⟩
  rw [htime] at htext
  obtain rfl := Json.str.inj htext
  exact prober.aware m hm

omit [IsoFormat] in
/-- A ranking that cannot be read raises `TypeError`. -/
theorem objectsDelta_error {before after : Json} {e : PyError}
    (h : objectsDelta before after = .error e) : ∃ message, e = .typeError message := by
  have hcounts : ∀ {ranking e}, countsByType ranking = .error e →
      ∃ message, e = .typeError message := by
    intro ranking e h
    rcases bind_eq_error.1 h with h | ⟨entries, -, h⟩
    · unfold iterate at h
      split at h
      · cases h
      · exact ⟨_, (Except.error.inj h).symm⟩
    · cases h
  unfold objectsDelta at h
  split at h
  · rcases bind_eq_error.1 h with h | ⟨was, -, h⟩
    · exact hcounts h
    rcases bind_eq_error.1 h with h | ⟨now, -, h⟩
    · exact hcounts h
    · cases h
  · cases h

variable [Unicode] [FloatText]

/-- The samples are documents of the process, from payloads that keep the header. -/
def KeepHeaders (pid : ℤ) (w : Sampling) : Prop :=
  ∀ k s, w.sample (k + 1) = .ok s → ∃ prober payload elapsedMs, KeepsHeader payload ∧
    document prober pid payload elapsedMs = .ok s

/-- The generator does not raise the `ValueError` of two processes, however often
it is called: what it raises is a probe's, or no `ValueError`. -/
def OneProcess (w : Sampling) : Prop :=
  ∀ n e, .raised e ∈ (w.run n).1 →
    (∃ k, w.sample k = .error e) ∨ ∀ message, e ≠ .valueError message

/-- Snapshots that keep their headers are all of the process that was asked for, so they can
be compared. -/
theorem oneProcess_of_keepHeaders {w : Sampling} (h : KeepHeaders pid w) : OneProcess w := by
  intro n e he
  obtain ⟨hmatches, -⟩ := w.run_matches n
  rcases (Sampling.of_raised_mem hmatches.lawful he).1 with hs | ⟨i, before, after, -, hb, ha, hd⟩
  · exact .inl ⟨_, hs⟩
  · obtain ⟨_, _, _, hkeeps, hdoc⟩ := h i before hb
    obtain ⟨_, _, _, hkeeps', hdoc'⟩ := h (i + 1) after ha
    obtain ⟨hok, herror⟩ := diffSnapshots_of_process (isSnapshotOf_document hkeeps hdoc)
      (isSnapshotOf_document hkeeps' hdoc')
    right
    rintro message rfl
    rcases ho : objectsDelta (member (py "objects") before) (member (py "objects") after) with
      e | objects
    · obtain ⟨_, rfl⟩ := objectsDelta_error ho
      rw [herror _ ho] at hd
      cases hd
    · obtain ⟨d, hd', -⟩ := hok objects ho
      rw [hd'] at hd
      cases hd

/-- **The header of a document is protected** exactly where the target sends
no section called `meta`, and none called `schema_version` with another value; and
where no payload of a series does, its samples are of the process asked for. -/
theorem header_protected_iff :
    (∀ prober payload, Protected prober payload ↔ KeepsHeader payload) ∧
      ∀ pid w, KeepHeaders pid w → OneProcess w :=
  ⟨fun _ _ => protected_iff, fun _ _ => oneProcess_of_keepHeaders⟩

end

/-- A payload with a section called `meta`, which replaces the one the prober wrote. -/
def foreignMeta : List (PyStr × Json) :=
  [(py "sections", .obj [(py "meta", .obj [(py "pid", .int 2)])])]

/-- Two documents of process 1 cannot be compared: the second says that it is of process
2. -/
theorem section_named_meta_not_protected :
    letI : IsoFormat := ⟨fun _ => none⟩
    letI := Unicode.fullwidth
    letI := Json.wholeFloats
    ¬Protected plainProber foreignMeta ∧ ∃ before after,
      document plainProber 1 [] (.finite 3) = .ok before ∧
        document plainProber 1 foreignMeta (.finite 3) = .ok after ∧
        diffSnapshots before after =
          .error (.valueError (differentProcesses (.int 1) (.int 2))) := by
  let _ : IsoFormat := ⟨fun _ => none⟩
  let _ := Unicode.fullwidth
  let _ := Json.wholeFloats
  refine ⟨fun h => ?_, _, _, rfl, rfl, rfl⟩
  have hdoc : ∃ doc, document plainProber 1 foreignMeta (.finite 3) = .ok doc := ⟨_, rfl⟩
  have hnone := (h.keepsHeader (document_ok.1 hdoc) _ rfl).1
  cases hnone

end Diff
end Pidprobe
