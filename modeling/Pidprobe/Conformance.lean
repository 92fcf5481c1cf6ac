/-
# Snapshots and their schema

A snapshot from what the four built-in collectors read of the target to the
document, held against `snapshot.schema.json`: each snippet's `data`, the driver's
reports, the payload as it is read back, and what `_document` adds.

The sections of the objects, gc and fds collectors validate whatever they meet
(`objectsSection_reread`, `gcSection_reread`, `fdsSection_reread`), and so does
every report.  An interpreter does not: `sys.executable` may be `None`, and the
schema wants a string.  The stacks section relies on what Python leaves open, the
line of a frame and the daemon flag of a thread (`validates_iff`).

Where the schema has a string for the name of a type or the rendering of a local,
a metaclass or a `__repr__` of the target may have put something else.  That they
do not is a condition of the whole, `Target.Ordinary`.
-/

import Pidprobe.Collectors.Fds
import Pidprobe.Collectors.Gc
import Pidprobe.Collectors.Objects
import Pidprobe.Collectors.Sections
import Pidprobe.Collectors.Stacks
import Pidprobe.Deadline
import Pidprobe.Registry
import Pidprobe.SnapshotSchema

namespace Pidprobe
namespace Conformance

open Schema SnapshotSchema

/-! ## The objects, gc and fds sections -/

/-- The objects section of every heap passes its schema, for every number of types it
shows. -/
theorem objectsSection_reread {n : ℕ} (hn : 1 ≤ n) (h : Heap) :
    objectsSection (Json.obj (objectsData n h)).reread = true := by
  have htop : ∀ x ∈ (h.mostCommon n).map topEntry, object (keys ["type", "count"])
      [(py "type", ofType .string), (py "count", atLeast .integer 0)] x.reread = true := by
    intro x hx
    obtain ⟨entry, -, rfl⟩ := List.mem_map.1 hx
    refine (object_reread (by decide) (by simp [Dict.NodupKeys])).2 ⟨?_, ?_⟩
    · simp [keys, Dict.get?]
    · simp [Dict.get?]
  unfold objectsData
  generalize (h.counts.map Prod.snd).sum = total
  refine (object_reread (by decide) (by simp [Dict.NodupKeys])).2 ⟨?_, ?_⟩
  · simp [keys, Dict.get?]
  · simpa [Dict.get?, hn] using htop

/-- The gc section passes its schema, whatever the counters and thresholds of the
collector are. -/
theorem gcSection_reread (w : GcStats.World) : gcSection (GcStats.gcData w).reread = true := by
  have hentry : ∀ x ∈ w.stats.mapIdx fun index row =>
      Json.obj (GcStats.generationEntry w index row), generation x.reread = true := by
    intro x hx
    obtain ⟨index, hindex, rfl⟩ := List.mem_mapIdx.1 hx
    refine (object_reread (by decide) GcStats.nodupKeys_generationEntry).2 ⟨?_, ?_⟩
    · simp [keys, GcStats.get?_generationEntry]
    · rw [List.forall_mem_cons]
      refine ⟨fun v hv => ?_, fun p hp v hv => ?_⟩
      · obtain rfl := Option.some.inj (hv.symm.trans GcStats.get?_generationEntry)
        simp
      · have hinteger : p.2 = ofType .integer ∧
            p.1 ∈ GcStats.addedKeys ++ GcStats.documentedKeys := by
          simp only [List.mem_cons, List.not_mem_nil, or_false] at hp
          rcases hp with rfl | rfl | rfl | rfl | rfl <;>
            simp [GcStats.addedKeys, GcStats.documentedKeys]
        obtain ⟨htype, hkey⟩ := hinteger
        obtain ⟨n, rfl⟩ := GcStats.integer_generationEntry hkey hv
        rw [htype]
        rfl
  refine (object_reread (by decide) (by simp [Dict.NodupKeys])).2 ⟨?_, ?_⟩
  · simp [keys, Dict.get?]
  · simpa [Dict.get?] using hentry

/-- What is said of a socket passes its schema, and a descriptor that is none has `null`
there. -/
theorem socket_reread (w : Fds.World) (fd : ℤ) :
    orNull socket (Fds.socketDetails w fd).reread = true := by
  unfold Fds.socketDetails
  split_ifs
  · exact orNull_null
  · split
    · exact orNull_null
    · rw [Json.reread, orNull_obj, ← Json.reread]
      refine (object_reread (by decide) (by simp [Dict.NodupKeys])).2 ⟨?_, ?_⟩
      · simp [keys, Dict.get?]
      · simp [Dict.get?]

/-- Each descriptor that is listed passes the schema of one. -/
theorem descriptor_reread {ε : Type} {overflow : ε} {w : Fds.World} {directory name : PyStr}
    {entry : Fds.Entry} (h : Fds.describe overflow w directory name = .ok (some entry)) :
    descriptor entry.json.reread = true := by
  obtain ⟨fd, ino, size, kind, target, hfd, hkind, rfl⟩ := Fds.describe_eq_some h
  have hliteral : ∀ kind ∈ Fds.kindByFormat.map Prod.snd ++ [py "unknown"],
      Json.rereadStr kind = kind := by decide
  have hlisted : Json.rereadStr kind ∈ keys ["socket", "fifo", "file", "directory", "char", "block",
      "symlink", "unknown"] := by
    rw [hliteral kind hkind]
    exact hkind
  have htarget : type [.string, .null] (Option.elim target Json.null Json.str).reread = true := by
    cases target <;> rfl
  refine (object_reread (by decide) ?_).2 ⟨?_, ?_⟩
  · split_ifs <;> simp [Dict.NodupKeys]
  · split_ifs <;> simp [keys, Dict.get?]
  · split_ifs <;> simp [Dict.get?, hfd, hlisted, htarget, socket_reread]

/-- The fds section passes its schema wherever the collector returns one. -/
theorem fdsSection_reread {ε : Type} {overflow : ε} {w : Fds.World} {data : Json}
    (h : Fds.fdsData overflow w = .ok data) : fdsSection data.reread = true := by
  rcases Fds.fdsData_eq_ok h with rfl | ⟨directory, descriptors, rfl, hdescribed⟩
  · refine (object_reread (by decide) (by simp [Dict.NodupKeys])).2 ⟨?_, ?_⟩
    · simp [keys, Dict.get?]
    · simp [Dict.get?]
  · have hentry : ∀ x ∈ descriptors.map Fds.Entry.json, descriptor x.reread = true := by
      intro x hx
      obtain ⟨entry, hentry, rfl⟩ := List.mem_map.1 hx
      obtain ⟨name, hname⟩ := hdescribed entry hentry
      exact descriptor_reread hname
    refine (object_reread (by decide) (by simp [Dict.NodupKeys])).2 ⟨?_, ?_⟩
    · simp [keys, Dict.get?]
    · simpa [Dict.get?] using hentry

/-! ## The stacks section -/

/-- A text that is a string or `None`. -/
def IsText (v : Json) : Prop := ∃ text : Option PyStr, v = text.elim .null .str

/-- A flag that is a `bool` or `None`. -/
def IsFlag (v : Json) : Prop := ∃ flag : Option Bool, v = flag.elim .null .bool

/-- The schema's `string` or `null` admits a value read back exactly where it was a string
or `None`. -/
theorem text_reread {v : Json} : type [.string, .null] v.reread = true ↔ IsText v := by
  constructor
  · intro h
    cases v with
    | null => exact ⟨none, rfl⟩
    | str s => exact ⟨some s, rfl⟩
    | float x => cases x <;> cases h
    | _ => cases h
  · rintro ⟨_ | s, rfl⟩ <;> rfl

/-- The schema's `boolean` or `null` admits a value read back exactly where it was a
`bool` or `None`. -/
theorem flag_reread {v : Json} : type [.boolean, .null] v.reread = true ↔ IsFlag v := by
  constructor
  · intro h
    cases v with
    | null => exact ⟨none, rfl⟩
    | bool b => exact ⟨some b, rfl⟩
    | float x => cases x <;> cases h
    | _ => cases h
  · rintro ⟨_ | s, rfl⟩ <;> rfl

section

variable [Unicode] {ε α : Type} [PyException ε] [PyObject ε α]

/-- The rendering of a local is a string, so `json.dumps` can write it. A text of a class of
the target's need not be one. -/
def StringText (text : Text α) : Prop := ∃ s, (Serial.walk text : Except ε Json) = .ok (.str s)

/-- The locals of a frame are rendered as strings, where they are rendered. A frame whose
`f_locals` raise has none. -/
def StringLocals (isMasked : Bool) (f : Stacks.Frame ε α) : Prop :=
  ∀ pairs, SafeRepr.frameLocals isMasked f.fLocals = .ok (some pairs) →
    ∀ pair ∈ pairs, StringText (ε := ε) pair.2

omit [Unicode] [PyException ε] in
/-- Locals that are rendered as strings are written, and validate. -/
theorem locals_reread {locals : Option (List (PyStr × Text α))}
    (h : ∀ pairs, locals = some pairs → ∀ pair ∈ pairs, StringText (ε := ε) pair.2) :
    ∃ v, (Stacks.localsJson locals : Except ε Json) = .ok v ∧
      orNull (keywords [ofType .object, additionalProperties (ofType .string)]) v.reread =
        true := by
  cases locals with
  | none => exact ⟨.null, rfl, orNull_null⟩
  | some pairs =>
    obtain ⟨ms, hms⟩ := forall₂_of_forall (R := fun pair kv =>
      (Stacks.localJson pair : Except ε _) = .ok kv ∧ ∃ s, kv.2 = .str s) fun pair hpair => by
        obtain ⟨s, hs⟩ := h pairs rfl pair hpair
        exact ⟨_, bind_eq_ok.2 ⟨_, hs, rfl⟩, s, rfl⟩
    have hmapM : (pairs.mapM Stacks.localJson : Except ε _) = .ok ms :=
      mapM_eq_ok.2 (hms.imp fun _ _ h => h.1)
    have hstr : ∀ kv ∈ Dict.ofPairs (Json.rereadMembers ms), ofType .string kv.2 = true := by
      intro kv hkv
      have hmem := Dict.mem_ofPairs hkv
      rw [Json.rereadMembers_eq_map] at hmem
      obtain ⟨member, hmember, rfl⟩ := List.mem_map.1 hmem
      obtain ⟨_, _, -, s, hs⟩ := exists_of_forall₂ (List.Forall₂.flip hms) hmember
      rw [hs]
      rfl
    refine ⟨.obj ms, bind_eq_ok.2 ⟨ms, hmapM, rfl⟩, ?_⟩
    simpa [Json.reread, keywords, ofType, type, Json.hasType, additionalProperties] using hstr

/-- An entry of a frame is written, and validates if the frame has a line. `f_lineno` may be
`None`. -/
theorem frame_reread {isMasked : Bool} {f : Stacks.Frame ε α} {entry : Except ε Json}
    (hlocals : StringLocals isMasked f) (h : Stacks.frameEntry isMasked f = .ok entry) :
    ∃ v, entry = .ok v ∧ (frame v.reread = true ↔ f.lineno.isSome = true) := by
  obtain ⟨locals, hrendered, h⟩ := bind_eq_ok.1 h
  obtain rfl := Except.ok.inj h
  obtain ⟨v, hv, hvalid⟩ := locals_reread (ε := ε) fun pairs hpairs =>
    hlocals pairs (hpairs ▸ hrendered)
  rw [hv]
  refine ⟨_, rfl, ?_⟩
  have hline : ofType .integer (f.lineno.elim Json.null Json.int).reread = true ↔
      f.lineno.isSome = true := by
    cases f.lineno with
    | none => exact iff_of_false (by decide) (by simp)
    | some n => exact iff_of_true rfl rfl
  refine (object_reread (by decide) (by simp [Dict.NodupKeys])).trans ?_
  simp [keys, Dict.get?, hline, hvalid]

/-- The frames of a thread are written, and validate if those that are shown have their
lines. -/
theorem frames_reread {isMasked : Bool} {top : List (Stacks.Frame ε α)}
    {frames : List (Except ε Json)} {truncated : Bool}
    (hlocals : ∀ f ∈ top, StringLocals isMasked f)
    (h : Stacks.walk isMasked top = .ok (frames, truncated)) :
    ∃ vs, frames.mapM id = .ok vs ∧ ((∀ v ∈ vs, frame v.reread = true) ↔
      ∀ f ∈ top.take Stacks.maxFrameDepth, f.lineno.isSome = true) := by
  obtain ⟨vs, hvs, hframes⟩ := forall₂_exists
    (S := fun (entry : Except ε Json) v => id entry = Except.ok v)
    (T := fun (f : Stacks.Frame ε α) (v : Json) =>
      frame v.reread = true ↔ f.lineno.isSome = true) (Stacks.walk_eq_ok h)
    fun f entry hf hentry => frame_reread (hlocals f (List.mem_of_mem_take hf)) hentry
  exact ⟨vs, mapM_eq_ok.2 hvs, forall_mem_of_forall₂ hframes fun _ _ h => h⟩

omit [Unicode] [PyException ε] [PyObject ε α] in
/-- An entry of a thread validates as its name, its daemon flag and its frames
do. -/
theorem thread_reread {entry : Stacks.ThreadEntry ε} {frames : List Json} :
    thread (entry.json frames).reread = true ↔ IsText entry.name ∧ IsFlag entry.daemon ∧
      ∀ f ∈ frames, frame f.reread = true := by
  refine (object_reread (by decide) (by simp [Dict.NodupKeys])).trans ?_
  simp [keys, Dict.get?, text_reread, flag_reread]

/-- The name and the daemon flag of a thread in `threading._active`, or null for each where
it is not there. -/
def described (w : Stacks.World ε α) (ident : ℤ) : Json × Json :=
  match w.active with
  | .ok pairs => (Dict.get? ident (Dict.ofPairs pairs)).getD (.null, .null)
  | .error _ => (.null, .null)

omit [Unicode] [PyObject ε α] in
/-- What a thread is described by: the entry of `threading._active`, or nulls where it has
none. -/
theorem getD_descriptors {w : Stacks.World ε α} {known : List (ℤ × Json × Json)}
    (h : Stacks.descriptors w = .ok known) (ident : ℤ) :
    (Dict.get? ident known).getD (.null, .null) = described w ident := by
  unfold Stacks.descriptors exceptException at h
  unfold described
  rcases hactive : w.active with exc | pairs
  · rw [hactive, Except.map] at h
    dsimp only at h
    split_ifs at h
    rw [← Except.ok.inj h]
    rfl
  · rw [hactive, Except.map] at h
    rw [← Except.ok.inj h]

/-- A thread the schema has room for: its name is a string or `None`, its daemon
flag a `bool` or `None`, and the frames that are listed have a line. -/
structure IsPlain (w : Stacks.World ε α) (t : ℤ × List (Stacks.Frame ε α)) : Prop where
  name : IsText (described w t.1).1
  daemon : IsFlag (described w t.1).2
  lines : ∀ f ∈ t.2.take Stacks.maxFrameDepth, f.lineno.isSome = true

/-- The entry of a thread passes the schema exactly where its name, its daemon flag and
the line numbers of the frames that are shown are of the types the schema names. -/
theorem threadEntry_reread {isMasked : Bool} {w : Stacks.World ε α}
    {known : List (ℤ × Json × Json)} (hknown : Stacks.descriptors w = .ok known)
    {t : ℤ × List (Stacks.Frame ε α)} {entry : Stacks.ThreadEntry ε}
    (hlocals : ∀ f ∈ t.2, StringLocals isMasked f)
    (h : Stacks.threadEntry isMasked w known t = .ok entry) :
    ∃ v, (Serial.walk entry : Except ε Json) = .ok v ∧
      (thread v.reread = true ↔ IsPlain w t) := by
  obtain ⟨⟨frames, truncated⟩, hwalk, h⟩ := bind_eq_ok.1 h
  have hentry : entry = ⟨t.1, ((Dict.get? t.1 known).getD (.null, .null)).1,
      ((Dict.get? t.1 known).getD (.null, .null)).2, w.mainIdent = some t.1, frames, truncated⟩ :=
    (Except.ok.inj h).symm
  obtain ⟨vs, hvs, hframes⟩ := frames_reread hlocals hwalk
  rw [getD_descriptors hknown] at hentry
  subst hentry
  refine ⟨_, bind_eq_ok.2 ⟨vs, hvs, rfl⟩, ?_⟩
  rw [thread_reread, hframes]
  exact ⟨fun ⟨hname, hdaemon, hlines⟩ => ⟨hname, hdaemon, hlines⟩,
    fun hplain => ⟨hplain.name, hplain.daemon, hplain.lines⟩⟩

/-- **The section of the stacks collector**, where it renders locals as strings, is
written, and validates if its threads are plain. -/
theorem stacksSection_reread {isMasked : Bool} {w : Stacks.World ε α} {data : Except ε Json}
    (hlocals : ∀ t ∈ w.targetFrames, ∀ f ∈ t.2, StringLocals isMasked f)
    (h : Stacks.stacksData isMasked w = .ok data) :
    ∃ v, data = .ok v ∧
      (orNull stacksSection v.reread = true ↔ ∀ t ∈ w.targetFrames, IsPlain w t) := by
  obtain ⟨known, entries, threads, hknown, hentries, hperm, rfl⟩ := Stacks.stacksData_eq_ok h
  -- a thread entry is written, and then validates or not
  have hvalid := forall_mem_of_forall₂ (P := IsPlain w)
    (Q := fun entry => ∃ v, (Serial.walk entry : Except ε Json) = .ok v ∧
      thread v.reread = true)
    (forall₂_of_mem (S := fun t entry => ∃ v, (Serial.walk entry : Except ε Json) = .ok v ∧
      (thread v.reread = true ↔ IsPlain w t)) hentries fun t entry ht hentry =>
        threadEntry_reread hknown (hlocals t ht) hentry) fun t entry hentry => by
      obtain ⟨v, hv, hiff⟩ := hentry
      simp [hv, hiff]
  have hwalk : ∀ entry ∈ threads, ∃ v, (Serial.walk entry : Except ε Json) = .ok v := by
    intro entry hentry
    obtain ⟨t, ht, h⟩ := exists_of_forall₂ (List.Forall₂.flip hentries) (hperm.mem_iff.1 hentry)
    obtain ⟨v, hv, -⟩ := threadEntry_reread hknown (hlocals t ht) h
    exact ⟨v, hv⟩
  obtain ⟨vs, hvs⟩ := mapM_ok.2 hwalk
  have hthreads : (∀ v ∈ vs, thread v.reread = true) ↔ ∀ t ∈ w.targetFrames, IsPlain w t := by
    rw [← hvalid, forall_mem_of_forall₂ (mapM_eq_ok.1 hvs) (P := fun entry =>
      ∃ v, (Serial.walk entry : Except ε Json) = .ok v ∧ thread v.reread = true)]
    · exact forall_congr' fun entry => by rw [hperm.mem_iff]
    · intro entry v hv
      simp [hv]
  have hsection : stacksSection (Stacks.sectionJson isMasked vs).reread = true ↔
      ∀ v ∈ vs, thread v.reread = true := by
    refine (object_reread (by decide) (by simp [Dict.NodupKeys])).trans ?_
    simp [keys, Dict.get?, Stacks.maxFrameDepth]
  rw [hvs]
  refine ⟨_, rfl, ?_⟩
  rw [orNull_iff, hsection, hthreads, Json.reread_eq_null]
  simp [Stacks.sectionJson]

end

/-! ## The header -/

/-- The prober's interpreter passes exactly where `sys.executable` is a string, which the
schema asks for. -/
theorem interpreter_prober (i : Interpreter) :
    interpreter i.json = true ↔ i.executable.isSome = true := by
  have hexecutable : ofType .string (i.executable.elim Json.null Json.str) =
      i.executable.isSome := by
    cases i.executable <;> rfl
  refine object_obj.trans ?_
  simp [keys, Dict.get?, hexecutable]

/-- So does that of the target, which comes by way of the payload. -/
theorem interpreter_target (info : Driver.TargetInfo) :
    interpreter (info.json.reread.orElse (.obj [])) = true ↔ info.executable.isSome = true := by
  have hexecutable : ofType .string (info.executable.elim Json.null Json.str).reread =
      info.executable.isSome := by
    cases info.executable <;> rfl
  have htruthy : info.json.reread.truthy = true := rfl
  rw [Json.orElse, if_pos htruthy]
  refine (object_reread (by decide) (by simp [Dict.NodupKeys])).trans ?_
  simp [keys, Dict.get?, hexecutable]

/-- The report of an exception passes the schema, whatever the three texts are. -/
theorem error_reread (typeName message traceback : PyStr) :
    error (Inject.errorDetails (.str typeName) message traceback).reread = true := by
  refine (object_reread (by decide) (by simp [Dict.NodupKeys])).2 ⟨?_, ?_⟩
  · simp [keys, Dict.get?]
  · simp [Dict.get?]

/-- A duration of a clock that does not run backwards validates. -/
theorem duration_rounded {q : ℚ} (h : 0 ≤ q) :
    atLeast .number 0 (.float (roundThousandths (.finite q))) = true := by
  obtain ⟨r, hr, hround⟩ := roundThousandths_nonneg h
  rw [hround, atLeast_float]
  exact_mod_cast hr

/-- The name of the exception's type is a string, as it is unless a metaclass answers for
it. -/
def NamedType {ε : Type} [PyException ε] (exc : ε) : Prop :=
  ∃ s, typeNameJson exc = .ok (.str s)

/-- A report validates where the exception it is about, if it is about one, has a
string for the name of its type. -/
theorem collectorReport_reported [Unicode] {ε π : Type} [PyException ε] {w : Driver.World ε π}
    (hclock : Monotone w.clock) {c : Collector}
    (hnamed : ∀ exc, w.behaves c = .error exc → NamedType exc) {r : Json}
    (h : Driver.ReportedAs w c r) : collectorReport r = true := by
  obtain ⟨data, status, error, i, hg, rfl⟩ := h
  have hduration : atLeast .number 0
      (.float (roundThousandths (.finite ((w.clock (i + 1) - w.clock i) * 1000)))) = true :=
    duration_rounded (mul_nonneg (sub_nonneg.2 (hclock (Nat.le_succ i))) (by norm_num))
  have hok : Json.rereadStr (py "ok") = py "ok" := by decide
  have herror : Json.rereadStr (py "error") = py "error" := by decide
  refine object_obj.2 ⟨by simp [keys, Driver.rendered, Dict.get?], ?_⟩
  rcases Driver.reported_status hg with ⟨rfl, rfl, -⟩ |
    ⟨rfl, exc, hexc, typeName, message, traceback, hname, rfl⟩
  · simp [Driver.rendered, Dict.get?, hduration, hok]
  · obtain ⟨s, hs⟩ := hnamed exc hexc
    obtain rfl := Except.ok.inj (hname.symm.trans hs)
    simp [Driver.rendered, Dict.get?, hduration, herror, orNull_iff, error_reread]

section

variable [IsoFormat]

/-- The `meta` section passes its schema where both interpreters have an executable: the
numbers are not negative, and the reports are those of the driver. -/
theorem metaSection_builtMeta (prober : Prober) (info : Driver.TargetInfo) {pid : ℤ}
    {elapsedMs stopDurationMs : ℚ} {entries : List Json} (hpid : 1 ≤ pid) (helapsed : 0 ≤ elapsedMs)
    (hstop : 0 ≤ stopDurationMs) (hentries : ∀ r ∈ entries, collectorReport r = true) :
    metaSection (.obj (Driver.builtMeta prober pid (.finite elapsedMs) entries info.json.reread
      stopDurationMs)) = true ↔
        prober.interpreter.executable.isSome = true ∧ info.executable.isSome = true := by
  have hreports : arrayOf collectorReport (.arr entries) = true := arrayOf_arr.2 hentries
  refine object_obj.trans ?_
  simp [-arrayOf_arr, keys, Driver.builtMeta, Dict.get?, hpid, interpreter_prober,
    interpreter_target, duration_rounded helapsed, duration_rounded hstop, hreports]

end

/-! ## The document -/

/-- What `take_snapshot` hands to `_document` besides the payload: the readings of
its clock, the first two around the probe, and the id of the process that
answered. -/
structure Probe [IsoFormat] where
  prober : Prober
  pid : ℤ
  clock : Clock
  pid_pos : 1 ≤ pid

/-- `elapsed_ms`. -/
def Probe.elapsedMs [IsoFormat] (probe : Probe) : ℚ :=
  (probe.clock.reading 1 - probe.clock.reading 0) * 1000

/-- A probe takes no negative time, as its clock does not run backwards. -/
theorem Probe.elapsedMs_nonneg [IsoFormat] (probe : Probe) : 0 ≤ probe.elapsedMs :=
  mul_nonneg (sub_nonneg.2 (probe.clock.monotone (Nat.zero_le 1))) (by norm_num)

/-- What the objects collector reads: types whose names are strings, or one that a
metaclass has given another name, and then what the snippet comes to is left open. -/
inductive TypesRead (ε : Type)
  | named (objects : List (Option TypeNames))
  | odd (outcome : Except ε (Except ε Json))

/-- What the objects collector comes to: the counts, or what the names of odd types make of
it. -/
def TypesRead.outcome {ε : Type} : TypesRead ε → Except ε (Except ε Json)
  | .named objects => .ok (.ok (.obj (objectsData topN (tally objects))))
  | .odd outcome => outcome

/-- The target of a snapshot: what each built-in collector reads of it, or what
reading that raises. -/
structure Target (ε α : Type) where
  clock : Clock
  info : Driver.TargetInfo
  readStacks : Except ε (Stacks.World ε α)
  readObjects : Except ε (TypesRead ε)
  readGc : Except ε GcStats.World
  readFds : Except ε Fds.World
  /-- The `OverflowError` of `os.fstat`. -/
  overflow : ε

section

variable [Unicode] {ε α : Type} [PyException ε] [PyObject ε α]

/-- What running each built-in collector comes to, `data` being given by what
`json.dumps` does with it. -/
def Target.outcomes (isMasked : Bool) (target : Target ε α) :
    List (PyStr × Except ε (Except ε Json)) :=
  [(py "stacks", target.readStacks >>= Stacks.stacksData isMasked),
    (py "objects", target.readObjects >>= TypesRead.outcome),
    (py "gc", target.readGc.map fun w => .ok (GcStats.gcData w)),
    (py "fds", target.readFds >>= fun w => (Fds.fdsData target.overflow w).map .ok)]

/-- What the driver meets there: the four built-in collectors with what each comes to on
this target. -/
def Target.world (isMasked : Bool) (target : Target ε α) : Driver.World ε (Except ε Json) where
  behaves c := (Dict.get? c.name (target.outcomes isMasked)).getD (.ok (.ok .null))
  clock := target.clock.reading
  target := target.info

/-- What the snippets raise is derived from `Exception` and can be rendered, and the
names of types and the renderings of locals are strings. -/
structure Target.Ordinary (isMasked : Bool) (target : Target ε α) : Prop where
  raises : ∀ entry ∈ target.outcomes isMasked, ∀ exc, entry.2 = .error exc →
    PyException.isException exc = true ∧ Inject.Renders exc ∧ NamedType exc
  types : ∀ outcome, target.readObjects ≠ .ok (.odd outcome)
  locals : ∀ w, target.readStacks = .ok w → ∀ t ∈ w.targetFrames, ∀ f ∈ t.2,
    StringLocals isMasked f

/-- The snapshot of a target validates: its built-in collectors answer, and the
document made of their payload passes the schema. -/
def Validates [IsoFormat] (probe : Probe) (sources : Registry.BuiltinSources) (isMasked : Bool)
    (target : Target ε α) : Prop :=
  (∃ payload, Driver.Collects (Registry.builtinCollectors sources) (target.world isMasked)
      payload) ∧
    ∀ payload, Driver.Collects (Registry.builtinCollectors sources) (target.world isMasked)
        payload →
      ∃ ms doc, payload.reread = .obj ms ∧
        document probe.prober probe.pid ms (.finite probe.elapsedMs) = .ok doc ∧
        snapshot (.obj doc) = true

/-- What the schema takes for granted: both interpreters know their executable,
and the threads the stacks collector returns are plain. -/
structure Documented [IsoFormat] (probe : Probe) (isMasked : Bool) (target : Target ε α) :
    Prop where
  proberExecutable : probe.prober.interpreter.executable.isSome = true
  targetExecutable : target.info.executable.isSome = true
  threads : ∀ w data, target.readStacks = .ok w → Stacks.stacksData isMasked w = .ok data →
    ∀ t ∈ w.targetFrames, IsPlain w t

omit [Unicode] in
/-- The section of a collector is what it returned, or `null` where it raised. -/
theorem outcome_of_fills {outcome : Except ε (Except ε Json)} {u : Json}
    (h : Driver.Fills outcome u) :
    outcome = .ok (.ok u) ∨ u = .null ∧ ∃ exc, outcome = .error exc := by
  rcases h with ⟨data, rfl, hwalk⟩ | ⟨hnull, exc, hexc, -⟩
  · exact .inl (congrArg Except.ok hwalk)
  · exact .inr ⟨hnull, exc, hexc⟩

omit [Unicode] in
/-- A collector whose sections all validate fills its section with one that does, or with
null. -/
theorem orNull_of_fills {outcome : Except ε (Except ε Json)} {s : Schema}
    (hs : ∀ v, outcome = .ok (.ok v) → s v.reread = true) {u : Json}
    (h : Driver.Fills outcome u) : orNull s u.reread = true := by
  rcases outcome_of_fills h with hok | ⟨rfl, -⟩
  · exact orNull_iff.2 (.inl (hs u hok))
  · exact orNull_null

/-- The stacks section is `null`, or it passes where every thread that is shown does: a name
that is a string, a flag, and lines. -/
theorem orNull_stacks {isMasked : Bool} {read : Except ε (Stacks.World ε α)} {u : Json}
    (hlocals : ∀ w, read = .ok w → ∀ t ∈ w.targetFrames, ∀ f ∈ t.2, StringLocals isMasked f)
    (h : Driver.Fills (read >>= Stacks.stacksData isMasked) u) :
    orNull stacksSection u.reread = true ↔ ∀ w data, read = .ok w →
      Stacks.stacksData isMasked w = .ok data → ∀ t ∈ w.targetFrames, IsPlain w t := by
  rcases outcome_of_fills h with hok | ⟨rfl, exc, hexc⟩
  · obtain ⟨w, rfl, hw⟩ := bind_eq_ok.1 hok
    obtain ⟨v, hv, hvalid⟩ := stacksSection_reread (hlocals w rfl) hw
    obtain rfl := Except.ok.inj hv
    rw [hvalid]
    constructor
    · rintro hplain _ _ hread -
      obtain rfl := Except.ok.inj hread
      exact hplain
    · exact fun hplain => hplain w _ rfl hw
  · refine iff_of_true orNull_null ?_
    rintro w data rfl hdata
    exact nomatch (bind_eq_ok.2 ⟨w, rfl, hdata⟩).symm.trans hexc

omit [Unicode] [PyException ε] [PyObject ε α] in
/-- The objects collector, over types with strings for names. -/
theorem objectsSection_outcome {read : Except ε (TypesRead ε)}
    (hnamed : ∀ outcome, read ≠ .ok (.odd outcome)) {v : Json}
    (h : read >>= TypesRead.outcome = .ok (.ok v)) : objectsSection v.reread = true := by
  obtain ⟨types, rfl, h⟩ := bind_eq_ok.1 h
  cases types with
  | named objects =>
    obtain rfl := Except.ok.inj (Except.ok.inj h)
    exact objectsSection_reread (by decide) (tally objects)
  | odd outcome => exact absurd rfl (hnamed outcome)

omit [Unicode] [PyException ε] [PyObject ε α] in
/-- The section a gc collector assigns passes, whatever it reads. -/
theorem gcSection_outcome {read : Except ε GcStats.World} {v : Json}
    (h : read.map (fun w => (.ok (GcStats.gcData w) : Except ε Json)) = .ok (.ok v)) :
    gcSection v.reread = true := by
  cases read with
  | error exc => cases h
  | ok w =>
    obtain rfl := Except.ok.inj (Except.ok.inj h)
    exact gcSection_reread w

omit [Unicode] [PyException ε] [PyObject ε α] in
/-- The section an fds collector assigns passes, whatever it reads. -/
theorem fdsSection_outcome {read : Except ε Fds.World} {overflow : ε} {v : Json}
    (h : (read >>= fun w => (Fds.fdsData overflow w).map (.ok : Json → Except ε Json)) =
      .ok (.ok v)) : fdsSection v.reread = true := by
  obtain ⟨w, -, hw⟩ := bind_eq_ok.1 h
  rcases hdata : Fds.fdsData overflow w with exc | data <;> rw [hdata] at hw
  · cases hw
  · obtain rfl := Except.ok.inj (Except.ok.inj hw)
    exact fdsSection_reread hdata

omit [PyException ε] [PyObject ε α] in
/-- The built-in collectors have four different ASCII names, so each fills its
own section. -/
theorem plainNames_builtin (sources : Registry.BuiltinSources) :
    Driver.PlainNames (Registry.builtinCollectors sources) := by
  refine ⟨Registry.nodup_builtinCollectors sources, ?_⟩
  simp only [Registry.builtinCollectors, List.forall_mem_cons, List.not_mem_nil, IsEmpty.forall_iff,
    implies_true, and_true]
  exact ⟨ascii_py (by decide), ascii_py (by decide), ascii_py (by decide), ascii_py (by decide)⟩

/-- What a collector of an ordinary target raises has a string for the name of its
type. -/
theorem Target.Ordinary.named {isMasked : Bool} {target : Target ε α}
    (h : target.Ordinary isMasked) (c : Collector) (exc : ε)
    (hexc : (target.world isMasked).behaves c = .error exc) : NamedType exc := by
  unfold Target.world at hexc
  dsimp only at hexc
  rcases hget : Dict.get? c.name (target.outcomes isMasked) with _ | outcome <;> rw [hget] at hexc
  · cases hexc
  · exact (h.raises _ (Dict.mem_of_get? hget) exc hexc).2.2

/-- What a collector of an ordinary target returns is written. -/
theorem Target.Ordinary.walk {isMasked : Bool} {target : Target ε α}
    (h : target.Ordinary isMasked) {name : PyStr} {data : Except ε Json}
    (hmem : (name, .ok data) ∈ target.outcomes isMasked) : ∃ v, data = .ok v := by
  simp only [Target.outcomes, List.mem_cons, Prod.mk.injEq, List.not_mem_nil, or_false] at hmem
  rcases hmem with ⟨-, hdata⟩ | ⟨-, hdata⟩ | ⟨-, hdata⟩ | ⟨-, hdata⟩
  · obtain ⟨w, hread, hw⟩ := bind_eq_ok.1 hdata.symm
    obtain ⟨v, hv, -⟩ := stacksSection_reread (h.locals w hread) hw
    exact ⟨v, hv⟩
  · obtain ⟨types, hread, htypes⟩ := bind_eq_ok.1 hdata.symm
    cases types with
    | named objects => exact ⟨_, (Except.ok.inj htypes).symm⟩
    | odd outcome => exact absurd hread (h.types outcome)
  · cases hread : target.readGc with
    | error exc =>
      rw [hread] at hdata
      cases hdata
    | ok w =>
      rw [hread] at hdata
      exact ⟨_, Except.ok.inj hdata⟩
  · obtain ⟨w, -, hw⟩ := bind_eq_ok.1 hdata.symm
    rcases hfds : Fds.fdsData target.overflow w with exc | v <;> rw [hfds] at hw
    · cases hw
    · exact ⟨v, (Except.ok.inj hw).symm⟩

/-- Collectors of an ordinary target fill their sections, so the payload serialises and a
document is made. -/
theorem Target.Ordinary.fills {isMasked : Bool} {target : Target ε α}
    (h : target.Ordinary isMasked) (c : Collector) :
    ∃ v, Driver.Fills ((target.world isMasked).behaves c) v := by
  unfold Target.world
  dsimp only
  rcases hget : Dict.get? c.name (target.outcomes isMasked) with _ | exc | data
  · exact ⟨.null, .inl ⟨.ok .null, rfl, rfl⟩⟩
  · obtain ⟨hexception, hrenders, -⟩ := h.raises _ (Dict.mem_of_get? hget) exc rfl
    exact ⟨.null, .inr ⟨rfl, exc, rfl, hexception, hrenders⟩⟩
  · obtain ⟨v, rfl⟩ := h.walk (Dict.mem_of_get? hget)
    exact ⟨v, .inl ⟨.ok v, rfl, rfl⟩⟩

omit [Unicode] in
/-- The document of four sections passes where its header does, and each section or null
does. -/
theorem snapshot_sections {own v₁ v₂ v₃ v₄ : Json} :
    snapshot (.obj (header own ++ [(py "stacks", v₁), (py "objects", v₂), (py "gc", v₃),
      (py "fds", v₄)])) = true ↔
        metaSection own = true ∧ orNull stacksSection v₁ = true ∧
          orNull objectsSection v₂ = true ∧ orNull gcSection v₃ = true ∧
          orNull fdsSection v₄ = true := by
  refine object_obj.trans ?_
  simp [keys, header, Dict.get?, const, schemaVersion]

variable [IsoFormat]

/-- **The document of a target validates as far as it is documented**: for an ordinary
target, exactly the listed conditions decide. -/
theorem snapshot_iff (probe : Probe) (sources : Registry.BuiltinSources) (isMasked : Bool)
    (target : Target ε α) (hordinary : target.Ordinary isMasked) {payload : Json}
    (h : Driver.Collects (Registry.builtinCollectors sources) (target.world isMasked) payload) :
    ∃ ms doc, payload.reread = .obj ms ∧
      document probe.prober probe.pid ms (.finite probe.elapsedMs) = .ok doc ∧
      (snapshot (.obj doc) = true ↔ Documented probe isMasked target) := by
  obtain ⟨ms, k, entries, sections, hms, hdoc, hfilled, hreported⟩ :=
    Driver.document_of_collects (plainNames_builtin sources) h probe.prober probe.pid
      (.finite probe.elapsedMs)
  refine ⟨ms, _, hms, hdoc, ?_⟩
  simp only [Registry.builtinCollectors, List.forall₂_cons_left_iff,
    List.forall₂_nil_left_iff] at hfilled
  obtain ⟨_, _, ⟨u₁, h₁, rfl⟩, ⟨_, _, ⟨u₂, h₂, rfl⟩, ⟨_, _, ⟨u₃, h₃, rfl⟩,
    ⟨_, _, ⟨u₄, h₄, rfl⟩, rfl, rfl⟩, rfl⟩, rfl⟩, rfl⟩ := hfilled
  have hstop : 0 ≤ (target.clock.reading k - target.clock.reading 0) * 1000 :=
    mul_nonneg (sub_nonneg.2 (target.clock.monotone (Nat.zero_le k))) (by norm_num)
  have hentries : ∀ r ∈ entries, collectorReport r = true := by
    intro r hr
    obtain ⟨c, -, hc⟩ := exists_of_forall₂ hreported.flip hr
    exact collectorReport_reported target.clock.monotone (hordinary.named c) hc
  have hmeta := metaSection_builtMeta probe.prober target.info probe.pid_pos
    probe.elapsedMs_nonneg hstop hentries
  refine snapshot_sections.trans ((and_congr hmeta
    (and_congr (orNull_stacks hordinary.locals h₁) Iff.rfl)).trans ?_)
  constructor
  · rintro ⟨⟨hprober, htarget⟩, hthreads, -⟩
    exact ⟨hprober, htarget, hthreads⟩
  · rintro ⟨hprober, htarget, hthreads⟩
    exact ⟨⟨hprober, htarget⟩, hthreads,
      orNull_of_fills (fun v => objectsSection_outcome hordinary.types) h₂,
      orNull_of_fills (fun v => gcSection_outcome) h₃,
      orNull_of_fills (fun v => fdsSection_outcome) h₄⟩

/-- What validates is documented. -/
theorem Validates.documented {probe : Probe} {sources : Registry.BuiltinSources} {isMasked : Bool}
    {target : Target ε α} (hordinary : target.Ordinary isMasked)
    (h : Validates probe sources isMasked target) : Documented probe isMasked target := by
  obtain ⟨⟨payload, hpayload⟩, hall⟩ := h
  obtain ⟨ms, doc, hms, hdoc, hvalid⟩ := hall payload hpayload
  obtain ⟨ms', doc', hms', hdoc', hiff⟩ :=
    snapshot_iff probe sources isMasked target hordinary hpayload
  obtain rfl := Json.obj.inj (hms.symm.trans hms')
  obtain rfl := Except.ok.inj (hdoc.symm.trans hdoc')
  exact hiff.1 hvalid

/-- **Snapshots validate as far as they are documented.**  For every state of a
target whose types have strings for names and whose locals are rendered as strings,
any of the built-in collectors raising an `Exception` that can be rendered, the
document passes the schema if and only if both interpreters know their executable
and, unless the stacks collector raised, every thread it returns has a name that is
a string or `None`, a daemon flag that is a `bool` or `None`, and a line for each
listed frame. -/
theorem validates_iff (probe : Probe) (sources : Registry.BuiltinSources) (isMasked : Bool)
    (target : Target ε α) (hordinary : target.Ordinary isMasked) :
    Validates probe sources isMasked target ↔ Documented probe isMasked target := by
  refine ⟨Validates.documented hordinary, fun hdocumented => ⟨?_, fun payload hpayload => ?_⟩⟩
  · obtain ⟨script, hscript⟩ : ∃ script,
        composeCollectorSource (Registry.builtinCollectors sources) = .ok script :=
      ⟨_, composeCollectorSource_eq_ok.2
        ⟨List.cons_ne_nil _ _, Registry.nodup_builtinCollectors sources, rfl⟩⟩
    obtain ⟨specs, payload, hlink, hpayload⟩ := Driver.collected_of_compose hscript
      (plainNames_builtin sources) fun c _ => hordinary.fills c
    exact ⟨payload, script, specs, hscript, hlink, hpayload⟩
  · obtain ⟨ms, doc, hms, hdoc, hiff⟩ :=
      snapshot_iff probe sources isMasked target hordinary hpayload
    exact ⟨ms, doc, hms, hdoc, hiff.2 hdocumented⟩

end

/-- A clock that ticks. -/
def ticking : Clock := ⟨fun i => i, Nat.mono_cast⟩

/-- A probe of process 1. -/
def sampleProbe : @Probe ⟨fun _ => none⟩ :=
  @Probe.mk ⟨fun _ => none⟩ plainProber 1 ticking le_rfl

/-- The statistics of a generation. -/
def sampleRow (collections : ℤ) : GcStats.Row where
  stats := [(py "collections", .int collections), (py "collected", .int 0),
    (py "uncollectable", .int 0)]
  own := by simp [GcStats.addedKeys]
  integers key _ v hv := by
    simp only [List.mem_cons, Prod.mk.injEq, List.not_mem_nil, or_false] at hv
    rcases hv with ⟨-, rfl⟩ | ⟨-, rfl⟩ | ⟨-, rfl⟩ <;> exact ⟨_, rfl⟩

/-- A target of one thread in one frame, with a terminal on descriptor 0 and a heap of one
dictionary. -/
def sampleTarget (executable : Option PyStr) : Target ExcData Tree where
  clock := ticking
  info := ⟨1, py "3.14.0", py "cpython", py "linux", executable⟩
  readStacks := .ok
    { active := .ok [(7, .str (py "MainThread"), .bool false)]
      mainIdent := some 7
      targetFrames := [(7, [⟨py "app.py", some 3, py "<module>", .ok []⟩])] }
  readObjects := .ok (.named [some ⟨some (py "builtins"), py "dict"⟩])
  readGc := .ok ⟨true, [1, 2, 3], [700, 10, 10], [sampleRow 5, sampleRow 1, sampleRow 0], 0, 0⟩
  readFds := .ok
    { platform := py "linux"
      isdir := fun path => path = Fds.linuxFdDir
      listdir := fun _ => [py "0"]
      int := fun name => if name = py "0" then some 0 else none
      fstat := fun fd => if fd = 0 then some ⟨0o020620, 3, 0⟩ else none
      readlink := fun _ => some (py "/dev/pts/0")
      isatty := fun fd => fd = 0
      hasSoDomain := true
      hasDefaultTimeout := false
      wrapped := fun _ => none
      fstat_neg := fun fd hneg => if_neg (by omega) }
  overflow := .plain (py "OverflowError") (py "Python int too large to convert to C int")

/-- The sample target is an ordinary one, with an executable or without. -/
theorem ordinary_sampleTarget (executable : Option PyStr) :
    letI := Unicode.fullwidth
    (sampleTarget executable).Ordinary true := by
  let _ := Unicode.fullwidth
  refine ⟨fun entry hentry exc hexc => ?_, fun outcome => nofun, ?_⟩
  · simp only [Target.outcomes, List.mem_cons, List.not_mem_nil, or_false] at hentry
    rcases hentry with rfl | rfl | rfl | rfl
    · exact nomatch hexc
    · exact nomatch hexc
    · exact nomatch hexc
    · exact nomatch hexc
  · rintro w hw t ht f hf pairs hpairs pair hpair
    obtain rfl := Except.ok.inj hw
    obtain rfl := List.mem_singleton.1 ht
    obtain rfl := List.mem_singleton.1 hf
    obtain rfl := Option.some.inj (Except.ok.inj hpairs)
    cases hpair

/-- A healthy target that has an executable: its document passes the schema. -/
theorem validates_iff_sample :
    letI := Unicode.fullwidth
    letI : IsoFormat := ⟨fun _ => none⟩
    Validates sampleProbe Registry.someSources true (sampleTarget (some (py "/usr/bin/python3"))) ↔
      Documented sampleProbe true (sampleTarget (some (py "/usr/bin/python3"))) := by
  let _ := Unicode.fullwidth
  let _ : IsoFormat := ⟨fun _ => none⟩
  exact validates_iff sampleProbe Registry.someSources true _ (ordinary_sampleTarget _)

/-- The `executable` of such a target is `null`, and nothing else is odd about it: the
document does not pass its schema. -/
theorem no_executable_not_valid :
    letI := Unicode.fullwidth
    letI : IsoFormat := ⟨fun _ => none⟩
    (sampleTarget none).Ordinary true ∧
      ¬Validates sampleProbe Registry.someSources true (sampleTarget none) := by
  let _ := Unicode.fullwidth
  let _ : IsoFormat := ⟨fun _ => none⟩
  refine ⟨ordinary_sampleTarget none, fun h => ?_⟩
  exact absurd (h.documented (ordinary_sampleTarget none)).targetExecutable (by decide)

end Conformance
end Pidprobe
