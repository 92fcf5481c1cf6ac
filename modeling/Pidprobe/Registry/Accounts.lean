/-
# What becomes of the entry points

Discovery never raises; it logs what it leaves out.  An entry point is dropped in
one of three places: it does not load, its collector repeats the name of an
earlier one (`discover_collectors`), or the name of a built-in one
(`available_collectors`).  The last two share a generator with its own set of
names each, so a name that is both repeated and built in could be counted twice
or not at all.

`discovery_accounts`: every entry point is either included or has one record of
the log to itself.
-/

import Pidprobe.Lib.Logged
import Pidprobe.Lib.StableSort
import Pidprobe.Registry

namespace Pidprobe
namespace Registry

/-! ## The log -/

/-- A record of the `pidprobe.registry` logger, of one of the two calls in the module. -/
inductive Record
  /-- `_logger.exception`, in `_load`. -/
  | notLoaded (name value : PyStr)
  /-- `_logger.warning`, in `_accepted`. -/
  | nameTaken (name : PyStr)

/-- `record.getMessage()`. -/
def Record.message [Unicode] : Record → PyStr
  | .notLoaded name value => py "skipping collector plugin " ++ reprStr name ++ py " (" ++ value ++
      py "): it could not be loaded"
  | .nameTaken name => py "skipping collector plugin " ++ reprStr name ++
      py ": that section name is already taken"

/-- Every record has something to say. -/
theorem Record.message_ne_nil [Unicode] (record : Record) : record.message ≠ [] := by
  cases record <;> exact List.cons_ne_nil _ _

section

variable [Unicode] {ε : Type} [PyException ε] (compiles : Composition → Bool)

omit [PyException ε] in
/-- `_as_collector(entry_point.load())`. -/
def resolve (point : EntryPoint ε) : Except (ε ⊕ PyError) Collector := do
  let published ← foreign point.load
  asCollector compiles published

/-- `_load`, on record: an entry point that cannot be loaded is logged under its name and
value. -/
def loadLogged (point : EntryPoint ε) : Logged Record ε (Option Collector) :=
  match resolve compiles point with
  | .ok collector => pure (some collector)
  | .error (.inr _) => do
    .tell (.notLoaded point.name point.value)
    pure none
  | .error (.inl exc) =>
    if PyException.isException exc then do
      .tell (.notLoaded point.name point.value)
      pure none
    else .lift (.error exc)

/-- The comprehension over the sorted entry points. -/
def loadAllLogged : List (EntryPoint ε) → Logged Record ε (List Collector)
  | [] => pure []
  | point :: points => do
    let collector ← loadLogged compiles point
    let rest ← loadAllLogged points
    pure (collector.toList ++ rest)

omit [PyException ε] in
/-- `_accepted`, on record: a collector that is skipped is logged under its section name. -/
def acceptedLogged : List Collector → List PyStr → Logged Record ε (List Collector)
  | [], _ => pure []
  | collector :: rest, taken =>
    if collector.name ∈ taken then do
      .tell (.nameTaken collector.name)
      acceptedLogged rest taken
    else do
      let others ← acceptedLogged rest (collector.name :: taken)
      pure (collector :: others)

/-- `discover_collectors`. -/
def discoverCollectorsLogged (points : List (EntryPoint ε)) : Logged Record ε (List Collector) := do
  let loaded ← loadAllLogged compiles (byName points)
  acceptedLogged loaded []

/-- `available_collectors`. -/
def availableCollectorsLogged (sources : BuiltinSources) (points : List (EntryPoint ε)) :
    Logged Record ε (List Collector) := do
  let discovered ← discoverCollectorsLogged compiles points
  let builtin := builtinCollectors sources
  let plugins ← acceptedLogged discovered (builtin.map Collector.name)
  pure (builtin ++ plugins)

/-! ## The log leaves discovery as it is -/

/-- `_load` by what becomes of the entry point: a collector, nothing, or an exception that
is no `Exception`. -/
theorem load_eq (point : EntryPoint ε) : load compiles point =
    match resolve compiles point with
    | .ok collector => .ok (some collector)
    | .error (.inr _) => .ok none
    | .error (.inl exc) => if PyException.isException exc then .ok none else .error exc := rfl

/-- The logged `_load` loads what `_load` loads. -/
theorem outcome_loadLogged (point : EntryPoint ε) :
    (loadLogged compiles point).outcome = load compiles point := by
  rw [loadLogged, load_eq]
  rcases resolve compiles point with (exc | _) | collector
  · dsimp only
    split_ifs <;> rfl
  · rfl
  · rfl

/-- The logged comprehension loads what the comprehension loads. -/
theorem outcome_loadAllLogged (points : List (EntryPoint ε)) :
    (loadAllLogged compiles points).outcome = loadAll compiles points := by
  induction points with
  | nil => rfl
  | cons point points ih =>
    simp only [loadAllLogged, loadAll, Logged.outcome_bind, outcome_loadLogged, ih,
      Logged.outcome_pure]

/-- The records of the collectors that are left out, in the order in which they are
offered. -/
def rejected : List Collector → List PyStr → List Record
  | [], _ => []
  | collector :: rest, taken =>
    if collector.name ∈ taken then .nameTaken collector.name :: rejected rest taken
    else rejected rest (collector.name :: taken)

omit [PyException ε] in
/-- What `_accepted` yields and what it logs, of any candidates. -/
theorem acceptedLogged_eq (candidates : List Collector) (taken : List PyStr) :
    (acceptedLogged candidates taken : Logged Record ε _) =
      ⟨.ok (accepted candidates taken), rejected candidates taken⟩ := by
  induction candidates generalizing taken with
  | nil => rfl
  | cons collector rest ih =>
    rw [acceptedLogged, accepted, rejected]
    split_ifs
    · rw [ih]
      rfl
    · rw [ih]
      exact Logged.ext rfl (List.append_nil _)

/-- **The logged discovery is the discovery**: forgetting the records gives
`availableCollectors` back. -/
theorem outcome_availableCollectorsLogged (sources : BuiltinSources)
    (points : List (EntryPoint ε)) :
    (availableCollectorsLogged compiles sources points).outcome =
      availableCollectors sources compiles points := by
  simp only [availableCollectorsLogged, discoverCollectorsLogged, availableCollectors,
    discoverCollectors, Logged.outcome_bind, outcome_loadAllLogged, acceptedLogged_eq,
    Logged.outcome_pure, ok_bind]

/-! ## The fate of an entry point -/

/-- An entry point that raises raises an `Exception`. Any other exception, such as
`SystemExit`, ends the discovery. -/
def Ordinary (point : EntryPoint ε) : Prop :=
  ∀ exc, resolve compiles point = .error (.inl exc) → PyException.isException exc = true

/-- The collector of an entry point that loads, `none` where it is logged and left out. -/
def collectorOf (point : EntryPoint ε) : Option Collector :=
  match load compiles point with
  | .ok collector => collector
  | .error _ => none

/-- The collector of an entry point joins the snapshot, or a record says why not. There is
no third. -/
inductive Fate
  | included (collector : Collector)
  | skipped (record : Record)

/-- The collector of an entry point that is included. -/
def Fate.collector? : Fate → Option Collector
  | .included collector => some collector
  | .skipped _ => none

/-- The record of an entry point that is skipped. -/
def Fate.record? : Fate → Option Record
  | .included _ => none
  | .skipped record => some record

/-- The fate of an entry point where these names are built in and those were
loaded before. -/
def fateOf (builtin seen : List PyStr) (point : EntryPoint ε) : Fate :=
  match collectorOf compiles point with
  | none => .skipped (.notLoaded point.name point.value)
  | some collector =>
    if collector.name ∈ builtin ∨ collector.name ∈ seen then .skipped (.nameTaken collector.name)
    else .included collector

/-- The names these entry points load. -/
def loadedNames (points : List (EntryPoint ε)) : List PyStr :=
  (points.filterMap (collectorOf compiles)).map Collector.name

/-- The fates of entry points, one after the other, each with the names that those before it
have loaded. -/
def fates (builtin : List PyStr) : List PyStr → List (EntryPoint ε) → List Fate
  | _, [] => []
  | seen, point :: points => fateOf compiles builtin seen point ::
      fates builtin (seen ++ loadedNames compiles [point]) points

/-- Every entry point has one fate. -/
theorem length_fates (builtin seen : List PyStr) (points : List (EntryPoint ε)) :
    (fates compiles builtin seen points).length = points.length := by
  induction points generalizing seen with
  | nil => rfl
  | cons point points ih => rw [fates, List.length_cons, List.length_cons, ih]

/-- The fate of the entry point behind these. -/
theorem getElem?_fates (builtin seen : List PyStr) (before after : List (EntryPoint ε))
    (point : EntryPoint ε) :
    (fates compiles builtin seen (before ++ point :: after))[before.length]? =
      some (fateOf compiles builtin (seen ++ loadedNames compiles before) point) := by
  induction before generalizing seen with
  | nil => simp [fates, loadedNames]
  | cons p before ih =>
    rw [List.cons_append, fates, List.length_cons, List.getElem?_cons_succ, ih, List.append_assoc]
    simp only [loadedNames, ← List.map_append, ← List.filterMap_append, List.singleton_append]

variable {compiles}

/-- An ordinary entry point loads a collector, or is logged. -/
theorem loadLogged_eq {point : EntryPoint ε} (h : Ordinary compiles point) :
    loadLogged compiles point = ⟨.ok (collectorOf compiles point),
      if (collectorOf compiles point).isSome then [] else [.notLoaded point.name point.value]⟩ := by
  rw [Ordinary] at h
  rw [loadLogged, collectorOf, load_eq]
  rcases hr : resolve compiles point with (exc | _) | collector
  · simp only [h exc hr, if_true]
    rfl
  · rfl
  · rfl

/-- One more entry point in front: its collector in front of the others, or its record in
front of the log. -/
theorem loadAllLogged_cons {point : EntryPoint ε} {points : List (EntryPoint ε)}
    {loaded : List Collector} {log : List Record} (h : Ordinary compiles point)
    (hl : loadAllLogged compiles points = ⟨.ok loaded, log⟩) :
    loadAllLogged compiles (point :: points) =
      ⟨.ok ((collectorOf compiles point).toList ++ loaded),
        (if (collectorOf compiles point).isSome then []
          else [.notLoaded point.name point.value]) ++ log⟩ := by
  rw [loadAllLogged, loadLogged_eq h, hl]
  refine Logged.ext rfl ?_
  exact congrArg (_ ++ ·) (List.append_nil log)

/-- **The two sets of names.**  `claimed` are the names the first generator has
claimed, those loaded so far; on a name not among them, `taken`, the set of the
second, is what is built in. -/
structure NameSets (builtin seen claimed taken : List PyStr) : Prop where
  claimed_iff : ∀ n, n ∈ claimed ↔ n ∈ seen
  taken_iff : ∀ n, n ∉ seen → (n ∈ taken ↔ n ∈ builtin)

namespace NameSets

variable {builtin seen claimed taken : List PyStr} {name : PyStr}

omit [Unicode] in
/-- The first generator claims a name, and the second does not. -/
theorem claim (h : NameSets builtin seen claimed taken) (name : PyStr) :
    NameSets builtin (seen ++ [name]) (name :: claimed) taken where
  claimed_iff n := by
    rw [List.mem_cons, h.claimed_iff, List.mem_append, List.mem_singleton, or_comm]
  taken_iff n hn := h.taken_iff n fun hs => hn (List.mem_append_left _ hs)

omit [Unicode] in
/-- A name that was loaded before is claimed already. -/
theorem repeated (h : NameSets builtin seen claimed taken) (hseen : name ∈ seen) :
    NameSets builtin (seen ++ [name]) claimed taken where
  claimed_iff n := by
    rw [← (h.claim name).claimed_iff, List.mem_cons, or_iff_right_of_imp]
    rintro rfl
    exact (h.claimed_iff _).2 hseen
  taken_iff := (h.claim name).taken_iff

omit [Unicode] in
/-- Both generators claim a name. -/
theorem add (h : NameSets builtin seen claimed taken) (name : PyStr) :
    NameSets builtin (seen ++ [name]) (name :: claimed) (name :: taken) where
  claimed_iff := (h.claim name).claimed_iff
  taken_iff n hn := by
    rw [List.mem_cons, or_iff_right, (h.claim name).taken_iff n hn]
    rintro rfl
    exact hn (List.mem_append_right _ (List.mem_singleton_self _))

end NameSets

/-- The two generators make of the loaded collectors what the fates say: the same collectors
in order, and the same records in some order. -/
structure Agrees (loaded : List Collector) (log : List Record) (claimed taken : List PyStr)
    (fates : List Fate) : Prop where
  collectors : accepted (accepted loaded claimed) taken = fates.filterMap Fate.collector?
  records : (log ++ rejected loaded claimed ++ rejected (accepted loaded claimed) taken).Perm
    (fates.filterMap Fate.record?)

namespace Agrees

variable {loaded : List Collector} {log : List Record} {claimed taken : List PyStr}
  {fates : List Fate} {c : Collector}

/-- An entry point that is not loaded has its record, and changes nothing else. -/
theorem notLoaded (h : Agrees loaded log claimed taken fates) (record : Record) :
    Agrees loaded (record :: log) claimed taken (.skipped record :: fates) :=
  ⟨h.collectors, h.records.cons _⟩

/-- The first generator leaves the collector out. -/
theorem repeated (h : Agrees loaded log claimed taken fates) (hmem : c.name ∈ claimed) :
    Agrees (c :: loaded) log claimed taken (.skipped (.nameTaken c.name) :: fates) where
  collectors := by
    rw [accepted, if_pos hmem]
    exact h.collectors
  records := by
    rw [accepted, rejected, if_pos hmem, if_pos hmem, List.append_assoc, List.cons_append]
    refine List.perm_middle.trans ?_
    rw [← List.append_assoc]
    exact h.records.cons _

/-- The first generator lets the collector through, and the second does not, since a
built-in collector has its name. -/
theorem refused (h : Agrees loaded log (c.name :: claimed) taken fates)
    (hnew : c.name ∉ claimed) (hmem : c.name ∈ taken) :
    Agrees (c :: loaded) log claimed taken (.skipped (.nameTaken c.name) :: fates) where
  collectors := by
    rw [accepted, if_neg hnew, accepted, if_pos hmem]
    exact h.collectors
  records := by
    rw [accepted, rejected, if_neg hnew, if_neg hnew, rejected, if_pos hmem]
    exact List.perm_middle.trans (h.records.cons _)

/-- Both let it through. -/
theorem included (h : Agrees loaded log (c.name :: claimed) (c.name :: taken) fates)
    (hnew : c.name ∉ claimed) (hfree : c.name ∉ taken) :
    Agrees (c :: loaded) log claimed taken (.included c :: fates) where
  collectors := by
    rw [accepted, if_neg hnew, accepted, if_neg hfree]
    exact congrArg (c :: ·) h.collectors
  records := by
    rw [accepted, rejected, if_neg hnew, if_neg hnew, rejected, if_neg hfree]
    exact h.records

end Agrees

/-- What loads, the two generators sort as the fates say, by induction over the entry
points. -/
theorem loadAllLogged_agrees {builtin seen claimed taken : List PyStr}
    {points : List (EntryPoint ε)} (h : ∀ point ∈ points, Ordinary compiles point)
    (hsets : NameSets builtin seen claimed taken) :
    ∃ loaded log, loadAllLogged compiles points = ⟨.ok loaded, log⟩ ∧
      Agrees loaded log claimed taken (fates compiles builtin seen points) := by
  induction points generalizing seen claimed taken with
  | nil => exact ⟨[], [], rfl, rfl, .refl _⟩
  | cons point points ih =>
    obtain ⟨hpoint, hpoints⟩ := List.forall_mem_cons.1 h
    rw [fates, fateOf]
    rcases hc : collectorOf compiles point with _ | c
    · have hnames : loadedNames compiles [point] = [] := by simp [loadedNames, hc]
      rw [hnames, List.append_nil]
      obtain ⟨loaded, log, hl, hagrees⟩ := ih hpoints hsets
      refine ⟨loaded, _, ?_, hagrees.notLoaded _⟩
      rw [loadAllLogged_cons hpoint hl, hc]
      rfl
    have hnames : loadedNames compiles [point] = [c.name] := by simp [loadedNames, hc]
    have hload : ∀ {loaded log}, loadAllLogged compiles points = ⟨.ok loaded, log⟩ →
        loadAllLogged compiles (point :: points) = ⟨.ok (c :: loaded), log⟩ := fun hl => by
      rw [loadAllLogged_cons hpoint hl, hc]
      rfl
    rw [hnames]
    dsimp only
    by_cases hseen : c.name ∈ seen
    · obtain ⟨loaded, log, hl, hagrees⟩ := ih hpoints (hsets.repeated hseen)
      rw [if_pos (.inr hseen)]
      exact ⟨_, _, hload hl, hagrees.repeated ((hsets.claimed_iff _).2 hseen)⟩
    have hnew : c.name ∉ claimed := mt (hsets.claimed_iff _).1 hseen
    by_cases hbuiltin : c.name ∈ builtin
    · obtain ⟨loaded, log, hl, hagrees⟩ := ih hpoints (hsets.claim c.name)
      rw [if_pos (.inl hbuiltin)]
      exact ⟨_, _, hload hl, hagrees.refused hnew ((hsets.taken_iff _ hseen).2 hbuiltin)⟩
    · obtain ⟨loaded, log, hl, hagrees⟩ := ih hpoints (hsets.add c.name)
      rw [if_neg (not_or.2 ⟨hbuiltin, hseen⟩)]
      exact ⟨_, _, hload hl, hagrees.included hnew (mt (hsets.taken_iff _ hseen).1 hbuiltin)⟩

/-- A fate is an inclusion or a record, and not both. -/
theorem length_filterMap_fates (fates : List Fate) :
    (fates.filterMap Fate.collector?).length + (fates.filterMap Fate.record?).length =
      fates.length := by
  induction fates with
  | nil => rfl
  | cons fate fates ih =>
    cases fate with
    | included c =>
      simp only [List.filterMap_cons, Fate.collector?, Fate.record?, List.length_cons]
      omega
    | skipped record =>
      simp only [List.filterMap_cons, Fate.collector?, Fate.record?, List.length_cons]
      omega

variable (compiles)

/-- An entry point behind others loads this collector under a name that is not
built in and that none of the others has loaded. -/
def Claims (builtin : List PyStr) (before : List (EntryPoint ε)) (point : EntryPoint ε)
    (c : Collector) : Prop :=
  collectorOf compiles point = some c ∧ c.name ∉ builtin ∧
    ∀ q ∈ before, ∀ d, collectorOf compiles q = some d → d.name ≠ c.name

/-- A record that says why an entry point is left out: it did not load, or the name of its
collector is taken. -/
inductive Explains (point : EntryPoint ε) : Record → Prop
  | notLoaded (h : collectorOf compiles point = none) :
    Explains point (.notLoaded point.name point.value)
  | nameTaken {c : Collector} (h : collectorOf compiles point = some c) :
    Explains point (.nameTaken c.name)

variable {compiles}

/-- A name is loaded where some entry point publishes a collector of that name. -/
theorem mem_loadedNames {points : List (EntryPoint ε)} {n : PyStr} :
    n ∈ loadedNames compiles points ↔
      ∃ q ∈ points, ∃ d, collectorOf compiles q = some d ∧ d.name = n := by
  simp only [loadedNames, List.mem_map, List.mem_filterMap]
  grind

/-- An entry point is included exactly when it claims its name: it loads, and no built-in
collector or earlier plugin has the name. -/
theorem fateOf_eq_included {builtin : List PyStr} {before : List (EntryPoint ε)}
    {point : EntryPoint ε} {c : Collector} :
    fateOf compiles builtin (loadedNames compiles before) point = .included c ↔
      Claims compiles builtin before point c := by
  unfold fateOf Claims
  rcases collectorOf compiles point with _ | d
  · simp
  · simp only [mem_loadedNames, Option.some.injEq]
    split_ifs with htaken
    · refine iff_of_false nofun ?_
      rintro ⟨rfl, hbuiltin, hfree⟩
      rcases htaken with hmem | ⟨q, hq, e, he, hname⟩
      · exact hbuiltin hmem
      · exact hfree q hq e he hname
    · rw [not_or] at htaken
      rw [Fate.included.injEq, iff_self_and]
      rintro rfl
      exact ⟨htaken.1, fun q hq e he hname => htaken.2 ⟨q, hq, e, he, hname⟩⟩

/-- An entry point is skipped for the reason its record gives. -/
theorem fateOf_eq_skipped {builtin seen : List PyStr} {point : EntryPoint ε} {record : Record}
    (h : fateOf compiles builtin seen point = .skipped record) :
    Explains compiles point record := by
  unfold fateOf at h
  rcases hc : collectorOf compiles point with _ | c <;> rw [hc] at h
  · obtain rfl := Fate.skipped.inj h
    exact .notLoaded hc
  · dsimp only at h
    split_ifs at h
    obtain rfl := Fate.skipped.inj h
    exact .nameTaken hc

/-- What discovery makes of the entry points: the plugins behind the built-in
collectors, and the records of the log. -/
structure Accounted (compiles : Composition → Bool) (sources : BuiltinSources)
    (points : List (EntryPoint ε)) (plugins : List Collector) (log : List Record) : Prop where
  nodup : (plugins.map Collector.name).Nodup
  notBuiltin : ∀ c ∈ plugins, c.name ∉ (builtinCollectors sources).map Collector.name
  byName : (byName points).Perm points ∧ (byName points).Pairwise fun p q => p.name ≤ q.name
  /-- Each entry point is included, where it claims its name, or has a record that
  explains why not; the plugins and the log are made of these. -/
  fates : ∃ fates : List Fate, fates.length = points.length ∧
    plugins = fates.filterMap Fate.collector? ∧ log.Perm (fates.filterMap Fate.record?) ∧
    ∀ before point after, Registry.byName points = before ++ point :: after →
      (∀ c, fates[before.length]? = some (.included c) ↔
        Claims compiles ((builtinCollectors sources).map Collector.name) before point c) ∧
      ∀ record, fates[before.length]? = some (.skipped record) → Explains compiles point record
  total : plugins.length + log.length = points.length

variable (compiles) in
/-- **No plugin is dropped silently.** Each entry point has its collector in the list or one
record that explains why not, and there are no other records. -/
theorem discovery_accounts (sources : BuiltinSources) (points : List (EntryPoint ε))
    (h : ∀ point ∈ points, Ordinary compiles point) :
    ∃ plugins log, availableCollectorsLogged compiles sources points =
        ⟨.ok (builtinCollectors sources ++ plugins), log⟩ ∧
      Accounted compiles sources points plugins log := by
  have hperm : (byName points).Perm points := List.mergeSort_perm _ _
  have hordinary : ∀ point ∈ byName points, Ordinary compiles point := fun point hmem =>
    h point (hperm.subset hmem)
  let builtin := (builtinCollectors sources).map Collector.name
  have hsets : NameSets builtin [] [] builtin := ⟨fun _ => .rfl, fun _ _ => .rfl⟩
  obtain ⟨loaded, log, hload, haccepted, hlog⟩ := loadAllLogged_agrees hordinary hsets
  have hlength := length_filterMap_fates (fates compiles builtin [] (byName points))
  rw [length_fates, hperm.length_eq, ← haccepted, ← hlog.length_eq] at hlength
  refine ⟨accepted (accepted loaded []) builtin,
    log ++ rejected loaded [] ++ rejected (accepted loaded []) builtin, ?_,
    nodup_accepted _ _, fun c hc => (mem_accepted.1 hc).1, ⟨hperm, ?_⟩,
    ⟨fates compiles builtin [] (byName points), ?_, haccepted, hlog, ?_⟩, hlength⟩
  · rw [availableCollectorsLogged, discoverCollectorsLogged, hload]
    simp only [Logged.bind_def, acceptedLogged_eq, Logged.outcome_pure, Logged.log_pure,
      List.append_nil]
    rfl
  · exact StableSort.pairwise_sortBy EntryPoint.name points
  · rw [length_fates, hperm.length_eq]
  · intro before point after hsplit
    have hfate := getElem?_fates compiles builtin [] before after point
    rw [← hsplit, List.nil_append] at hfate
    rw [hfate]
    simp only [Option.some.injEq]
    exact ⟨fun c => fateOf_eq_included, fun record => fateOf_eq_skipped⟩

end

/-- An entry point that publishes a collector of this name, as a module-level constant. -/
def publishing (entryPoint name : PyStr) : EntryPoint ExcData where
  name := entryPoint
  value := entryPoint ++ py ":COLLECTOR"
  load := .ok (.object
    { typeName := py "Collector"
      name := .ok (some name)
      source := .ok (some (py "data = 0"))
      description := .ok (some []) })

/-- An entry point of a package that is gone. -/
def brokenPoint : EntryPoint ExcData where
  name := py "broken"
  value := py "gone:COLLECTOR"
  load := .error (.plain (py "ModuleNotFoundError") (py "No module named 'gone'"))

/-- Entry points that are left out in each of the three places, and one that is
not. -/
def somePoints : List (EntryPoint ExcData) :=
  [publishing (py "second") (py "gc"), publishing (py "first") (py "gc"), brokenPoint,
    publishing (py "third") (py "pool")]

/-- An entry point of each fate: included, not loaded, refused for a built-in name and for a
repeated one. -/
theorem discovery_accounts_somePoints :
    letI := Unicode.fullwidth
    (∀ point ∈ somePoints, Ordinary (fun _ => true) point) ∧
      ∃ plugins log, availableCollectorsLogged (fun _ => true) someSources somePoints =
          ⟨.ok (builtinCollectors someSources ++ plugins), log⟩ ∧
        Accounted (fun _ => true) someSources somePoints plugins log := by
  let _ := Unicode.fullwidth
  have h : ∀ point ∈ somePoints, Ordinary (fun _ => true) point := by
    intro point hmem exc hexc
    simp only [somePoints, List.mem_cons, List.not_mem_nil, or_false] at hmem
    rcases hmem with rfl | rfl | rfl | rfl
    · cases hexc
    · cases hexc
    · obtain rfl := Sum.inl.inj (Except.error.inj hexc)
      rfl
    · cases hexc
  exact ⟨h, discovery_accounts (fun _ => true) someSources somePoints h⟩

end Registry
end Pidprobe
