/-
# Discovery of plugins

`registry.py`: the collectors published in an entry point group are loaded in the
order of their entry point names, and a collector is left out when its section
name is taken.  `available_collectors` offers them after the built-in collectors.

A name is taken when the same string was claimed before.  The function that fills
a section, though, is found under the NFKC-normalised name, and two strings can
have one normal form: a plugin that claims the name `gc` in fullwidth letters is
listed as a section of its own, and the section `gc` runs its source.
`noHijack_iff` says that no other plugin changes which function the name of a section is
bound to; a snippet that writes to the names of the script while it runs is left out.
-/

import Mathlib.Data.List.Sort
import Pidprobe.Collectors.Base
import Pidprobe.Target.Tree

namespace Pidprobe
namespace Registry

/-! ## What an entry point publishes -/

/-- The object an entry point resolves to: its class, and the outcome of reading
each attribute of the contract, `none` where it is missing or no string. -/
structure Candidate (ε : Type) where
  typeName : PyStr
  name : Except ε (Option PyStr)
  source : Except ε (Option PyStr)
  description : Except ε (Option PyStr)

/-- A loaded entry point: a collector, or a callable returning one. What calling it comes to
is the plugin's. -/
inductive Published (ε : Type)
  | object (candidate : Candidate ε)
  | callable (call : Except ε (Candidate ε))

/-- One entry point of the group. Loading it imports the plugin, so it may raise anything. -/
structure EntryPoint (ε : Type) where
  name : PyStr
  value : PyStr
  /-- `entry_point.load()`. -/
  load : Except ε (Published ε)

section

variable [Unicode] {ε : Type}

/-- `_string_attribute`; on the left what the plugin's own code raises, on the right the
`TypeError` for what is no string. -/
def stringAttribute (candidate : Candidate ε) (field : PyStr)
    (value : Except ε (Option PyStr)) : Except (ε ⊕ PyError) PyStr :=
  match value with
  | .error exc => .error (.inl exc)
  | .ok (some text) => .ok text
  | .ok none => .error (.inr (.typeError (py "a collector must carry a string " ++
      reprStr field ++ py ", which " ++ candidate.typeName ++ py " does not")))

/-- What the prober's own code raises, as the other kind of exception. -/
def own {β : Type} (x : Except PyError β) : Except (ε ⊕ PyError) β :=
  match x with
  | .ok b => .ok b
  | .error exc => .error (.inr exc)

/-- What the plugin's code raises. -/
def foreign {β : Type} (x : Except ε β) : Except (ε ⊕ PyError) β :=
  match x with
  | .ok b => .ok b
  | .error exc => .error (.inl exc)

/-- `_as_collector`; `compiles` is Python's compiler. The composition of the one collector
is compiled before it is accepted. -/
def asCollector (compiles : Composition → Bool) (published : Published ε) :
    Except (ε ⊕ PyError) Collector := do
  let resolved ← match published with
    | .callable call => foreign call
    | .object candidate => .ok candidate
  let name ← stringAttribute resolved (py "name") resolved.name
  let source ← stringAttribute resolved (py "source") resolved.source
  let description ← stringAttribute resolved (py "description") resolved.description
  let collector ← own (Collector.new name source description)
  let script ← own (composeCollectorSource [collector])
  if compiles script then .ok collector else .error (.inr .syntaxError)

variable [PyException ε]

/-- `_load`; the prober's own exceptions all derive from `Exception`. One of the plugin's
that does not is raised on. -/
def load (compiles : Composition → Bool) (point : EntryPoint ε) :
    Except ε (Option Collector) :=
  match (do let published ← foreign point.load; asCollector compiles published) with
  | .ok collector => .ok (some collector)
  | .error (.inr _) => .ok none
  | .error (.inl exc) => if PyException.isException exc then .ok none else .error exc

/-- The comprehension over the sorted entry points. Those that cannot be loaded are left
out, and the first exception that is raised on ends it. -/
def loadAll (compiles : Composition → Bool) : List (EntryPoint ε) → Except ε (List Collector)
  | [] => .ok []
  | point :: points => do
    let collector ← load compiles point
    let rest ← loadAll compiles points
    .ok (collector.toList ++ rest)

/-- `sorted(entry_points(group=group), key=lambda point: point.name)`, a stable sort: equal
names stay in the order of installation. -/
def byName (points : List (EntryPoint ε)) : List (EntryPoint ε) :=
  points.mergeSort fun p q => p.name ≤ q.name

omit [PyException ε] in
/-- `_accepted`: a collector whose name is taken is skipped, and the others take theirs. -/
def accepted : List Collector → List PyStr → List Collector
  | [], _ => []
  | collector :: rest, taken =>
    if collector.name ∈ taken then accepted rest taken
    else collector :: accepted rest (collector.name :: taken)

/-- `discover_collectors`: what loads, in the order of the entry points' names, and of
each section name the first. -/
def discoverCollectors (compiles : Composition → Bool) (points : List (EntryPoint ε)) :
    Except ε (List Collector) := do
  let loaded ← loadAll compiles (byName points)
  .ok (accepted loaded [])

/-- The sources of the built-in collectors. Discovery reads them only to compose and
compile. -/
structure BuiltinSources where
  stacksSource : PyStr
  objectsSource : PyStr
  gcSource : PyStr
  fdsSource : PyStr

omit [PyException ε] in
/-- A collector under an ASCII name, for which being an identifier can be decided. -/
def builtin (name source description : PyStr) (ha : ∀ c ∈ name, IsAscii c)
    (hi : asciiIdentifier name = true) (hr : name ∉ reservedSectionNames) : Collector :=
  ⟨name, source, description, (Unicode.isIdentifier_ascii name ha).trans hi, hr⟩

/-- `BUILTIN_COLLECTORS`, in their documented order. -/
def builtinCollectors (sources : BuiltinSources) : List Collector :=
  [builtin (py "stacks") sources.stacksSource
      (py "Per-thread call stacks with file, line, function and locals")
      (ascii_py (by decide)) (by decide) (by decide),
    builtin (py "objects") sources.objectsSource
      (py "Counts of GC-tracked objects grouped by type, top N by count")
      (ascii_py (by decide)) (by decide) (by decide),
    builtin (py "gc") sources.gcSource
      (py "Garbage collector counts, thresholds and per-generation stats")
      (ascii_py (by decide)) (by decide) (by decide),
    builtin (py "fds") sources.fdsSource
      (py "Open file descriptors and sockets, with kind and target")
      (ascii_py (by decide)) (by decide) (by decide)]

/-- `available_collectors`: the built-in collectors, then the discovered ones whose names
are not built in. -/
def availableCollectors (sources : BuiltinSources) (compiles : Composition → Bool)
    (points : List (EntryPoint ε)) : Except ε (List Collector) := do
  let discovered ← discoverCollectors compiles points
  let builtin := builtinCollectors sources
  .ok (builtin ++ accepted discovered (builtin.map Collector.name))

end

/-! ## Who owns a section name -/

section

variable [Unicode]

/-- The first candidate to claim its section name, names compared as they are spelt. -/
def Owner (candidates : List Collector) (c : Collector) : Prop :=
  candidates.find? (fun d => d.name = c.name) = some c

/-- The owner of a name is one of the candidates. -/
theorem Owner.mem {candidates : List Collector} {c : Collector} (h : Owner candidates c) :
    c ∈ candidates :=
  List.mem_of_find?_eq_some h

/-- Where names do not repeat, everyone owns its name. -/
theorem owner_of_mem {candidates : List Collector}
    (hn : (candidates.map Collector.name).Nodup) {c : Collector} (hc : c ∈ candidates) :
    Owner candidates c := by
  induction candidates with
  | nil => cases hc
  | cons d rest ih =>
    obtain ⟨hd, hn⟩ := List.nodup_cons.1 hn
    rw [Owner, List.find?_cons]
    rcases List.mem_cons.1 hc with rfl | hc
    · simp
    · have hne : d.name ≠ c.name := fun h => hd (h ▸ List.mem_map_of_mem hc)
      simp only [hne, decide_false]
      exact ih hn hc

/-- In two lists, a name is owned in the first, or in the second where the first has no
such name. -/
theorem owner_append {xs ys : List Collector} {c : Collector} :
    Owner (xs ++ ys) c ↔ Owner xs c ∨ c.name ∉ xs.map Collector.name ∧ Owner ys c := by
  unfold Owner
  rw [List.find?_append]
  cases hx : xs.find? (fun d => d.name = c.name) with
  | none =>
    have hnot : c.name ∉ xs.map Collector.name := by
      intro h
      obtain ⟨d, hd, hdc⟩ := List.mem_map.1 h
      exact List.find?_eq_none.1 hx d hd (decide_eq_true hdc)
    simp only [Option.none_or, hnot, not_false_eq_true, true_and, reduceCtorEq, false_or]
  | some d =>
    have hmem : c.name ∈ xs.map Collector.name := by
      have hd : d.name = c.name := by simpa using List.find?_some hx
      exact hd ▸ List.mem_map_of_mem (List.mem_of_find?_eq_some hx)
    simp only [Option.some_or, hmem, not_true_eq_false, false_and, or_false]

/-- `_accepted` yields the owners of the names that are not taken, and only those. -/
theorem mem_accepted {candidates : List Collector} {taken : List PyStr} {c : Collector} :
    c ∈ accepted candidates taken ↔ c.name ∉ taken ∧ Owner candidates c := by
  induction candidates generalizing taken with
  | nil => simp [accepted, Owner]
  | cons d rest ih =>
    rw [accepted, Owner, List.find?_cons]
    by_cases hdc : d.name = c.name
    · simp only [hdc, decide_true, Option.some.injEq]
      by_cases ht : c.name ∈ taken
      · rw [if_pos ht, ih]
        simp [ht]
      · rw [if_neg ht, List.mem_cons, ih]
        simp [ht, eq_comm]
    · simp only [hdc, decide_false]
      by_cases ht : d.name ∈ taken
      · rw [if_pos ht, ih, Owner]
      · have hne : c ≠ d := fun h => hdc (h ▸ rfl)
        rw [if_neg ht, List.mem_cons, ih, Owner]
        simp [hne, Ne.symm hdc]

/-- The accepted collectors have different names. -/
theorem nodup_accepted (candidates : List Collector) (taken : List PyStr) :
    ((accepted candidates taken).map Collector.name).Nodup := by
  induction candidates generalizing taken with
  | nil => exact List.nodup_nil
  | cons d rest ih =>
    rw [accepted]
    split_ifs with ht
    · exact ih taken
    · refine List.nodup_cons.2 ⟨fun h => ?_, ih _⟩
      obtain ⟨c, hc, hcd⟩ := List.mem_map.1 h
      exact (mem_accepted.1 hc).1 (hcd ▸ List.mem_cons_self ..)

/-- The built-in collectors have different names. -/
theorem nodup_builtinCollectors (sources : BuiltinSources) :
    ((builtinCollectors sources).map Collector.name).Nodup := by
  show [py "stacks", py "objects", py "gc", py "fds"].Nodup
  decide

variable {ε : Type} [PyException ε] {sources : BuiltinSources} {compiles : Composition → Bool}
  {points : List (EntryPoint ε)}

/-- What is offered: the built-in collectors, and behind them the loaded ones under names
that are free. -/
theorem availableCollectors_eq_ok {listed : List Collector} :
    availableCollectors sources compiles points = .ok listed ↔
      ∃ loaded, loadAll compiles (byName points) = .ok loaded ∧
        listed = builtinCollectors sources ++ accepted (accepted loaded [])
          ((builtinCollectors sources).map Collector.name) := by
  simp only [availableCollectors, discoverCollectors, bind_eq_ok, Except.ok.injEq]
  constructor
  · rintro ⟨_, ⟨loaded, hl, rfl⟩, rfl⟩
    exact ⟨loaded, hl, rfl⟩
  · rintro ⟨loaded, hl, rfl⟩
    exact ⟨_, ⟨loaded, hl, rfl⟩, rfl⟩

/-- The names of a snapshot's sections do not repeat. -/
theorem nodup_availableCollectors {listed : List Collector}
    (h : availableCollectors sources compiles points = .ok listed) :
    (listed.map Collector.name).Nodup := by
  obtain ⟨loaded, -, rfl⟩ := availableCollectors_eq_ok.1 h
  rw [List.map_append, List.nodup_append]
  refine ⟨nodup_builtinCollectors sources, nodup_accepted _ _, ?_⟩
  rintro _ ha _ hb rfl
  obtain ⟨c, hc, rfl⟩ := List.mem_map.1 hb
  exact (mem_accepted.1 hc).1 ha

/-- **The listed collectors are the owners of the section names** among the
built-in collectors and, behind them, the loaded plugins. -/
theorem mem_availableCollectors {listed loaded : List Collector}
    (h : availableCollectors sources compiles points = .ok listed)
    (hl : loadAll compiles (byName points) = .ok loaded) {c : Collector} :
    c ∈ listed ↔ Owner (builtinCollectors sources ++ loaded) c := by
  obtain ⟨loaded', hl', rfl⟩ := availableCollectors_eq_ok.1 h
  obtain rfl : loaded = loaded' := Except.ok.inj (hl.symm.trans hl')
  have hbuiltin : c ∈ builtinCollectors sources ↔ Owner (builtinCollectors sources) c :=
    ⟨owner_of_mem (nodup_builtinCollectors sources), Owner.mem⟩
  have hplugin : Owner (accepted loaded []) c ↔ Owner loaded c := by
    constructor
    · intro ho
      exact (mem_accepted.1 ho.mem).2
    · intro ho
      exact owner_of_mem (nodup_accepted _ _) (mem_accepted.2 ⟨List.not_mem_nil, ho⟩)
  rw [List.mem_append, mem_accepted, owner_append, hbuiltin, hplugin]

/-! ## Which source fills a section -/

/-- No section is taken over: in the script composed from the available
collectors, the function paired with each listed name has the body of the
collector that owns the name. -/
def NoHijack (sources : BuiltinSources) (compiles : Composition → Bool)
    (points : List (EntryPoint ε)) : Prop :=
  ∀ listed, availableCollectors sources compiles points = .ok listed →
    ∃ script specs, composeCollectorSource listed = .ok script ∧ script.link = some specs ∧
      ∀ c ∈ listed, ∀ f, (c.name, f) ∈ specs → f.body = (sectionFunction c).body

/-- Owners of two section names whose functions have one normalised name have
the same body. -/
def FunctionsDistinct (sources : BuiltinSources) (compiles : Composition → Bool)
    (points : List (EntryPoint ε)) : Prop :=
  ∀ loaded, loadAll compiles (byName points) = .ok loaded →
    ∀ c d, Owner (builtinCollectors sources ++ loaded) c →
      Owner (builtinCollectors sources ++ loaded) d → functionName c = functionName d →
        (sectionFunction c).body = (sectionFunction d).body

/-- The composition of the available collectors, linked: every section has the function that
its name is bound to in the end. -/
theorem compose_availableCollectors {listed : List Collector}
    (h : availableCollectors sources compiles points = .ok listed) :
    ∃ script, composeCollectorSource listed = .ok script ∧ script.link =
      some (listed.map fun c => (c.name, sectionFunction (boundTo listed c))) := by
  have hne : listed ≠ [] := by
    obtain ⟨loaded, -, rfl⟩ := availableCollectors_eq_ok.1 h
    simp [builtinCollectors]
  have hscript := composeCollectorSource_eq_ok.2 ⟨hne, nodup_availableCollectors h, rfl⟩
  exact ⟨_, hscript, link_compose hscript⟩

/-- **No section is taken over, up to normalisation.**  Whatever plugins are
published, every listed section is filled by the source of its owner, the
built-in sections by the built-in sources, if and only if the owners of different
names have different functions once their names are normalised, or functions
with the same body. -/
theorem noHijack_iff (sources : BuiltinSources) (compiles : Composition → Bool)
    (points : List (EntryPoint ε)) :
    NoHijack sources compiles points ↔ FunctionsDistinct sources compiles points := by
  constructor
  · intro h loaded hl c d hc hd hcd
    obtain ⟨listed, havail⟩ : ∃ listed, availableCollectors sources compiles points = .ok listed :=
      ⟨_, availableCollectors_eq_ok.2 ⟨loaded, hl, rfl⟩⟩
    obtain ⟨script, specs, hs, hlink, hbody⟩ := h _ havail
    obtain rfl := Option.some.inj ((link_compose hs).symm.trans hlink)
    have hc := (mem_availableCollectors havail hl).2 hc
    have hd := (mem_availableCollectors havail hl).2 hd
    rw [← hbody c hc _ (List.mem_map_of_mem hc), ← hbody d hd _ (List.mem_map_of_mem hd),
      boundTo_congr hc hd hcd]
  · intro h listed havail
    obtain ⟨loaded, hl, -⟩ := availableCollectors_eq_ok.1 havail
    obtain ⟨script, hs, hlink⟩ := compose_availableCollectors havail
    refine ⟨script, _, hs, hlink, fun c hc f hf => ?_⟩
    obtain ⟨d, hd, hdf⟩ := List.mem_map.1 hf
    obtain ⟨hname, rfl⟩ := Prod.mk.inj hdf
    obtain rfl := List.inj_on_of_nodup_map (nodup_availableCollectors havail) hd hc hname
    obtain ⟨hb, hfun⟩ := boundTo_mem hd
    exact h loaded hl _ _ ((mem_availableCollectors havail hl).1 hb)
      ((mem_availableCollectors havail hl).1 hd) hfun

end

/-- The name `gc` in fullwidth letters, which NFKC turns into the ASCII ones. -/
def fullwidthName : PyStr := [Utf8.code 0xFF47, Utf8.code 0xFF43]

/-- A plugin of that name. -/
def fullwidthPlugin : @Collector Unicode.fullwidth :=
  @Collector.mk Unicode.fullwidth fullwidthName (py "data = 0") [] (by decide) (by decide)

/-- Its entry point, which loads and which discovery accepts. -/
def fullwidthPoint : EntryPoint ExcData where
  name := py "gc"
  value := py "fullwidth:COLLECTOR"
  load := .ok (.object
    { typeName := py "Collector"
      name := .ok (some fullwidthName)
      source := .ok (some (py "data = 0"))
      description := .ok (some []) })

/-- Sources of the built-in collectors, told apart by what they assign. -/
def someSources : BuiltinSources :=
  ⟨py "data = 1", py "data = 2", py "data = 3", py "data = 4"⟩

/-- The section `gc` runs the source of the plugin: both functions are bound to one name,
the plugin's last. -/
theorem fullwidth_name_hijacks :
    ¬@NoHijack Unicode.fullwidth ExcData _ someSources (fun _ => true) [fullwidthPoint] := by
  let _ := Unicode.fullwidth
  intro h
  have hl : loadAll (fun _ => true) (byName [fullwidthPoint]) = .ok [fullwidthPlugin] := by
    rw [byName, List.mergeSort_singleton]
    rfl
  have havail : availableCollectors someSources (fun _ => true) [fullwidthPoint] =
      .ok (builtinCollectors someSources ++ [fullwidthPlugin]) :=
    availableCollectors_eq_ok.2 ⟨_, hl, rfl⟩
  obtain ⟨script, specs, hs, hlink, hbody⟩ := h _ havail
  obtain rfl := Option.some.inj ((link_compose hs).symm.trans hlink)
  have hmem : (builtinCollectors someSources)[2] ∈
      builtinCollectors someSources ++ [fullwidthPlugin] :=
    List.mem_append_left _ (List.getElem_mem _)
  have hgc := hbody _ hmem _ (List.mem_map_of_mem hmem)
  exact absurd hgc (by decide +kernel)

end Registry
end Pidprobe
