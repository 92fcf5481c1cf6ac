/-
# Collectors and their composition

`collectors/_base.py`: a collector is a section name and a snippet of source;
`compose_collector_source` gives every snippet a function of its own, named after
the section, and a driver that lists `("name", function)` pairs.

Executing the composition binds the functions one after the other under the
identifiers the compiler sees, which are NFKC-normalised; the section names of
the pairs are string literals, which are not.  A later `def` of the same
normalised identifier replaces the earlier one (`link_compose`).
-/

import Pidprobe.Errors
import Pidprobe.Lib.Raises
import Pidprobe.Lib.TextWrap

namespace Pidprobe

/-- `RESERVED_SECTION_NAMES`: the members of a snapshot that are no section. -/
def reservedSectionNames : List PyStr := [py "meta", py "schema_version"]

/-- `SECTION_FUNCTION_PREFIX`, in front of the name of every generated function. -/
def sectionFunctionPrefix : PyStr := py "_pidprobe_section_"

/-- `_BODY_INDENT`. -/
def bodyIndent : PyStr := py "    "

variable [Unicode]

/-- One named section of a snapshot (`Collector`), with what `__post_init__`
checks. -/
@[ext] structure Collector where
  name : PyStr
  source : PyStr
  description : PyStr
  isIdentifier : Unicode.isIdentifier name = true
  notReserved : name ∉ reservedSectionNames

/-- `Collector(name, source, description)`. `__post_init__` checks the name, first as an
identifier and then against the reserved ones. -/
def Collector.new (name source description : PyStr) : Except PyError Collector :=
  if hi : Unicode.isIdentifier name = true then
    if hr : name ∈ reservedSectionNames then
      .error (.valueError (py "collector name " ++ reprStr name ++
        py " is reserved by the snapshot format"))
    else .ok ⟨name, source, description, hi, hr⟩
  else
    .error (.valueError (py "collector name must be an identifier, got " ++ reprStr name))

/-- The function `_section_function` renders for a collector, by its name and by the
collector whose snippet is its body. -/
structure SectionFunction where
  /-- Its name as the script spells it. -/
  identifier : PyStr
  collector : Collector

/-- Its body in front of `return data`: the source of the collector, dedented, stripped of
empty lines and indented again. -/
def SectionFunction.body (f : SectionFunction) : PyStr :=
  TextWrap.indent (TextWrap.stripNewlines (TextWrap.dedent f.collector.source)) bodyIndent

/-- `_section_function`. The name is spelt as the plugin spelt it; what it is bound as is
the compiler's business. -/
def sectionFunction (collector : Collector) : SectionFunction :=
  ⟨sectionFunctionPrefix ++ collector.name, collector⟩

/-- What `compose_collector_source` renders: the functions in the order of their
definition, and the entries of `_pidprobe_specs`, a section name and the
identifier of a function. -/
structure Composition where
  functions : List SectionFunction
  specs : List (PyStr × PyStr)

/-- `f"{names}"` of a list of strings. -/
def reprNames (names : List PyStr) : PyStr := py "[" ++ join (py ", ") (names.map reprStr) ++ py "]"

/-- `compose_collector_source`. The names are compared as they are spelt, and the list must
not be empty. -/
def composeCollectorSource (collectors : List Collector) : Except PyError Composition :=
  let names := collectors.map Collector.name
  if collectors.isEmpty then .error (.valueError (py "at least one collector is required"))
  else if ¬names.Nodup then
    .error (.valueError (py "collector names must be unique, got " ++ reprNames names))
  else .ok
    { functions := collectors.map sectionFunction
      specs := names.map fun name => (name, sectionFunctionPrefix ++ name) }

/-! ## What the names of the script are bound to -/

namespace Composition

/-- The local namespace after the `def`s: a function is bound under the NFKC form of its
name, and a later `def` replaces an earlier one. -/
def bindings (script : Composition) : List (PyStr × SectionFunction) :=
  Dict.ofPairs (script.functions.map fun f => (Unicode.nfkc f.identifier, f))

/-- The function a reference evaluates to, if the name is bound. The reference goes through
NFKC like the definition. -/
def lookup (script : Composition) (identifier : PyStr) : Option SectionFunction :=
  Dict.get? (Unicode.nfkc identifier) script.bindings

/-- The value of `_pidprobe_specs`, unless a name is unbound: every section with the
function its reference evaluates to. -/
def link (script : Composition) : Option (List (PyStr × SectionFunction)) :=
  script.specs.mapM fun (name, identifier) => (script.lookup identifier).map (name, ·)

end Composition

/-- The identifier of a collector's function as the compiler sees it, after NFKC. Two names
may have one such identifier. -/
def functionName (collector : Collector) : PyStr :=
  Unicode.nfkc (sectionFunctionPrefix ++ collector.name)

/-- The collector whose function the name of `collector`'s function is bound to:
the last one of the same normalised name. -/
def boundTo (collectors : List Collector) (collector : Collector) : Collector :=
  (collectors.reverse.find? fun c => functionName c = functionName collector).getD collector

/-- Among the collectors of a normalised name, the last one is found, as the last `def` of
a name wins. -/
theorem find?_functionName {collectors : List Collector} {c : Collector} (hc : c ∈ collectors) :
    (collectors.reverse.find? fun d => functionName d = functionName c) =
      some (boundTo collectors c) := by
  have hsome : (collectors.reverse.find? fun d => functionName d = functionName c).isSome := by
    rw [List.find?_isSome]
    exact ⟨c, List.mem_reverse.2 hc, decide_eq_true rfl⟩
  obtain ⟨b, hb⟩ := Option.isSome_iff_exists.1 hsome
  rw [boundTo, hb, Option.getD_some]

/-- The name is bound to the function of a listed collector with the same
normalised function name. -/
theorem boundTo_mem {collectors : List Collector} {c : Collector} (hc : c ∈ collectors) :
    boundTo collectors c ∈ collectors ∧ functionName (boundTo collectors c) = functionName c := by
  have hb := find?_functionName hc
  exact ⟨List.mem_reverse.1 (List.mem_of_find?_eq_some hb), by simpa using List.find?_some hb⟩

/-- Collectors that share a function name share the function. -/
theorem boundTo_congr {collectors : List Collector} {c d : Collector} (hc : c ∈ collectors)
    (hd : d ∈ collectors) (h : functionName c = functionName d) :
    boundTo collectors c = boundTo collectors d := by
  have hb := find?_functionName hc
  rw [h, find?_functionName hd] at hb
  exact (Option.some.inj hb).symm

/-- Functions of distinct ASCII names are apart: the compiler leaves ASCII as it
is. -/
theorem boundTo_of_ascii {collectors : List Collector}
    (hn : (collectors.map Collector.name).Nodup)
    (ha : ∀ c ∈ collectors, ∀ x ∈ c.name, IsAscii x) {c : Collector} (hc : c ∈ collectors) :
    boundTo collectors c = c := by
  have hname : ∀ d ∈ collectors, functionName d = sectionFunctionPrefix ++ d.name := by
    intro d hd
    exact Unicode.nfkc_ascii _ (List.forall_mem_append.2 ⟨ascii_py (by decide), ha d hd⟩)
  obtain ⟨hmem, hf⟩ := boundTo_mem hc
  rw [hname _ hmem, hname _ hc, List.append_cancel_left_eq] at hf
  exact List.inj_on_of_nodup_map hn hmem hc hf

/-- What a composition that is rendered at all looks like: a function and a spec for every
collector, in order. -/
theorem composeCollectorSource_eq_ok {collectors : List Collector} {script : Composition} :
    composeCollectorSource collectors = .ok script ↔
      collectors ≠ [] ∧ (collectors.map Collector.name).Nodup ∧
        script = ⟨collectors.map sectionFunction,
          collectors.map fun c => (c.name, sectionFunctionPrefix ++ c.name)⟩ := by
  unfold composeCollectorSource
  dsimp only
  split_ifs with h₁ h₂
  · simp [List.isEmpty_iff.1 h₁]
  · have hne : collectors ≠ [] := fun h => h₁ (List.isEmpty_iff.2 h)
    simp only [List.map_map, Function.comp_def, Except.ok.injEq, ne_eq, hne, not_false_eq_true,
      h₂, true_and]
    exact eq_comm
  · simp [h₂]

/-- What the name of a collector's function is bound to, once the script has been
compiled. -/
theorem lookup_compose {collectors : List Collector} {script : Composition}
    (h : composeCollectorSource collectors = .ok script) {c : Collector} (hc : c ∈ collectors) :
    script.lookup (sectionFunctionPrefix ++ c.name) =
      some (sectionFunction (boundTo collectors c)) := by
  obtain ⟨-, -, rfl⟩ := composeCollectorSource_eq_ok.1 h
  have hb := find?_functionName hc
  unfold functionName at hb
  rw [Composition.lookup, Composition.bindings, Dict.get?_ofPairs, List.map_map,
    ← List.map_reverse, List.find?_map]
  simp only [Function.comp_def, sectionFunction, hb, Option.map_some]

/-- **The pairs of the driver.**  Each section name is paired with the function
its identifier is bound to. -/
theorem link_compose {collectors : List Collector} {script : Composition}
    (h : composeCollectorSource collectors = .ok script) :
    script.link =
      some (collectors.map fun c => (c.name, sectionFunction (boundTo collectors c))) := by
  have hlookup := fun c hc => lookup_compose h (c := c) hc
  obtain ⟨-, -, rfl⟩ := composeCollectorSource_eq_ok.1 h
  rw [Composition.link, List.mapM_map]
  refine mapM_eq_some_map fun c hc => ?_
  simp only [Function.comp_apply, hlookup c hc, Option.map_some]

end Pidprobe
