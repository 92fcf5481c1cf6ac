/-
# The text of a composition

`compose_collector_source`: the snippet of each collector, dedented, stripped of
the newlines around it and indented to the body of a function of its own, and
the driver behind the functions.

As in `Pidprobe.Inject.Template` the sources may be of any glyphs
(`codes_composeText`).
-/

import Pidprobe.Collectors.Base
import Pidprobe.Lib.GlyphLines

namespace Pidprobe

open Glyph

/-- `_SPECS_PLACEHOLDER`. -/
def specsPlaceholder : PyStr := py "__PIDPROBE_SPECS__"

/-- `_DRIVER_SOURCE`, line by line, with the placeholder of the specs still in it. -/
def driverSource : PyStr := join (py "\n") (pyLines [
  "",
  "import os as _pidprobe_osmod",
  "import time as _pidprobe_time",
  "",
  "_pidprobe_specs = (__PIDPROBE_SPECS__)",
  "_pidprobe_started = _pidprobe_time.perf_counter()",
  "_pidprobe_sections = \x7b\x7d",
  "_pidprobe_reports = []",
  "",
  "for _pidprobe_name, _pidprobe_section in _pidprobe_specs:",
  "    _pidprobe_begin = _pidprobe_time.perf_counter()",
  "    try:",
  "        _pidprobe_sections[_pidprobe_name] = _pidprobe_section()",
  "        _pidprobe_report = \x7b\"name\": _pidprobe_name, \"status\": \"ok\", \"error\": None\x7d",
  "    except Exception:",
  "        _pidprobe_sections[_pidprobe_name] = None",
  "        _pidprobe_failure = _pidprobe_sys.exc_info()[1]",
  "        _pidprobe_report = \x7b",
  "            \"name\": _pidprobe_name,",
  "            \"status\": \"error\",",
  "            \"error\": \x7b",
  "                \"type\": type(_pidprobe_failure).__name__,",
  "                \"message\": str(_pidprobe_failure),",
  "                \"traceback\": _pidprobe_traceback.format_exc(),",
  "            \x7d,",
  "        \x7d",
  "    _pidprobe_report[\"duration_ms\"] = (",
  "        _pidprobe_time.perf_counter() - _pidprobe_begin",
  "    ) * 1000.0",
  "    _pidprobe_reports.append(_pidprobe_report)",
  "",
  "payload = \x7b",
  "    \"sections\": _pidprobe_sections,",
  "    \"collectors\": _pidprobe_reports,",
  "    \"target\": \x7b",
  "        \"pid\": _pidprobe_osmod.getpid(),",
  "        \"python_version\": _pidprobe_sys.version.split()[0],",
  "        \"implementation\": _pidprobe_sys.implementation.name,",
  "        \"platform\": _pidprobe_sys.platform,",
  "        \"executable\": _pidprobe_sys.executable,",
  "    \x7d,",
  "    \"stop_duration_ms\": (",
  "        _pidprobe_time.perf_counter() - _pidprobe_started",
  "    ) * 1000.0,",
  "\x7d",
  ""])

variable [Unicode]

/-- `text.rstrip()`. -/
def rstrip (text : PyStr) : PyStr := (text.reverse.dropWhile Unicode.isspace).reverse

/-- `specs` of `compose_collector_source`: a tuple of a name and a reference for every
collector, with the last blank stripped. -/
def specsText (specs : List (PyStr × PyStr)) : PyStr :=
  rstrip (specs.flatMap fun (name, identifier) =>
    py "(\"" ++ name ++ py "\", " ++ identifier ++ py "), ")

variable {α : Type} [Glyph α]

/-- `_section_function`, of a function name and a snippet: the header, the snippet one level
in, and `return data`. -/
def sectionText (identifier : PyStr) (source : List α) : List α :=
  joinLines [glyphs (py "def " ++ identifier ++ py "():"),
    indent (stripNewlines (dedent source)) bodyIndent, glyphs (bodyIndent ++ py "return data"), []]

/-- `parts` of `compose_collector_source`, joined; the functions are given by
their names and snippets. -/
def composeText (functions : List (PyStr × List α)) (specs : List (PyStr × PyStr)) : List α :=
  joinLines (functions.map (fun f => sectionText f.1 f.2) ++
    [glyphs (replace specsPlaceholder (specsText specs) driverSource)])

/-- What `compose_collector_source` returns: the functions, and the driver with the specs in
the place of its placeholder. -/
def Composition.text (script : Composition) : PyStr :=
  composeText (script.functions.map fun f => (f.identifier, f.collector.source)) script.specs

/-- The code points of a function's text are the text of the code points. -/
theorem codes_sectionText (identifier : PyStr) (source : List α) :
    codes (sectionText identifier source) = sectionText identifier (codes source) := by
  simp only [sectionText, codes_joinLines, joinLines_codePoint, List.map_cons, List.map_nil,
    codes_glyphs, glyphs_codePoint, codes_indent, codes_stripNewlines, codes_dedent,
    indent_codePoint, stripNewlines_codePoint, dedent_codePoint]
  rfl

/-- The code points of the composition are the composition of the code points. -/
theorem codes_composeText (functions : List (PyStr × List α)) (specs : List (PyStr × PyStr)) :
    codes (composeText functions specs) =
      composeText (functions.map fun f => (f.1, codes f.2)) specs := by
  rw [composeText, composeText, codes_joinLines, joinLines_codePoint, List.map_append,
    List.map_map, List.map_map]
  simp [Function.comp_def, codes_sectionText]

end Pidprobe
