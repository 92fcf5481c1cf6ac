/-
# The text of the injected script

`build_injection_script`: the collector source, dedented, stripped of the
newlines around it and indented to the body of `_pidprobe_collect`, between the
lines of a fixed template that ends with the write-back of the return channel.
`format_scriptTemplate` says that this is what `str.format` makes of the
template.

The source may be of any glyphs, so that a part of it can be found again in the
script; the code points of the script are the script of its code points
(`codes_buildInjectionScript`).
-/

import Pidprobe.Channel.Protocol
import Pidprobe.Lib.Substitute

namespace Pidprobe
namespace Inject

open Glyph
open Protocol (ChannelSpec)

/-- `NAME_PREFIX`. -/
def namePrefix : PyStr := py "_pidprobe_"

/-- `_COLLECTOR_INDENT`. -/
def collectorIndent : PyStr := py "        "

/-- `_WRITE_BACK_INDENT`. -/
def writeBackIndent : PyStr := py "    "

/-- `_SOCKET_IMPORT`. -/
def socketImport : PyStr := py "    import socket as _pidprobe_socket"

/-- `_TEMPFILE_IMPORT`. -/
def tempfileImport : PyStr := py "    import os as _pidprobe_os"

/-! ## The templates -/

/-- The lines of `_SCRIPT_TEMPLATE` in front of `collector`, with the two fields in them. -/
def headTemplate : List PyStr := pyLines [
  "# Generated by pidprobe -- executed inside the target process via",
  "# sys.remote_exec. Every binding is namespaced with the \x7bprefix\x7d prefix and",
  "# removed again, so the target's module namespace is left as it was found.",
  "",
  "",
  "def _pidprobe_main():",
  "    import json as _pidprobe_json",
  "    import sys as _pidprobe_sys",
  "    import traceback as _pidprobe_traceback",
  "\x7bextra_imports\x7d",
  "",
  "    # Frame of _pidprobe_main itself; its f_back is this script's module",
  "    # frame, and *that* frame's caller is the target code the injection",
  "    # interrupted. The pair marks where pidprobe ends and the target begins.",
  "    _pidprobe_root = _pidprobe_sys._getframe()",
  "",
  "    def _pidprobe_target_frames():",
  "        \"\"\"Return \x7b\x7bthread_id: frame\x7d\x7d without pidprobe's own frames.",
  "",
  "        sys._current_frames() reports the frame that is executing *right",
  "        now*, which on this thread is the injected script itself. Dropping",
  "        every frame up to and including this script's module frame yields",
  "        the frame the injection interrupted, i.e. real target code.",
  "        \"\"\"",
  "        _pidprobe_own = set()",
  "        _pidprobe_frame = _pidprobe_sys._getframe()",
  "        while _pidprobe_frame is not None:",
  "            _pidprobe_own.add(id(_pidprobe_frame))",
  "            if _pidprobe_frame is _pidprobe_root:",
  "                if _pidprobe_frame.f_back is not None:",
  "                    _pidprobe_own.add(id(_pidprobe_frame.f_back))",
  "                break",
  "            _pidprobe_frame = _pidprobe_frame.f_back",
  "        _pidprobe_frames = \x7b\x7b\x7d\x7d",
  "        for _pidprobe_tid, _pidprobe_top in _pidprobe_sys._current_frames().items():",
  "            while _pidprobe_top is not None and id(_pidprobe_top) in _pidprobe_own:",
  "                _pidprobe_top = _pidprobe_top.f_back",
  "            if _pidprobe_top is not None:",
  "                _pidprobe_frames[_pidprobe_tid] = _pidprobe_top",
  "        return _pidprobe_frames",
  "",
  "    def _pidprobe_error_envelope():",
  "        _pidprobe_exc = _pidprobe_sys.exc_info()[1]",
  "        return \x7b\x7b",
  "            \"status\": \"error\",",
  "            \"error\": \x7b\x7b",
  "                \"type\": type(_pidprobe_exc).__name__,",
  "                \"message\": str(_pidprobe_exc),",
  "                \"traceback\": _pidprobe_traceback.format_exc(),",
  "            \x7d\x7d,",
  "            \"payload\": None,",
  "        \x7d\x7d",
  "",
  "    def _pidprobe_collect():",
  "        payload = None"]

/-- The lines between `collector` and `write_back`: the call of the collector under the
handler that reports what it raises. -/
def middleTemplate : List PyStr := pyLines [
  "        return payload",
  "",
  "    # Any collector failure -- including a payload that will not serialize --",
  "    # has to come back as an error envelope; a silent target would leave the",
  "    # prober waiting for its hard timeout with nothing to report.",
  "    try:",
  "        _pidprobe_data = _pidprobe_json.dumps(",
  "            \x7b\x7b\"status\": \"ok\", \"error\": None, \"payload\": _pidprobe_collect()\x7d\x7d",
  "        ).encode(\"utf-8\")",
  "    except BaseException:",
  "        _pidprobe_data = _pidprobe_json.dumps(_pidprobe_error_envelope()).encode(\"utf-8\")",
  ""]

/-- The lines behind `write_back`: the call of the script's main function, and the removal
of its one name. -/
def tailTemplate : List PyStr := pyLines [
  "",
  "",
  "# The target process must survive whatever happens above -- a failed write",
  "# back is pidprobe's problem, never the target's.",
  "try:",
  "    _pidprobe_main()",
  "except BaseException:",
  "    pass",
  "try:",
  "    del _pidprobe_main",
  "except BaseException:",
  "    pass",
  ""]

/-- `_SCRIPT_TEMPLATE`: the three parts, and a line for each of the two fields between
them. -/
def scriptTemplate : PyStr :=
  joinLines (headTemplate ++ py "\x7bcollector\x7d" ::
    (middleTemplate ++ py "\x7bwrite_back\x7d" :: tailTemplate))

/-- The lines of `_SOCKET_WRITE_BACK`: connect and send, and close in any case. -/
def socketTemplate : List PyStr := pyLines [
  "_pidprobe_sock = _pidprobe_socket.socket(",
  "    _pidprobe_socket.AF_UNIX, _pidprobe_socket.SOCK_STREAM",
  ")",
  "try:",
  "    _pidprobe_sock.settimeout(\x7btimeout!r\x7d)",
  "    _pidprobe_sock.connect(\x7bpath!r\x7d)",
  "    _pidprobe_sock.sendall(_pidprobe_data)",
  "finally:",
  "    _pidprobe_sock.close()",
  ""]

/-- The lines of `_TEMPFILE_WRITE_BACK`: write a sibling file, close it in any case, and
rename it. -/
def tempfileTemplate : List PyStr := pyLines [
  "_pidprobe_tmp = \x7bpath!r\x7d + \".tmp\"",
  "_pidprobe_fd = _pidprobe_os.open(",
  "    _pidprobe_tmp,",
  "    _pidprobe_os.O_WRONLY | _pidprobe_os.O_CREAT | _pidprobe_os.O_TRUNC,",
  "    0o600,",
  ")",
  "try:",
  "    _pidprobe_os.write(_pidprobe_fd, _pidprobe_data)",
  "finally:",
  "    _pidprobe_os.close(_pidprobe_fd)",
  "_pidprobe_os.replace(_pidprobe_tmp, \x7bpath!r\x7d)",
  ""]

/-! ## Formatting them -/

/-- The fields of the head. -/
def headFields (extraImports name : PyStr) : Option PyStr :=
  Dict.get? name [(py "prefix", namePrefix), (py "extra_imports", extraImports)]

/-- The fields of `_SCRIPT_TEMPLATE`, as `build_injection_script` passes them to `format`. -/
def scriptFields (extraImports collector writeBack name : PyStr) : Option PyStr :=
  Dict.get? name [(py "prefix", namePrefix), (py "extra_imports", extraImports),
    (py "collector", collector), (py "write_back", writeBack)]

/-- The fields of the write-backs, spelt with their conversion: the path and the timeout are
given by their `repr`. -/
def channelFields (path timeout name : PyStr) : Option PyStr :=
  Dict.get? name [(py "path!r", path), (py "timeout!r", timeout)]

/-- The lines of the script in front of the collector: the fixed text, with the import of
the write-back in it. -/
def scriptHead (extraImports : PyStr) : List PyStr :=
  formatLines (headFields extraImports) headTemplate

/-- The lines between the collector and the write-back: the fixed text, its doubled braces
made single. -/
def scriptMiddle : List PyStr := formatLines (fun _ => none) middleTemplate

/-- The lines behind the write-back: the fixed text, in which there is nothing to fill in. -/
def scriptTail : List PyStr := formatLines (fun _ => none) tailTemplate

/-- The lines of the write-back; the fields are given by their `repr`. -/
def writeBackLines (template : List PyStr) (path timeout : PyStr) : List PyStr :=
  formatLines (channelFields path timeout) template

/-! ## The script -/

section

variable [Unicode] [FloatText]

/-- `_write_back_source`: the import and the block of a channel, the block indented to stand
in the function. -/
def writeBackSource (spec : ChannelSpec) : PyStr × PyStr :=
  let block (template : List PyStr) :=
    joinLines (writeBackLines template (reprStr spec.path) (FloatText.repr spec.timeoutSeconds))
  match spec.kind with
  | .unixSocket => (socketImport, indent (block socketTemplate) writeBackIndent)
  | .tempfile => (tempfileImport, indent (block tempfileTemplate) writeBackIndent)

variable {α : Type} [Glyph α]

/-- `build_injection_script`, of any characters that can be compared and indented. That it
is `str.format` on the template is `format_scriptTemplate`. -/
def buildInjectionScript (collectorSource : List α) (spec : ChannelSpec) : List α :=
  let body := stripNewlines (dedent collectorSource)
  let (extraImport, writeBack) := writeBackSource spec
  joinLines ((scriptHead extraImport).map glyphs ++ indent body collectorIndent ::
    (scriptMiddle ++ writeBack :: scriptTail).map glyphs)

/-- The script, part by part: its head, the collector source under its indentation, the
middle, the write-back and the tail. -/
theorem buildInjectionScript_eq (collectorSource : List α) (spec : ChannelSpec) :
    buildInjectionScript collectorSource spec =
      joinLines ((scriptHead (writeBackSource spec).1).map glyphs ++
        indent (stripNewlines (dedent collectorSource)) collectorIndent ::
          (scriptMiddle ++ (writeBackSource spec).2 :: scriptTail).map glyphs) := rfl

/-- The code points of the script are the script of the code points. -/
theorem codes_buildInjectionScript (collectorSource : List α) (spec : ChannelSpec) :
    codes (buildInjectionScript collectorSource spec) =
      buildInjectionScript (codes collectorSource) spec := by
  have hmap : ∀ lines : List PyStr, (lines.map (glyphs (α := α))).map codes =
      lines.map (glyphs (α := CodePoint)) := fun lines => by
    rw [List.map_map]
    exact List.map_congr_left fun line _ => by simp
  simp only [buildInjectionScript]
  rw [codes_joinLines, joinLines_codePoint, List.map_append, List.map_cons, hmap, hmap,
    codes_indent, codes_stripNewlines, codes_dedent, indent_codePoint, stripNewlines_codePoint,
    dedent_codePoint]

end

/-! ## What `str.format` makes of the templates -/

/-- A template that can be formatted as a list of characters can be as a text. -/
theorem isSome_format_ofList {fields : PyStr → Option PyStr} {cs : List Char}
    (h : (format fields (cs.map cp)).isSome = true) :
    (format fields (py (String.ofList cs))).isSome = true := by
  rwa [py, String.toList_ofList]

set_option maxRecDepth 100000 in
/-- The lines of the head can be formatted, and the extra imports are all they ask for. -/
theorem isSome_headTemplate (extraImports : PyStr) :
    ∀ line ∈ headTemplate, (format (headFields extraImports) line).isSome = true := by
  unfold headTemplate
  simp only [pyLines, List.map_cons, List.map_nil]
  repeat refine List.forall_mem_cons.2 ⟨isSome_format_ofList rfl, ?_⟩
  exact List.forall_mem_nil _

set_option maxRecDepth 100000 in
/-- The lines of the middle have no field at all. -/
theorem isSome_middleTemplate :
    ∀ line ∈ middleTemplate, (format (fun _ => none) line).isSome = true := by
  unfold middleTemplate
  simp only [pyLines, List.map_cons, List.map_nil]
  repeat refine List.forall_mem_cons.2 ⟨isSome_format_ofList rfl, ?_⟩
  exact List.forall_mem_nil _

set_option maxRecDepth 100000 in
/-- Nor have those of the tail. -/
theorem isSome_tailTemplate :
    ∀ line ∈ tailTemplate, (format (fun _ => none) line).isSome = true := by
  unfold tailTemplate
  simp only [pyLines, List.map_cons, List.map_nil]
  repeat refine List.forall_mem_cons.2 ⟨isSome_format_ofList rfl, ?_⟩
  exact List.forall_mem_nil _

set_option maxRecDepth 100000 in
/-- The lines that write to a socket can be formatted from the path and the timeout. -/
theorem isSome_socketTemplate (path timeout : PyStr) :
    ∀ line ∈ socketTemplate, (format (channelFields path timeout) line).isSome = true := by
  unfold socketTemplate
  simp only [pyLines, List.map_cons, List.map_nil]
  repeat refine List.forall_mem_cons.2 ⟨isSome_format_ofList rfl, ?_⟩
  exact List.forall_mem_nil _

set_option maxRecDepth 100000 in
/-- So can those that write to a file. -/
theorem isSome_tempfileTemplate (path timeout : PyStr) :
    ∀ line ∈ tempfileTemplate, (format (channelFields path timeout) line).isSome = true := by
  unfold tempfileTemplate
  simp only [pyLines, List.map_cons, List.map_nil]
  repeat refine List.forall_mem_cons.2 ⟨isSome_format_ofList rfl, ?_⟩
  exact List.forall_mem_nil _

/-- The write-backs are what `str.format` makes of their templates. -/
theorem format_socketTemplate (path timeout : PyStr) :
    format (channelFields path timeout) (joinLines socketTemplate) =
      some (joinLines (writeBackLines socketTemplate path timeout)) :=
  format_joinLines (isSome_socketTemplate path timeout)

/-- What formatting the file's lines gives, line by line. -/
theorem format_tempfileTemplate (path timeout : PyStr) :
    format (channelFields path timeout) (joinLines tempfileTemplate) =
      some (joinLines (writeBackLines tempfileTemplate path timeout)) :=
  format_joinLines (isSome_tempfileTemplate path timeout)

/-- The fields of the head have the same values in the whole script, so the head can be
formatted by itself. -/
theorem headFields_mono {extraImports : PyStr} (collector writeBack name value : PyStr)
    (h : headFields extraImports name = some value) :
    scriptFields extraImports collector writeBack name = some value := by
  simp only [headFields, scriptFields, Dict.get?] at h ⊢
  split_ifs at h ⊢
  · exact h
  · exact h

/-- The field of the collector source is the source, as it is. -/
theorem format_collectorField (extraImports collector writeBack : PyStr) :
    format (scriptFields extraImports collector writeBack) (py "\x7bcollector\x7d") =
      some collector := by
  have h : format (scriptFields extraImports collector writeBack) (py "\x7bcollector\x7d") =
      some (collector ++ []) := rfl
  rw [h, List.append_nil]

/-- The field of the write-back is the lines that write, as they are. -/
theorem format_writeBackField (extraImports collector writeBack : PyStr) :
    format (scriptFields extraImports collector writeBack) (py "\x7bwrite_back\x7d") =
      some writeBack := by
  have h : format (scriptFields extraImports collector writeBack) (py "\x7bwrite_back\x7d") =
      some (writeBack ++ []) := rfl
  rw [h, List.append_nil]

/-- **The script is what `str.format` makes of the template**, with the fields as the source
passes them: no field is missing and no brace is left over. -/
theorem format_scriptTemplate [Unicode] [FloatText] (collectorSource : PyStr) (spec : ChannelSpec) :
    format (scriptFields (writeBackSource spec).1
        (indent (stripNewlines (dedent collectorSource)) collectorIndent) (writeBackSource spec).2)
      scriptTemplate = some (buildInjectionScript collectorSource spec) := by
  rw [buildInjectionScript_eq]
  generalize (writeBackSource spec).1 = extraImports
  generalize (writeBackSource spec).2 = writeBack
  generalize indent (stripNewlines (dedent collectorSource)) collectorIndent = collector
  have hcollector := format_collectorField extraImports collector writeBack
  have hwriteBack := format_writeBackField extraImports collector writeBack
  have hnone : ∀ name value, (fun _ => none : PyStr → Option PyStr) name = some value →
      scriptFields extraImports collector writeBack name = some value := fun _ _ h => by cases h
  have hall : ∀ line ∈ headTemplate ++ py "\x7bcollector\x7d" ::
      (middleTemplate ++ py "\x7bwrite_back\x7d" :: tailTemplate),
      (format (scriptFields extraImports collector writeBack) line).isSome = true := by
    refine List.forall_mem_append.2 ⟨?_, List.forall_mem_cons.2 ⟨by rw [hcollector]; rfl, ?_⟩⟩
    · exact isSome_format_mono (headFields_mono collector writeBack)
        (isSome_headTemplate extraImports)
    · refine List.forall_mem_append.2 ⟨isSome_format_mono hnone isSome_middleTemplate, ?_⟩
      exact List.forall_mem_cons.2 ⟨by rw [hwriteBack]; rfl,
        isSome_format_mono hnone isSome_tailTemplate⟩
  rw [scriptTemplate, format_joinLines hall, formatLines_append, formatLines_cons hcollector,
    formatLines_append, formatLines_cons hwriteBack,
    formatLines_mono (headFields_mono collector writeBack) (isSome_headTemplate extraImports),
    formatLines_mono hnone isSome_middleTemplate, formatLines_mono hnone isSome_tailTemplate]
  rw [map_glyphs_codePoint, map_glyphs_codePoint]
  rfl

end Inject
end Pidprobe
