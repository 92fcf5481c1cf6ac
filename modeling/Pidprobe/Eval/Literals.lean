/-
# The literals of an evaluation script

The script of an evaluation, line by line: the expression and the path of the
channel stand in it as `repr` spells them, each on a line of its own, and nothing
else depends on them (`literals_embedded`).  The lines around them are named:
those in front of the expression, those between it and the evaluation, the
evaluation itself, those behind it, and those of the write-back.
-/

import Pidprobe.Eval.Source
import Pidprobe.Inject.Template
import Pidprobe.Lib.Indenting
import Pidprobe.Lib.PyLiteral

namespace Pidprobe
namespace Eval

open Glyph
open Inject (buildInjectionScript collectorIndent writeBackIndent)
open Protocol (ChannelKind ChannelSpec)

/-! ## The lines of the write-back -/

/-- The lines of `_SOCKET_WRITE_BACK` in front of the path, with the timeout in the last of
them. -/
def connectFront (timeout : PyStr) : List PyStr :=
  [py "_pidprobe_sock = _pidprobe_socket.socket(",
    py "    _pidprobe_socket.AF_UNIX, _pidprobe_socket.SOCK_STREAM",
    py ")",
    py "try:",
    py "    _pidprobe_sock.settimeout(" ++ (timeout ++ py ")")]

/-- The line with the path. -/
def connectLine (path : PyStr) : PyStr := py "    _pidprobe_sock.connect(" ++ (path ++ py ")")

/-- The lines behind it. -/
def connectBack : List PyStr := pyLines [
  "    _pidprobe_sock.sendall(_pidprobe_data)",
  "finally:",
  "    _pidprobe_sock.close()",
  ""]

/-- The first line of `_TEMPFILE_WRITE_BACK`, which has the path. -/
def tmpLine (path : PyStr) : PyStr := py "_pidprobe_tmp = " ++ (path ++ py " + \".tmp\"")

/-- The lines between the two that have it. -/
def writeLines : List PyStr := pyLines [
  "_pidprobe_fd = _pidprobe_os.open(",
  "    _pidprobe_tmp,",
  "    _pidprobe_os.O_WRONLY | _pidprobe_os.O_CREAT | _pidprobe_os.O_TRUNC,",
  "    0o600,",
  ")",
  "try:",
  "    _pidprobe_os.write(_pidprobe_fd, _pidprobe_data)",
  "finally:",
  "    _pidprobe_os.close(_pidprobe_fd)"]

/-- The last line, which has the path again. -/
def replaceLine (path : PyStr) : PyStr :=
  py "_pidprobe_os.replace(_pidprobe_tmp, " ++ (path ++ py ")")

/-- The path has one line of the write-back over a socket, the one that connects. -/
theorem writeBackLines_socketTemplate (path timeout : PyStr) :
    Inject.writeBackLines Inject.socketTemplate path timeout =
      connectFront timeout ++ connectLine path :: connectBack := by
  rw [Inject.writeBackLines]
  rfl

/-- It has two of the write-back over a file: the name of the sibling, and the rename. -/
theorem writeBackLines_tempfileTemplate (path timeout : PyStr) :
    Inject.writeBackLines Inject.tempfileTemplate path timeout =
      tmpLine path :: writeLines ++ [replaceLine path, []] := by
  rw [Inject.writeBackLines]
  rfl

/-! ## Lines that stay lines -/

/-- A line of a template is one line. -/
theorem isLineEnd_of_mem_py {text : String}
    (h : text.toList.all (fun c => 0x20 ≤ c.val.toNat ∧ c.val.toNat ≤ 0x7E) = true) :
    ∀ c ∈ py text, TextWrap.isLineEnd c = false :=
  fun c hc => isLineEnd_of_isPrintable (printable_py h c hc)

/-- A line of printable ASCII with something other than blanks in it, or an empty
one: `dedent` and `indent` take it for what it looks like. -/
def Plain (line : PyStr) : Prop :=
  (∀ c ∈ line, IsPrintable c) ∧ (line = [] ∨ ∃ c ∈ line, asciiSpace c = false)

/-- An empty line is plain. -/
theorem plain_nil : Plain [] := ⟨List.forall_mem_nil _, .inl rfl⟩

/-- A plain line is one line. -/
theorem Plain.isLineEnd {line : PyStr} (h : Plain line) :
    ∀ c ∈ line, TextWrap.isLineEnd c = false :=
  fun c hc => isLineEnd_of_isPrintable (h.1 c hc)

/-- What makes a line plain, asked of its characters: printable ASCII, and one that is no
blank unless the line is empty. -/
def isPlain (cs : List Char) : Bool :=
  cs.all (fun c => 0x20 ≤ c.val.toNat ∧ c.val.toNat ≤ 0x7E) &&
    (cs.isEmpty || cs.any (0x20 < ·.val.toNat))

/-- A literal whose characters pass is plain; `rfl` checks them. -/
theorem plain_ofList {cs : List Char} (h : isPlain cs = true) : Plain (py (String.ofList cs)) := by
  obtain ⟨hprintable, hblank⟩ := Bool.and_eq_true_iff.1 h
  have hline : ∀ c ∈ py (String.ofList cs), IsPrintable c :=
    printable_py (by rwa [String.toList_ofList])
  refine ⟨hline, ?_⟩
  rcases Bool.or_eq_true_iff.1 hblank with hempty | hany
  · left
    rw [List.isEmpty_iff.1 hempty]
    rfl
  · right
    obtain ⟨d, hd, hlt⟩ := List.any_eq_true.1 hany
    have hmem : cp d ∈ py (String.ofList cs) := by
      rw [py, String.toList_ofList]
      exact List.mem_map_of_mem hd
    refine ⟨cp d, hmem, ?_⟩
    have hlow : 0x20 < (cp d).val := of_decide_eq_true hlt
    rw [asciiSpace, decide_eq_false_iff_not]
    omega

set_option maxRecDepth 100000 in
/-- The lines of the rendering are plain. -/
theorem plain_injectedSource : ∀ line ∈ SafeRepr.injectedSource, Plain line := by
  unfold SafeRepr.injectedSource
  simp only [pyLines, List.map_cons, List.map_nil]
  repeat refine List.forall_mem_cons.2 ⟨plain_ofList rfl, ?_⟩
  exact List.forall_mem_nil _

set_option maxRecDepth 100000 in
/-- So are those behind the expression and the masking mode. -/
theorem plain_sourceTail : ∀ line ∈ sourceTail, Plain line := by
  unfold sourceTail namespaceLines evaluationLine payloadLines
  simp only [pyLines, List.map_cons, List.map_nil, List.cons_append, List.nil_append]
  repeat refine List.forall_mem_cons.2 ⟨plain_ofList rfl, ?_⟩
  exact List.forall_mem_nil _

/-! ## The lines of the source -/

/-- The line of the masking mode. -/
def maskingLine (isMasked : Bool) : PyStr := py "IS_MASKED = " ++ reprBool isMasked

/-- The line of the masking mode is plain. -/
theorem plain_maskingLine (isMasked : Bool) : Plain (maskingLine isMasked) := by
  cases isMasked with
  | true => exact (plain_ofList rfl : Plain (py "IS_MASKED = True"))
  | false => exact (plain_ofList rfl : Plain (py "IS_MASKED = False"))

section

variable [Unicode]

/-- A line with a letter in it is not blank. -/
theorem isBlank_of_letter {c : CodePoint} {t : PyStr} (h : c ∈ t) (ha : IsAscii c)
    (hs : asciiSpace c = false) : isBlank t = false :=
  isBlank_of_mem h ((Unicode.isspace_ascii c ha).trans hs)

/-- A plain line is not blank; an empty one is not blank for `dedent` either, which drops
what is blank. -/
theorem Plain.isBlank {line : PyStr} (h : Plain line) : Glyph.isBlank line = false := by
  rcases h.2 with rfl | ⟨c, hc, hs⟩
  · rfl
  · exact isBlank_of_letter hc (h.1 c hc).isAscii hs

/-- The line of the expression in the source: the name, and the literal `repr` makes of the
expression. -/
def assignment (expression : PyStr) : PyStr := py "EXPRESSION = " ++ reprStr expression

/-- The line of the expression in the script, indented to the collector. -/
def expressionLine (expression : PyStr) : PyStr := collectorIndent ++ assignment expression

/-- The line of the expression is not blank, whatever the expression is. -/
theorem isBlank_assignment (expression : PyStr) : isBlank (assignment expression) = false :=
  isBlank_of_letter (List.mem_cons_self .. : cp 'E' ∈ _) (by decide) (by decide)

/-- The lines of the source that have something on them, from the first to the
last of them. -/
def sourceBody (expression : PyStr) (isMasked : Bool) : List PyStr :=
  SafeRepr.injectedSource ++ [] :: assignment expression :: maskingLine isMasked ::
    (namespaceLines ++ evaluationLine :: payloadLines)

/-- Around the body the source has an empty line on either side, which `strip` takes off. -/
theorem evalLines_eq (expression : PyStr) (isMasked : Bool) :
    evalLines expression isMasked = [[]] ++ sourceBody expression isMasked ++ [[]] := by
  simp only [evalLines, sourceBody, sourceTail, assignment, maskingLine, List.append_assoc,
    List.cons_append, List.nil_append]
  rfl

/-- Every line of the body but the one of the expression is plain, and that one is never
blank. -/
theorem mem_sourceBody {expression line : PyStr} {isMasked : Bool}
    (h : line ∈ sourceBody expression isMasked) :
    line = assignment expression ∨ Plain line := by
  rw [sourceBody, List.mem_append, List.mem_cons, List.mem_cons, List.mem_cons] at h
  rcases h with h | rfl | rfl | rfl | h
  · exact .inr (plain_injectedSource line h)
  · exact .inr plain_nil
  · exact .inl rfl
  · exact .inr (plain_maskingLine isMasked)
  · refine .inr (plain_sourceTail line ?_)
    rw [sourceTail, ← List.cons_append, ← List.append_assoc]
    exact List.mem_append_left _ h

/-! ## The lines of the script -/

/-- The lines of the script in front of the expression: the head of the template and the
rendering. -/
def frontLines (extraImport : PyStr) : List PyStr :=
  Inject.scriptHead extraImport ++
    (SafeRepr.injectedSource ++ [[]]).map (indent · collectorIndent)

/-- The lines between the expression and its evaluation: the masking mode and
the namespace. -/
def bindingLines (isMasked : Bool) : List PyStr :=
  (maskingLine isMasked :: namespaceLines).map (indent · collectorIndent)

/-- The lines between the evaluation and the write-back: the payload and the middle of the
template. -/
def answerLines : List PyStr :=
  payloadLines.map (indent · collectorIndent) ++ Inject.scriptMiddle

/-- Lines of a write-back, indented. -/
def writeBackBlock (lines : List PyStr) : List PyStr := lines.map (indent · writeBackIndent)

/-- The line of the evaluation, indented to the collector. -/
theorem indent_evaluationLine :
    indent evaluationLine collectorIndent = collectorIndent ++ evaluationLine := by
  have hplain : Plain evaluationLine := plain_sourceTail _ (by simp [sourceTail])
  rw [indent_of_line hplain.isBlank (List.cons_ne_nil _ _) hplain.isLineEnd, glyphs_codePoint]

variable (h : ∀ c, TextWrap.isLineEnd c = true → Unicode.isprintable c = false)

include h

/-- The line of the expression is one line, whatever the expression is. -/
theorem isLineEnd_of_mem_assignment (expression : PyStr) :
    ∀ c ∈ assignment expression, TextWrap.isLineEnd c = false :=
  List.forall_mem_append.2
    ⟨isLineEnd_of_mem_py (by decide), isLineEnd_of_mem_reprStr h expression⟩

/-- The source is cut into the lines it was made of: a literal holds no line break, whatever
it is the literal of. -/
theorem splitNewlines_buildEvalSource (expression : PyStr) (isMasked : Bool) :
    splitNewlines (buildEvalSource expression isMasked) =
      [[]] ++ sourceBody expression isMasked ++ [[]] := by
  rw [buildEvalSource_eq, evalLines_eq]
  refine splitNewlines_joinLines (by simp) (List.forall_mem_append.2
    ⟨List.forall_mem_append.2 ⟨?_, fun line hline => ?_⟩, ?_⟩)
  · exact List.forall_mem_singleton.2 unbroken_nil
  · rcases mem_sourceBody hline with rfl | hplain
    · exact unbroken_of_line (isLineEnd_of_mem_assignment h expression)
    · exact unbroken_of_line hplain.isLineEnd
  · exact List.forall_mem_singleton.2 unbroken_nil

/-- **The source in the script**: the body, indented. There is no margin to take off, and no
blank line to be emptied. -/
theorem indent_buildEvalSource (expression : PyStr) (isMasked : Bool) :
    indent (stripNewlines (dedent (buildEvalSource expression isMasked))) collectorIndent =
      joinLines ((sourceBody expression isMasked).map (indent · collectorIndent)) := by
  have hlines := splitNewlines_buildEvalSource h expression isMasked
  have hmem : assignment expression ∈ splitNewlines (buildEvalSource expression isMasked) := by
    rw [hlines]
    simp [sourceBody]
  have hmargin : textMargin (buildEvalSource expression isMasked) = 0 :=
    textMargin_eq_zero hmem (Unicode.isspace_ascii (cp 'E') (by decide))
  have hundent : ∀ line ∈ sourceBody expression isMasked, undent 0 line = line := by
    intro line hline
    rcases mem_sourceBody hline with rfl | hplain
    · exact undent_zero (isBlank_assignment expression)
    · exact undent_zero hplain.isBlank
  have hfirst : (sourceBody expression isMasked).head? = some (py "MAX_DEPTH = 3") := rfl
  have hlast : (sourceBody expression isMasked).getLast? = some (py "\x7d") := by
    simp only [sourceBody, List.getLast?_append, List.getLast?_cons_cons]
    rfl
  have hfirst' : undent 0 (py "MAX_DEPTH = 3") ≠ [] := by
    rw [hundent _ (List.mem_of_head? hfirst)]
    exact List.cons_ne_nil _ _
  have hlast' : undent 0 (py "\x7d") ≠ [] := by
    rw [hundent _ (List.mem_of_getLast? hlast)]
    exact List.cons_ne_nil _ _
  have hnothing : leading 0 collectorIndent [[]] = ([] : List PyStr) := rfl
  have hnothing' : trailing 0 collectorIndent [[]] = ([] : List PyStr) := rfl
  rw [indent_stripNewlines_dedent hlines hfirst hlast (by rwa [hmargin])
    (by rwa [hmargin]), hmargin, hnothing, hnothing', List.nil_append, List.append_nil]
  congr 1
  exact List.map_congr_left fun line hline => by rw [hundent line hline]

/-- The line of the expression, indented to the collector. -/
theorem indent_assignment (expression : PyStr) :
    indent (assignment expression) collectorIndent = expressionLine expression := by
  rw [indent_of_line (isBlank_assignment expression) (List.cons_ne_nil _ _)
    (isLineEnd_of_mem_assignment h expression), glyphs_codePoint, expressionLine]

/-- **The lines of the script**; `lines` are those of the write-back. The expression and its
evaluation are a line each. -/
theorem script_eq [FloatText] (expression : PyStr) (isMasked : Bool) {spec : ChannelSpec}
    {extraImport : PyStr} {lines : List PyStr} (hne : lines ≠ [])
    (hspec : Inject.writeBackSource spec =
      (extraImport, indent (joinLines lines) writeBackIndent)) :
    buildInjectionScript (buildEvalSource expression isMasked) spec =
      joinLines (frontLines extraImport ++ [expressionLine expression] ++ bindingLines isMasked ++
        [collectorIndent ++ evaluationLine] ++ answerLines ++ writeBackBlock lines ++
          Inject.scriptTail) := by
  have hbody : (sourceBody expression isMasked).map (indent · collectorIndent) ≠ [] := by
    simp [sourceBody]
  have hblock : lines.map (indent · writeBackIndent) ≠ [] := by simpa using hne
  rw [Inject.buildInjectionScript_eq, map_glyphs_codePoint, map_glyphs_codePoint, hspec,
    indent_buildEvalSource h, indent_joinLines, joinLines_flatten _ _ hbody, ← List.append_assoc,
    joinLines_flatten _ _ hblock]
  simp only [sourceBody, writeBackBlock, frontLines, bindingLines, answerLines, List.map_append,
    List.map_cons, List.map_nil, List.append_assoc, List.cons_append, List.nil_append,
    indent_assignment h, indent_evaluationLine]

/-- A line of a write-back with a `repr` in it, indented. -/
theorem indent_line {front back : String} {x : CodePoint} (hmem : x ∈ py front) (ha : IsAscii x)
    (hs : asciiSpace x = false)
    (hfront : front.toList.all (fun c => 0x20 ≤ c.val.toNat ∧ c.val.toNat ≤ 0x7E) = true)
    (hback : back.toList.all (fun c => 0x20 ≤ c.val.toNat ∧ c.val.toNat ≤ 0x7E) = true)
    (s : PyStr) : indent (py front ++ (reprStr s ++ py back)) writeBackIndent =
      writeBackIndent ++ (py front ++ (reprStr s ++ py back)) := by
  refine indent_of_line (isBlank_of_letter (List.mem_append_left _ hmem) ha hs) ?_ ?_ _
  · exact List.ne_nil_of_mem (List.mem_append_left _ hmem)
  · exact List.forall_mem_append.2 ⟨isLineEnd_of_mem_py hfront,
      List.forall_mem_append.2 ⟨isLineEnd_of_mem_reprStr h s, isLineEnd_of_mem_py hback⟩⟩

/-- The line that connects, indented to the write-back. -/
theorem indent_connectLine (path : PyStr) :
    indent (connectLine (reprStr path)) writeBackIndent =
      writeBackIndent ++ connectLine (reprStr path) :=
  indent_line h (by decide : cp '_' ∈ _) (by decide) (by decide) (by decide) (by decide) path

/-- The line that names the file beside the path, indented. -/
theorem indent_tmpLine (path : PyStr) :
    indent (tmpLine (reprStr path)) writeBackIndent = writeBackIndent ++ tmpLine (reprStr path) :=
  indent_line h (by decide : cp '_' ∈ _) (by decide) (by decide) (by decide) (by decide) path

/-- The line that renames it to the path, indented. -/
theorem indent_replaceLine (path : PyStr) :
    indent (replaceLine (reprStr path)) writeBackIndent =
      writeBackIndent ++ replaceLine (reprStr path) :=
  indent_line h (by decide : cp '_' ∈ _) (by decide) (by decide) (by decide) (by decide) path

end

/-- **The literals of the script.**  On either channel the script is fixed lines
around the expression and the path as `repr` spells them, each on one line at the
indentation of its block.  The fixed lines are those of the templates: the
evaluation compiles what `EXPRESSION` was set to, the write-back connects to the
path, or writes beside it and renames.  And what `repr` spells is one line and
reads back. -/
theorem literals_embedded [Unicode] [FloatText]
    (h : ∀ c, TextWrap.isLineEnd c = true → Unicode.isprintable c = false)
    (expression path : PyStr) (isMasked : Bool) (timeoutSeconds : ℚ) :
    buildInjectionScript (buildEvalSource expression isMasked)
        ⟨.unixSocket, path, timeoutSeconds⟩ =
      joinLines (frontLines Inject.socketImport ++ [expressionLine expression] ++
        bindingLines isMasked ++ [collectorIndent ++ evaluationLine] ++ answerLines ++
        writeBackBlock (connectFront (FloatText.repr timeoutSeconds)) ++
        [writeBackIndent ++ connectLine (reprStr path)] ++ writeBackBlock connectBack ++
        Inject.scriptTail) ∧
    buildInjectionScript (buildEvalSource expression isMasked)
        ⟨.tempfile, path, timeoutSeconds⟩ =
      joinLines (frontLines Inject.tempfileImport ++ [expressionLine expression] ++
        bindingLines isMasked ++ [collectorIndent ++ evaluationLine] ++ answerLines ++
        [writeBackIndent ++ tmpLine (reprStr path)] ++ writeBackBlock writeLines ++
        [writeBackIndent ++ replaceLine (reprStr path)] ++ [[]] ++ Inject.scriptTail) ∧
    ∀ s : PyStr, (∀ c ∈ reprStr s, TextWrap.isLineEnd c = false) ∧
      readLiteral (reprStr s) = some s := by
  refine ⟨?_, ?_, fun s => ⟨isLineEnd_of_mem_reprStr h s, readLiteral_reprStr s⟩⟩
  · have hspec : Inject.writeBackSource ⟨.unixSocket, path, timeoutSeconds⟩ =
        (Inject.socketImport, indent (joinLines (connectFront (FloatText.repr timeoutSeconds) ++
          connectLine (reprStr path) :: connectBack)) writeBackIndent) := by
      rw [← writeBackLines_socketTemplate]
      rfl
    rw [script_eq h expression isMasked (by simp) hspec]
    simp only [writeBackBlock, List.map_append, List.map_cons, indent_connectLine h,
      List.append_assoc, List.cons_append, List.nil_append]
  · have hspec : Inject.writeBackSource ⟨.tempfile, path, timeoutSeconds⟩ =
        (Inject.tempfileImport, indent (joinLines (tmpLine (reprStr path) :: writeLines ++
          [replaceLine (reprStr path), []])) writeBackIndent) := by
      rw [← writeBackLines_tempfileTemplate _ (FloatText.repr timeoutSeconds)]
      rfl
    have hempty : indent ([] : PyStr) writeBackIndent = [] := rfl
    rw [script_eq h expression isMasked (by simp) hspec]
    simp only [writeBackBlock, List.map_append, List.map_cons, List.map_nil, indent_tmpLine h,
      indent_replaceLine h, hempty, List.append_assoc, List.cons_append, List.nil_append]

/-- What ends a line is not printable, in a database that knows the fullwidth
letters. -/
theorem isprintable_fullwidth {c : CodePoint} (h : TextWrap.isLineEnd c = true) :
    Unicode.fullwidth.isprintable c = false := by
  simp only [TextWrap.isLineEnd, decide_eq_true_eq] at h
  have hfold : foldFullwidth c = c := by
    rw [foldFullwidth, dif_neg (by omega)]
  show decide (0x20 ≤ (foldFullwidth c).val ∧ (foldFullwidth c).val ≤ 0x7E) = false
  rw [hfold, decide_eq_false_iff_not]
  omega

/-- There, for every expression and every path, with masking, over a socket; `repr` is that
of an interpreter that prints ASCII. -/
theorem literals_embedded_fullwidth :
    letI := Unicode.fullwidth
    letI := Json.wholeFloats
    (∀ c, TextWrap.isLineEnd c = true → Unicode.isprintable c = false) ∧
    ∀ expression path : PyStr,
      buildInjectionScript (buildEvalSource expression true) ⟨.unixSocket, path, 1⟩ =
        joinLines (frontLines Inject.socketImport ++ [expressionLine expression] ++
          bindingLines true ++ [collectorIndent ++ evaluationLine] ++ answerLines ++
          writeBackBlock (connectFront (FloatText.repr 1)) ++
          [writeBackIndent ++ connectLine (reprStr path)] ++ writeBackBlock connectBack ++
          Inject.scriptTail) := by
  let _ := Unicode.fullwidth
  let _ := Json.wholeFloats
  have h : ∀ c, TextWrap.isLineEnd c = true → Unicode.isprintable c = false :=
    fun c hc => isprintable_fullwidth hc
  exact ⟨h, fun expression path => (literals_embedded h expression path true 1).1⟩

end Eval
end Pidprobe
