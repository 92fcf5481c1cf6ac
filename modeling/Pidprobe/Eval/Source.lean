/-
# The source of an evaluation

`build_eval_source`: the rendering, the masking mode and the expression put into a
fixed text, one replacement after the other.  The expression goes in last, so
that it is not looked at again: `buildEvalSource_eq`.
-/

import Pidprobe.Lib.PyRepr
import Pidprobe.Lib.Substitute
import Pidprobe.SafeRepr.Source

namespace Pidprobe
namespace Eval

open Glyph

/-- `_SAFEREPR_PLACEHOLDER`. -/
def safereprPlaceholder : PyStr := py "__PIDPROBE_SAFEREPR__"

/-- `_EXPRESSION_PLACEHOLDER`. -/
def expressionPlaceholder : PyStr := py "__PIDPROBE_EXPRESSION__"

/-- `_MASKING_PLACEHOLDER`. -/
def maskingPlaceholder : PyStr := py "__PIDPROBE_IS_MASKED__"

/-- The lines of `_SOURCE` in front of the comment, with the three placeholders. -/
def sourceHead : List PyStr := pyLines [
  "",
  "__PIDPROBE_SAFEREPR__",
  "",
  "EXPRESSION = __PIDPROBE_EXPRESSION__",
  "IS_MASKED = __PIDPROBE_IS_MASKED__"]

/-- The lines from there to the evaluation: the copy of the target's namespace, and the
empty one. -/
def namespaceLines : List PyStr := pyLines [
  "",
  "# A *copy* of the target's __main__ namespace: the expression reads whatever",
  "# the target's main module holds, while eval()'s own __builtins__ insertion",
  "# and any walrus assignment land in the copy instead of the target's module",
  "# dict. Copying can fail because other threads keep running while the target",
  "# is stopped, and an empty namespace still evaluates literals.",
  "try:",
  "    namespace = dict(vars(_pidprobe_sys.modules[\"__main__\"]))",
  "except Exception:",
  "    namespace = \x7b\x7d",
  ""]

/-- The line that compiles and evaluates what `EXPRESSION` holds, in `eval` mode, so it
takes no statements. -/
def evaluationLine : PyStr :=
  py "value = eval(compile(EXPRESSION, \"<pidprobe-eval>\", \"eval\"), namespace)"

/-- The lines behind the evaluation: the payload, of the type's name and the rendering. -/
def payloadLines : List PyStr := pyLines [
  "",
  "payload = \x7b",
  "    \"type\": type(value).__name__,",
  "    \"result\": safe_repr_named(EXPRESSION, value, is_masked=IS_MASKED),",
  "\x7d"]

/-- The lines of `_SOURCE` from the comment on, none of which has a placeholder
(`clean_sourceTail`). -/
def sourceTail : List PyStr := namespaceLines ++ evaluationLine :: (payloadLines ++ [py ""])

/-- `_SOURCE`. -/
def source : PyStr := joinLines (sourceHead ++ sourceTail)

/-- `repr(is_masked)`. -/
def reprBool : Bool → PyStr
  | true => py "True"
  | false => py "False"

/-- `build_eval_source`: three replacements, the expression last, so that it cannot spell a
placeholder. -/
def buildEvalSource [Unicode] (expression : PyStr) (isMasked : Bool) : PyStr :=
  let rendered := replace safereprPlaceholder (joinLines SafeRepr.injectedSource) source
  let masked := replace maskingPlaceholder (reprBool isMasked) rendered
  replace expressionPlaceholder (reprStr expression) masked

/-! ## The placeholders -/

/-- The placeholder of the renderer begins as all placeholders do. -/
theorem prefix_safereprPlaceholder : py "__PIDPROBE_" <+: safereprPlaceholder := by decide

/-- So does that of the expression. -/
theorem prefix_expressionPlaceholder : py "__PIDPROBE_" <+: expressionPlaceholder := by decide

/-- So does that of the masking flag. -/
theorem prefix_maskingPlaceholder : py "__PIDPROBE_" <+: maskingPlaceholder := by decide

/-- A line in which no placeholder starts: no replacement touches it. -/
def Clean (line : PyStr) : Prop := ¬py "__PIDPROBE_" <:+: line

/-- A literal in which none starts is clean; `rfl` checks it. -/
theorem clean_ofList {cs : List Char} (h : decide ("__PIDPROBE_".toList <:+: cs) = false) :
    Clean (py (String.ofList cs)) := by
  rw [Clean, py, py, List.infix_map_iff]
  rintro ⟨part, hpart, heq⟩
  obtain rfl := List.map_injective_iff.2 cp_injective heq
  rw [String.toList_ofList (l := cs)] at hpart
  exact of_decide_eq_false h hpart

set_option maxRecDepth 100000 in
/-- The lines of the rendering are clean. -/
theorem clean_injectedSource : ∀ line ∈ SafeRepr.injectedSource, Clean line := by
  unfold SafeRepr.injectedSource
  simp only [pyLines, List.map_cons, List.map_nil]
  repeat refine List.forall_mem_cons.2 ⟨clean_ofList rfl, ?_⟩
  exact List.forall_mem_nil _

set_option maxRecDepth 100000 in
/-- So are the fixed lines of the source. -/
theorem clean_sourceTail : ∀ line ∈ sourceTail, Clean line := by
  unfold sourceTail namespaceLines evaluationLine payloadLines
  simp only [pyLines, List.map_cons, List.map_nil, List.cons_append, List.nil_append]
  repeat refine List.forall_mem_cons.2 ⟨clean_ofList rfl, ?_⟩
  exact List.forall_mem_nil _

/-- A clean line is left alone. -/
theorem replace_clean {old line : PyStr} (hold : py "__PIDPROBE_" <+: old) (h : Clean line)
    (new : PyStr) : replace old new line = line :=
  replace_eq_self new fun hi => h (hold.isInfix.trans hi)

/-- Clean lines are left alone, one by one. -/
theorem map_replace_clean {old : PyStr} (hold : py "__PIDPROBE_" <+: old) {lines : List PyStr}
    (h : ∀ line ∈ lines, Clean line) (new : PyStr) : lines.map (replace old new) = lines := by
  conv_rhs => rw [← List.map_id lines]
  exact List.map_congr_left fun line hline => replace_clean hold (h line hline) new

/-- The lines of the source: the rendering, the expression as a literal, the masking mode,
and the fixed text. -/
def evalLines [Unicode] (expression : PyStr) (isMasked : Bool) : List PyStr :=
  [] :: SafeRepr.injectedSource ++
    [] :: (py "EXPRESSION = " ++ reprStr expression) ::
      (py "IS_MASKED = " ++ reprBool isMasked) :: sourceTail

/-- The first replacement: the rendering holds no placeholder, so the other two stay where
they were. -/
theorem replace_safereprPlaceholder :
    replace safereprPlaceholder (joinLines SafeRepr.injectedSource) source =
      joinLines ([] :: SafeRepr.injectedSource ++
        [] :: (py "EXPRESSION = " ++ expressionPlaceholder) ::
          (py "IS_MASKED = " ++ maskingPlaceholder) :: sourceTail) := by
  have hhead : sourceHead.map (replace safereprPlaceholder (joinLines SafeRepr.injectedSource)) =
      [[], joinLines SafeRepr.injectedSource ++ [], [], py "EXPRESSION = " ++ expressionPlaceholder,
        py "IS_MASKED = " ++ maskingPlaceholder] := by
    generalize joinLines SafeRepr.injectedSource = new
    rfl
  rw [source, replace_joinLines (by decide) (by decide), List.map_append, hhead,
    map_replace_clean prefix_safereprPlaceholder clean_sourceTail, List.append_nil]
  exact joinLines_flatten [[]] _ (List.cons_ne_nil _ _)

/-- The second, which is done before the expression is there. -/
theorem replace_maskingPlaceholder (isMasked : Bool) :
    replace maskingPlaceholder (reprBool isMasked) (joinLines ([] :: SafeRepr.injectedSource ++
      [] :: (py "EXPRESSION = " ++ expressionPlaceholder) ::
        (py "IS_MASKED = " ++ maskingPlaceholder) :: sourceTail)) =
      joinLines ([] :: SafeRepr.injectedSource ++
        [] :: (py "EXPRESSION = " ++ expressionPlaceholder) ::
          (py "IS_MASKED = " ++ reprBool isMasked) :: sourceTail) := by
  have hexpression : replace maskingPlaceholder (reprBool isMasked)
      (py "EXPRESSION = " ++ expressionPlaceholder) =
        py "EXPRESSION = " ++ expressionPlaceholder := rfl
  have hmasking : replace maskingPlaceholder (reprBool isMasked)
      (py "IS_MASKED = " ++ maskingPlaceholder) =
        py "IS_MASKED = " ++ (reprBool isMasked ++ []) := rfl
  rw [replace_joinLines (by decide) (by decide)]
  simp only [List.cons_append, List.map_cons, List.map_append, hexpression, hmasking,
    List.append_nil, map_replace_clean prefix_maskingPlaceholder clean_injectedSource,
    map_replace_clean prefix_maskingPlaceholder clean_sourceTail]
  rfl

/-- **The source is its lines, whatever the expression is**: also one that spells the
placeholders. -/
theorem buildEvalSource_eq [Unicode] (expression : PyStr) (isMasked : Bool) :
    buildEvalSource expression isMasked = joinLines (evalLines expression isMasked) := by
  have hexpression : replace expressionPlaceholder (reprStr expression)
      (py "EXPRESSION = " ++ expressionPlaceholder) =
        py "EXPRESSION = " ++ (reprStr expression ++ []) := by
    generalize reprStr expression = new
    rfl
  have hmasking : replace expressionPlaceholder (reprStr expression)
      (py "IS_MASKED = " ++ reprBool isMasked) = py "IS_MASKED = " ++ reprBool isMasked := by
    generalize reprStr expression = new
    cases isMasked <;> rfl
  simp only [buildEvalSource]
  rw [replace_safereprPlaceholder, replace_maskingPlaceholder, replace_joinLines (by decide)
    (by decide)]
  simp only [List.cons_append, List.map_cons, List.map_append, hexpression, hmasking,
    List.append_nil, map_replace_clean prefix_expressionPlaceholder clean_injectedSource,
    map_replace_clean prefix_expressionPlaceholder clean_sourceTail]
  rfl

end Eval
end Pidprobe
