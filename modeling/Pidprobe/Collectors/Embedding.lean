/-
# A snippet inside the script

What `compose_collector_source` and `build_injection_script` make of the lines of
a snippet: a blank line becomes empty, any other loses the margin of the snippet
and is indented by four and by eight (`exists_script_eq`).
-/

import Pidprobe.Collectors.Text
import Pidprobe.Inject.Template
import Pidprobe.Lib.Indenting

namespace Pidprobe
namespace Snippets

open Glyph
open Protocol (ChannelSpec)
open Inject (buildInjectionScript collectorIndent)

variable [Unicode] {α : Type} [Glyph α]

/-- What the two rounds make of a line. -/
def embedLine (margin : ℕ) (line : List α) : List α :=
  indent (undent margin line) (collectorIndent ++ bodyIndent)

omit [Unicode] in
/-- The text of a function begins with its `def` line. -/
theorem exists_splitNewlines_def (identifier : PyStr) : ∃ (header : List α) (rest : List (List α)),
    splitNewlines (glyphs (py "def " ++ identifier ++ py "():")) =
      (glyph (cp 'd') :: header) :: rest := by
  have hd : isNewline (glyph (cp 'd') : α) = false := by
    rw [isNewline, code_glyph]
    decide
  obtain ⟨header, rest, hrest⟩ := List.exists_cons_of_ne_nil
    (splitNewlines_ne_nil (glyphs (py "ef " ++ identifier ++ py "():") : List α))
  exact ⟨header, rest, splitNewlines_cons hd hrest⟩

/-- The lines of a function, those of its snippet among them. -/
theorem exists_splitNewlines_sectionText {source first last : List α}
    {before core after : List (List α)} (h : splitNewlines source = before ++ core ++ after)
    (hfirst : core.head? = some first) (hlast : core.getLast? = some last)
    (hf : undent (textMargin source) first ≠ []) (hl : undent (textMargin source) last ≠ [])
    (identifier : PyStr) : ∃ back, splitNewlines (sectionText identifier source) =
      splitNewlines (glyphs (py "def " ++ identifier ++ py "():")) ++
        leading (textMargin source) bodyIndent before ++
        core.map (fun line => indent (undent (textMargin source) line) bodyIndent) ++ back := by
  refine ⟨trailing (textMargin source) bodyIndent after ++
    [glyphs (bodyIndent ++ py "return data"), []].flatMap splitNewlines, ?_⟩
  rw [sectionText, splitNewlines_joinLines_flatMap (List.cons_ne_nil _ _), List.flatMap_cons,
    List.flatMap_cons, splitNewlines_indent_stripNewlines_dedent h hfirst hlast hf hl (by decide)]
  simp only [List.append_assoc]

/-- A line of a snippet is left alone by the second `dedent`: it has the indentation of a
body, and the headers have none. -/
theorem undent_indent_undent {source line : List α} (h : line ∈ splitNewlines source) :
    undent 0 (indent (undent (textMargin source) line) bodyIndent) =
      indent (undent (textMargin source) line) bodyIndent :=
  undent_zero (isBlank_indent (isBlank_undent h) bodyIndent)

/-! ## Glyphs that are a code point and nothing else -/

/-- A text of such glyphs: nothing in it is told apart from an ordinary character of the
same code point. -/
def Plain (t : List α) : Prop := ∀ a ∈ t, glyph (code a) = a

omit [Unicode] in
/-- Text as it is written has no marks. -/
theorem plain_glyphs (s : PyStr) : Plain (glyphs s : List α) := by
  intro a ha
  obtain ⟨c, -, rfl⟩ := List.mem_map.1 ha
  rw [code_glyph]

omit [Unicode] in
/-- A text without marks is made of its code points alone. -/
theorem Plain.glyphs_codes {t : List α} (h : Plain t) : glyphs (codes t) = t := by
  rw [glyphs, codes, List.map_map]
  conv_rhs => rw [← List.map_id t]
  exact List.map_congr_left h

omit [Unicode] in
/-- Such a text is known by its code points. -/
theorem Plain.eq_glyphs_iff {t : List α} (h : Plain t) {s : PyStr} :
    t = glyphs s ↔ codes t = s := by
  constructor
  · rintro rfl
    exact codes_glyphs s
  · rintro rfl
    exact h.glyphs_codes.symm

omit [Unicode] in
/-- The beginning of a text without marks has none. -/
theorem Plain.left {s t : List α} (h : Plain (s ++ t)) : Plain s :=
  (List.forall_mem_append.1 h).1

omit [Unicode] in
/-- A pad is made of plain characters, so indenting with it adds no mark. -/
theorem code_glyph_of_mem (pad : PyStr) : ∀ c ∈ pad, glyph (code (glyph c : α)) = (glyph c : α) :=
  fun c _ => by rw [code_glyph]

/-- A function has the glyphs of its snippet and of the text around it. -/
theorem Plain.sectionText {source : List α} (h : Plain source) (identifier : PyStr) :
    Plain (sectionText identifier source) := by
  have hdedent : Plain (dedent source) := by
    rw [dedent_eq]
    refine forall_mem_joinLines (by rw [code_glyph]) fun line hline => ?_
    obtain ⟨line', hline', rfl⟩ := List.mem_map.1 hline
    exact forall_mem_undent (forall_mem_splitNewlines h line' hline') _
  have hstrip : Plain (stripNewlines (dedent source)) := by
    intro a ha
    have ha' := (List.dropWhile_sublist _).subset (List.mem_reverse.1 ha)
    exact hdedent a ((List.dropWhile_sublist _).subset (List.mem_reverse.1 ha'))
  refine forall_mem_joinLines (by rw [code_glyph]) ?_
  simp only [List.forall_mem_cons]
  exact ⟨plain_glyphs _, forall_mem_indent (code_glyph_of_mem _) hstrip, plain_glyphs _,
    List.forall_mem_nil _, List.forall_mem_nil _⟩

/-! ## The script -/

/-- A text with a line that starts a function has no margin. -/
theorem textMargin_of_header {t header : List α} (h : glyph (cp 'd') :: header ∈ splitNewlines t) :
    textMargin t = 0 := by
  refine textMargin_eq_zero h ?_
  rw [code_glyph, Unicode.isspace_ascii _ (by decide)]
  rfl

/-- The two rounds on the lines of a snippet. -/
theorem map_indent_body {source : List α} {core : List (List α)}
    (h : ∀ line ∈ core, line ∈ splitNewlines source) :
    (core.map fun line => indent (undent (textMargin source) line) bodyIndent).map
      (fun line => indent (undent 0 line) collectorIndent) =
        core.map (embedLine (textMargin source)) := by
  rw [List.map_map]
  refine List.map_congr_left fun line hline => ?_
  rw [Function.comp_apply, undent_indent_undent (h line hline), indent_indent (by decide),
    embedLine]

/-- The lines of a snippet in the composition: those between the first and the last that are
not empty, each undented and indented once. -/
theorem exists_splitNewlines_composeText {source first last : List α}
    {before core after : List (List α)} (h : splitNewlines source = before ++ core ++ after)
    (hfirst : core.head? = some first) (hlast : core.getLast? = some last)
    (hf : undent (textMargin source) first ≠ []) (hl : undent (textMargin source) last ≠ [])
    (identifier : PyStr) (earlier later : List (PyStr × List α)) (specs : List (PyStr × PyStr)) :
    ∃ front back, splitNewlines
        (composeText (earlier ++ (identifier, source) :: later) specs) =
          front ++ core.map (fun line => indent (undent (textMargin source) line) bodyIndent) ++
            back ∧
      (∃ header, glyph (cp 'd') :: header ∈ front) ∧
      ((∀ f ∈ earlier, Plain f.2) → (∀ line ∈ before, Plain line) →
        ∀ line ∈ front, Plain line) := by
  obtain ⟨rest, hsection⟩ := exists_splitNewlines_sectionText h hfirst hlast hf hl identifier
  obtain ⟨header, others, hheader⟩ := exists_splitNewlines_def (α := α) identifier
  let section' (f : PyStr × List α) : List (List α) := splitNewlines (sectionText f.1 f.2)
  refine ⟨earlier.flatMap section' ++
      splitNewlines (glyphs (py "def " ++ identifier ++ py "():")) ++
      leading (textMargin source) bodyIndent before,
    rest ++ later.flatMap section' ++
      splitNewlines (glyphs (replace specsPlaceholder (specsText specs) driverSource)),
    ?_, ⟨header, ?_⟩, fun hearlier hbefore => ?_⟩
  · rw [composeText, splitNewlines_joinLines_flatMap (by simp), List.flatMap_append,
      List.flatMap_map, List.flatMap_append, List.flatMap_cons, hsection, List.flatMap_singleton]
    simp only [section', List.append_assoc]
  · rw [hheader]
    simp
  · refine List.forall_mem_append.2 ⟨List.forall_mem_append.2 ⟨fun line hline => ?_, ?_⟩, ?_⟩
    · obtain ⟨f, hf, hline⟩ := List.mem_flatMap.1 hline
      exact forall_mem_splitNewlines ((hearlier f hf).sectionText f.1) line hline
    · exact forall_mem_splitNewlines (plain_glyphs _)
    · exact forall_mem_leading (code_glyph_of_mem _) hbefore

/-- **The lines of a snippet in the script.** They stand together and in order, each
undented, and indented twice. -/
theorem exists_script_eq [FloatText] {source first last : List α}
    {before core after : List (List α)}
    (h : splitNewlines source = before ++ core ++ after) (hfirst : core.head? = some first)
    (hlast : core.getLast? = some last) (hf : undent (textMargin source) first ≠ [])
    (hl : undent (textMargin source) last ≠ []) (identifier : PyStr)
    (earlier later : List (PyStr × List α)) (specs : List (PyStr × PyStr)) (spec : ChannelSpec) :
    ∃ front back, buildInjectionScript
        (composeText (earlier ++ (identifier, source) :: later) specs) spec =
          joinLines (front ++ core.map (embedLine (textMargin source)) ++ back) ∧
      ((∀ f ∈ earlier, Plain f.2) → (∀ line ∈ before, Plain line) →
        ∀ line ∈ front, Plain line) := by
  obtain ⟨front, back, hlines, ⟨header, hheader⟩, hP⟩ :=
    exists_splitNewlines_composeText h hfirst hlast hf hl identifier earlier later specs
  -- the functions start at the left margin
  have hmargin : textMargin (composeText (earlier ++ (identifier, source) :: later) specs) = 0 := by
    have hmem := List.mem_append_left back (List.mem_append_left
      (core.map fun line => indent (undent (textMargin source) line) bodyIndent) hheader)
    rw [← hlines] at hmem
    exact textMargin_of_header hmem
  have hcore : ∀ line ∈ core, line ∈ splitNewlines source := fun line hline =>
    h ▸ List.mem_append_left _ (List.mem_append_right _ hline)
  have hmemf : first ∈ core := List.mem_of_mem_head? hfirst
  have hmeml : last ∈ core := List.mem_of_getLast? hlast
  have hbody := indent_stripNewlines_dedent hlines
    (by rw [List.head?_map, hfirst, Option.map_some])
    (by rw [List.getLast?_map, hlast, Option.map_some])
    (by rw [hmargin, undent_indent_undent (hcore first hmemf)]; exact indent_ne_nil hf bodyIndent)
    (by rw [hmargin, undent_indent_undent (hcore last hmeml)]; exact indent_ne_nil hl bodyIndent)
    collectorIndent
  rw [hmargin, map_indent_body hcore] at hbody
  refine ⟨(Inject.scriptHead (Inject.writeBackSource spec).1).map glyphs ++
      leading 0 collectorIndent front,
    trailing 0 collectorIndent back ++
      (Inject.scriptMiddle ++ (Inject.writeBackSource spec).2 :: Inject.scriptTail).map glyphs,
    ?_, fun hearlier hbefore => ?_⟩
  · have hne : leading 0 collectorIndent front ++ core.map (embedLine (textMargin source)) ++
        trailing 0 collectorIndent back ≠ [] := by
      intro hnil
      simp only [List.append_eq_nil_iff, List.map_eq_nil_iff] at hnil
      exact List.ne_nil_of_mem hmemf hnil.1.2
    rw [Inject.buildInjectionScript_eq, hbody, joinLines_flatten _ _ hne]
    simp only [List.append_assoc]
  · refine List.forall_mem_append.2 ⟨fun line hline => ?_, ?_⟩
    · obtain ⟨text, -, rfl⟩ := List.mem_map.1 hline
      exact plain_glyphs text
    · exact forall_mem_leading (code_glyph_of_mem _) (hP hearlier hbefore)

end Snippets
end Pidprobe
