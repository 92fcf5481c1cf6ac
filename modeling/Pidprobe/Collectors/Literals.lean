/-
# The literals of a snippet

A string literal of a snippet in the script: its text is what it was when each of
its lines is empty or one line for `splitlines`, and, where it has more than one,
the margin of the snippet is the indentation of the script
(`literal_kept_iff`).
-/

import Pidprobe.Collectors.Embedding
import Pidprobe.Registry

namespace Pidprobe
namespace Snippets

open Glyph
open Protocol (ChannelSpec)
open Inject (buildInjectionScript collectorIndent)

variable [Unicode] {α : Type} [Glyph α]

/-! ## The lines around a glyph -/

/-- Where a snippet goes in the script: four blanks for its function, and eight for the
collector source as a whole. -/
def snippetIndent : PyStr := collectorIndent ++ bodyIndent

omit [Unicode] in
/-- The indentation of a snippet is made of blanks, as `dedent` wants a margin to be. -/
theorem isMargin_snippetIndent : IsMargin snippetIndent := by decide

omit [Unicode] in
/-- It is not empty. -/
theorem snippetIndent_ne_nil : snippetIndent ≠ [] := by decide

/-- The margin of a snippet. -/
abbrev marginOf (source : List α) : PyStr :=
  TextWrap.marginText (TextWrap.splitNewlines (codes source))

/-- A line is embedded by taking the margin of its snippet off and putting that of the
function on. -/
theorem embedLine_eq (margin : ℕ) (line : List α) :
    embedLine margin line = indent (undent margin line) snippetIndent := rfl

/-- A glyph that is not blank is behind the margin, so taking the margin off keeps it and
what follows it. -/
theorem exists_undent_eq {source s u : List α} {x : α} (hx : Solid x)
    (h : s ++ x :: u ∈ splitNewlines source) : ∃ margin s', s = margin ++ s' ∧ IsMargin margin ∧
      codes margin = marginOf source ∧ undent (textMargin source) (s ++ x :: u) = s' ++ x :: u := by
  obtain ⟨margin, rest, heq, hm, hcodes, -, -, hundent⟩ :=
    exists_margin h (by simp) (hx.isBlank s u)
  rcases List.append_eq_append_iff.1 heq with ⟨s', hs', hrest⟩ | ⟨s', rfl, hrest⟩
  · rcases s' with _ | ⟨a, s'⟩
    · rw [List.append_nil] at hs'
      exact ⟨margin, [], by rw [hs', List.append_nil], hm, hcodes, hundent.trans hrest.symm⟩
    · -- the glyph would be in the margin
      obtain ⟨rfl, -⟩ := List.cons_eq_cons.1 hrest
      have hspace := hm.isspace x (hs' ▸ List.mem_append_right _ (List.mem_cons_self ..))
      rw [hx.isspace] at hspace
      cases hspace
  · exact ⟨margin, s', rfl, hm, hcodes, hundent.trans hrest⟩

/-- Taking the margin off leaves a line with a solid character in it: the margin ends in
front of the first one. -/
theorem undent_ne_nil {source s u : List α} {x : α} (hx : Solid x)
    (h : s ++ x :: u ∈ splitNewlines source) : undent (textMargin source) (s ++ x :: u) ≠ [] := by
  obtain ⟨-, s', -, -, -, hundent⟩ := exists_undent_eq hx h
  simp [hundent]

/-- **A line around a glyph that is not blank**, in the script: moved at its front, and the
rest of it indented where it breaks. -/
theorem exists_embedLine_eq {source s u : List α} {x : α} (hx : Solid x)
    (h : s ++ x :: u ∈ splitNewlines source) : ∃ s',
      embedLine (textMargin source) (s ++ x :: u) = s' ++ x :: indentRest u snippetIndent ∧
      (∀ P : α → Prop, (∀ c ∈ snippetIndent, P (glyph c)) → (∀ a ∈ s, P a) → ∀ a ∈ s', P a) ∧
      (Plain s → (s' = s ↔ marginOf source = snippetIndent ∧ OneLine (s ++ [x]))) := by
  obtain ⟨margin, rest, rfl, hm, hcodes, hundent⟩ := exists_undent_eq hx h
  obtain ⟨s', hs', hP⟩ := indent_concat_solid hx rest snippetIndent
  refine ⟨s', ?_, fun P hpad hs => hP P hpad fun a ha => hs a (List.mem_append_right _ ha),
    fun hplain => ?_⟩
  · rw [embedLine_eq, hundent, indent_append_solid hx, hs', List.append_assoc,
      List.singleton_append]
  · have hline := indent_eq_append_iff isMargin_snippetIndent snippetIndent_ne_nil hm
      (by simp : rest ++ [x] ≠ []) (hx.isBlank rest [])
    rw [hs', hplain.left.eq_glyphs_iff, hcodes, ← List.append_assoc,
      List.append_cancel_right_eq] at hline
    exact hline

/-- A text with a solid first character is no blank line. -/
theorem isBlank_of_oneLine {line : List α} (h : OneLine line) : isBlank line = false := by
  obtain ⟨first, others, hsplit, hfirst, -⟩ := h
  refine Bool.eq_false_iff.2 fun hblank => Bool.eq_false_iff.1 hfirst ?_
  have hmem : first ∈ splitLines line := hsplit ▸ List.mem_cons_self ..
  refine isBlank_iff.2 ⟨ne_nil_of_mem_splitLines hmem, fun a ha => ?_⟩
  refine (isBlank_iff.1 hblank).2 a ?_
  rw [← flatten_splitLines line]
  exact List.mem_flatten_of_mem hmem ha

/-- **A line without a quote**, in the script: it is the same line where it is empty, or
where the margin is the place it goes to. -/
theorem embedLine_eq_self_iff {source line : List α} (h : line ∈ splitNewlines source)
    (hplain : Plain line) : embedLine (textMargin source) line = line ↔
      line = [] ∨ marginOf source = snippetIndent ∧ OneLine line := by
  rw [embedLine_eq]
  by_cases hne : line = []
  · subst hne
    refine iff_of_true ?_ (.inl rfl)
    rw [undent, if_neg (by rintro ⟨⟩), List.drop_nil, indent_nil]
  by_cases hb : isBlank line = true
  · rw [undent, if_pos hb, indent_nil]
    refine iff_of_false (Ne.symm hne) ?_
    rintro (h | ⟨-, h⟩)
    · exact hne h
    · rw [isBlank_of_oneLine h] at hb
      cases hb
  · obtain ⟨margin, rest, rfl, hm, hcodes, hrne, hrb, hundent⟩ :=
      exists_margin h hne (Bool.eq_false_iff.2 hb)
    have hline := indent_eq_append_iff isMargin_snippetIndent snippetIndent_ne_nil hm hrne hrb
    rw [hplain.left.eq_glyphs_iff, hcodes] at hline
    rw [hundent, hline, or_iff_right hne]

/-- The lines of a literal come through both rounds unchanged exactly where each is empty
or the margin of its snippet is the one that is put on. -/
theorem map_embedLine_eq_self_iff {source : List α} {lines : List (List α)}
    (h : ∀ line ∈ lines, line ∈ splitNewlines source) (hplain : ∀ line ∈ lines, Plain line) :
    lines.map (embedLine (textMargin source)) = lines ↔
      ∀ line ∈ lines, line = [] ∨ marginOf source = snippetIndent ∧ OneLine line := by
  conv_lhs => rw [← List.map_id lines, List.map_map, List.map_inj_left]
  exact forall₂_congr fun line hline => embedLine_eq_self_iff (h line hline) (hplain line hline)

/-- What holds of the lines and of the pad holds of the lines in the script. -/
theorem forall_mem_map_embedLine {P : α → Prop} (hpad : ∀ c ∈ snippetIndent, P (glyph c))
    {lines : List (List α)} (h : ∀ line ∈ lines, ∀ a ∈ line, P a) (margin : ℕ) :
    ∀ line ∈ lines.map (embedLine margin), ∀ a ∈ line, P a := by
  intro line hline
  obtain ⟨line', hline', rfl⟩ := List.mem_map.1 hline
  exact forall_mem_indent hpad (forall_mem_undent (h line' hline') _)

/-! ## A text between two glyphs -/

/-- What keeps a text between two glyphs as it is: every line of it, the glyphs included, is
empty or one line of `str.splitlines` with blank ones at most behind it, and where there are
several lines, the margin of the source is the one they get in the script. -/
def Keeps (source : List α) (x : α) (t : List α) (y : α) : Prop :=
  (∀ line ∈ splitNewlines (x :: t ++ [y]), line = [] ∨ OneLine line) ∧
    ((∃ a ∈ t, isNewline a = true) → marginOf source = snippetIndent)

omit [Unicode] in
/-- Joined lines determine the lines, where none of them holds a line break, so a text is
kept where its lines are. -/
theorem joinLines_inj {lines lines' : List (List α)} (hne : lines ≠ []) (hne' : lines' ≠ [])
    (h : ∀ line ∈ lines, Unbroken line) (h' : ∀ line ∈ lines', Unbroken line) :
    joinLines lines = joinLines lines' ↔ lines = lines' := by
  refine ⟨fun heq => ?_, fun heq => heq ▸ rfl⟩
  have := congrArg splitNewlines heq
  rwa [splitNewlines_joinLines hne h, splitNewlines_joinLines hne' h'] at this

omit [Unicode] in
/-- What stands at the front of the first line stands at the front of the text. -/
theorem joinLines_cons_append (s line : List α) (lines : List (List α)) :
    joinLines ((s ++ line) :: lines) = s ++ joinLines (line :: lines) := by
  have := joinLines_append_lines [] lines s line
  rwa [List.nil_append, List.nil_append, joinLines_singleton, eq_comm] at this

omit [Unicode] in
/-- So does its first character. -/
theorem joinLines_cons_cons (a : α) (line : List α) (lines : List (List α)) :
    joinLines ((a :: line) :: lines) = a :: joinLines (line :: lines) :=
  joinLines_cons_append [a] line lines

omit [Unicode] in
/-- Lines with a glyph in the first of them, and one in the last: what is between the two is
the text of a literal. -/
theorem joinLines_eq_around (front back mid : List (List α)) (s first last u : List α) (x y : α) :
    joinLines (front ++ ((s ++ x :: first) :: mid ++ [last ++ y :: u]) ++ back) =
      joinLines (front ++ [s]) ++ x :: joinLines (first :: mid ++ [last]) ++
        y :: joinLines (u :: back) := by
  calc joinLines (front ++ ((s ++ x :: first) :: mid ++ [last ++ y :: u]) ++ back)
      = joinLines (front ++ (s ++ x :: first) :: (mid ++ (last ++ y :: u) :: back)) := by simp
    _ = joinLines (front ++ [s]) ++ joinLines ((x :: first) :: mid ++ (last ++ y :: u) :: back) :=
        (joinLines_append_lines _ _ _ _).symm
    _ = joinLines (front ++ [s]) ++
          (joinLines ((x :: first) :: mid ++ [last]) ++ joinLines ((y :: u) :: back)) := by
        rw [joinLines_append_lines]
    _ = joinLines (front ++ [s]) ++ x :: joinLines (first :: mid ++ [last]) ++
          y :: joinLines (u :: back) := by
        rw [List.cons_append, joinLines_cons_cons, joinLines_cons_cons]
        simp

omit [Unicode] in
/-- A text inside one line is found between the lines in front of it and those behind it.
-/
theorem joinLines_eq_around_unbroken (front back : List (List α)) (s t u : List α) (x y : α) :
    joinLines (front ++ [s ++ x :: t ++ y :: u] ++ back) =
      joinLines (front ++ [s]) ++ x :: t ++ y :: joinLines (u :: back) := by
  calc joinLines (front ++ [s ++ x :: t ++ y :: u] ++ back)
      = joinLines (front ++ (s ++ (x :: t ++ y :: u)) :: back) := by simp
    _ = joinLines (front ++ [s]) ++ joinLines ((x :: t ++ [y] ++ u) :: back) := by
        rw [joinLines_append_lines]
        simp
    _ = joinLines (front ++ [s]) ++ x :: t ++ y :: joinLines (u :: back) := by
        rw [joinLines_cons_append]
        simp

omit [Unicode] in
/-- Splitting a text at its line breaks and joining the lines again gives the text back.
-/
theorem joinLines_splitNewlines {t : List α} (h : Plain t) : joinLines (splitNewlines t) = t := by
  induction t with
  | nil => rfl
  | cons a t ih =>
    obtain ⟨ha, ht⟩ := List.forall_mem_cons.1 h
    obtain ⟨first, rest, hsplit⟩ := List.exists_cons_of_ne_nil (splitNewlines_ne_nil t)
    have ih := ih ht
    by_cases hn : isNewline a = true
    · have hcode : code a = cp '\n' := of_decide_eq_true hn
      rw [splitNewlines_cons_of_newline hn, joinLines_cons _ (splitNewlines_ne_nil t), ih,
        List.nil_append, ← hcode, ha]
    · rw [hsplit] at ih
      rw [splitNewlines_cons (Bool.eq_false_iff.2 hn) hsplit, joinLines_cons_cons, ih]

omit [Unicode] in
/-- The line a glyph is in, with the lines in front of it, none of which holds a mark. -/
theorem exists_splitNewlines_append {x : α} (hx : isNewline x = false) {t first : List α}
    {rest : List (List α)} (ht : splitNewlines t = first :: rest) {before : List α}
    (hbefore : Plain before) : ∃ front s, Plain s ∧ (∀ line ∈ front, Plain line) ∧
      splitNewlines (before ++ x :: t) = front ++ (s ++ x :: first) :: rest := by
  obtain ⟨front, s, hsplit⟩ := (splitNewlines before).eq_nil_or_concat.resolve_left
    (splitNewlines_ne_nil _)
  have hplain : ∀ line ∈ splitNewlines before, Plain line := forall_mem_splitNewlines hbefore
  rw [List.concat_eq_append] at hsplit
  rw [hsplit] at hplain
  obtain ⟨hfront, hs⟩ := List.forall_mem_append.1 hplain
  exact ⟨front, s, List.forall_mem_singleton.1 hs, hfront,
    splitNewlines_append_lines hsplit (splitNewlines_cons hx ht)⟩

section

variable {x y : α} (hx : Solid x) (hy : Solid y)

include hx hy

/-- A literal of one line is kept exactly where its line is not blank, quotes included. -/
theorem keeps_iff_of_unbroken (source : List α) {text : List α} (h : Unbroken text) :
    Keeps source x text y ↔ OneLine (x :: (text ++ [y])) := by
  have hunbroken : Unbroken (x :: text ++ [y]) :=
    List.forall_mem_append.2 ⟨List.forall_mem_cons.2 ⟨hx.isNewline, h⟩,
      List.forall_mem_singleton.2 hy.isNewline⟩
  rw [Keeps, splitNewlines_of_unbroken hunbroken, List.forall_mem_singleton]
  constructor
  · rintro ⟨hline, -⟩
    exact hline.resolve_left (by simp)
  · refine fun hline => ⟨.inr hline, ?_⟩
    rintro ⟨a, ha, hn⟩
    rw [h a ha] at hn
    cases hn

/-- A literal of several lines is kept exactly where the first and the last are not blank,
and those between are empty or have the margin the snippet's lines are given. -/
theorem keeps_iff_of_broken (source : List α) {text first last : List α} {mid : List (List α)}
    (h : splitNewlines text = first :: mid ++ [last]) :
    Keeps source x text y ↔ OneLine (x :: first) ∧
      (∀ line ∈ mid, line = [] ∨ marginOf source = snippetIndent ∧ OneLine line) ∧
      marginOf source = snippetIndent ∧ OneLine (last ++ [y]) := by
  have hlines : splitNewlines (x :: text ++ [y]) = (x :: first) :: mid ++ [last ++ [y]] := by
    have hcons := splitNewlines_cons hx.isNewline h
    have hy' := splitNewlines_of_unbroken (List.forall_mem_singleton.2 hy.isNewline)
    exact splitNewlines_append_lines hcons hy'
  have hbroken : ∃ a ∈ text, isNewline a = true := by
    by_contra hnot
    have hunbroken : Unbroken text := fun a ha => by
      rw [← Bool.not_eq_true]
      exact fun hn => hnot ⟨a, ha, hn⟩
    rw [splitNewlines_of_unbroken hunbroken] at h
    simpa using congrArg List.length h
  rw [Keeps, hlines]
  simp only [hbroken, forall_const, List.cons_append, List.forall_mem_cons, List.forall_mem_append]
  constructor
  · rintro ⟨⟨hfirst, hmid, hlast, -⟩, hmargin⟩
    refine ⟨hfirst.resolve_left (by simp), fun line hline => ?_, hmargin,
      hlast.resolve_left (by simp)⟩
    exact (hmid line hline).imp_right (⟨hmargin, ·⟩)
  · rintro ⟨hfirst, hmid, hmargin, hlast⟩
    refine ⟨⟨.inr hfirst, fun line hline => ?_, .inr hlast, List.forall_mem_nil _⟩, hmargin⟩
    exact (hmid line hline).imp_right (·.2)

variable [FloatText] {before text after : List α} (hbefore : Plain before) (htext : Plain text)
  (identifier : PyStr) {earlier : List (PyStr × List α)} (hearlier : ∀ f ∈ earlier, Plain f.2)
  (later : List (PyStr × List α)) (specs : List (PyStr × PyStr)) (spec : ChannelSpec)

include hbefore hearlier htext

/-- Where a literal of one line stands in the script: between what surrounds it and is
moved with it. -/
theorem exists_script_of_unbroken (h : Unbroken text) : ∃ front text' back,
    buildInjectionScript (composeText (earlier ++
      (identifier, before ++ x :: (text ++ y :: after)) :: later) specs) spec =
        front ++ x :: text' ++ y :: back ∧ Plain front ∧ Plain text' ∧
      (text' = text ↔ Keeps (before ++ x :: (text ++ y :: after)) x text y) := by
  obtain ⟨u, back, hafter⟩ := List.exists_cons_of_ne_nil (splitNewlines_ne_nil after)
  have hone : splitNewlines text = [] ++ [text] := splitNewlines_of_unbroken h
  have htail := splitNewlines_append_lines hone (splitNewlines_cons hy.isNewline hafter)
  rw [List.nil_append] at htail
  obtain ⟨front, s, hs, hfront, hsplit⟩ :=
    exists_splitNewlines_append hx.isNewline htail hbefore
  generalize hsource : before ++ x :: (text ++ y :: after) = source at hsplit ⊢
  have hmem : s ++ x :: (text ++ y :: u) ∈ splitNewlines source := by simp [hsplit]
  obtain ⟨s', hembed, hs', -⟩ := exists_embedLine_eq hx hmem
  have hne := undent_ne_nil hx hmem
  obtain ⟨text', htext', hplain'⟩ := indentRest_concat_solid hy text snippetIndent
  have hline : embedLine (textMargin source) (s ++ x :: (text ++ y :: u)) =
      s' ++ x :: text' ++ y :: indentRest u snippetIndent := by
    rw [hembed, indentRest_append_solid hy, htext']
    simp
  obtain ⟨front', back', hscript, hfront'⟩ := exists_script_eq
    (hsplit.trans (by rw [List.append_assoc, List.singleton_append]) :
      splitNewlines source = front ++ [s ++ x :: (text ++ y :: u)] ++ back)
    rfl rfl hne hne identifier earlier later specs spec
  refine ⟨joinLines (front' ++ [s']), text', joinLines (indentRest u snippetIndent :: back'),
    ?_, ?_, hplain' _ (code_glyph_of_mem _) htext, ?_⟩
  · rw [hscript, List.map_singleton, hline]
    exact joinLines_eq_around_unbroken ..
  · refine forall_mem_joinLines (by rw [code_glyph]) (List.forall_mem_append.2 ⟨?_, ?_⟩)
    · exact hfront' hearlier hfront
    · exact List.forall_mem_singleton.2 (hs' _ (code_glyph_of_mem _) hs)
  · rw [keeps_iff_of_unbroken hx hy source h, ← indentRest_eq_self_iff snippetIndent_ne_nil hx,
      htext', List.append_cancel_right_eq]

/-- Where the lines of a literal stand in the script, each moved on its own: they are the
same lines exactly where `Keeps` says so. -/
theorem exists_script_of_broken {first last : List α} {mid : List (List α)}
    (h : splitNewlines text = first :: mid ++ [last]) : ∃ front text' back,
    buildInjectionScript (composeText (earlier ++
      (identifier, before ++ x :: (text ++ y :: after)) :: later) specs) spec =
        front ++ x :: text' ++ y :: back ∧ Plain front ∧ Plain text' ∧
      (text' = text ↔ Keeps (before ++ x :: (text ++ y :: after)) x text y) := by
  obtain ⟨u, back, hafter⟩ := List.exists_cons_of_ne_nil (splitNewlines_ne_nil after)
  have htail := splitNewlines_append_lines h (splitNewlines_cons hy.isNewline hafter)
  rw [List.cons_append] at htail
  obtain ⟨front, s, hs, hfront, hsplit⟩ :=
    exists_splitNewlines_append hx.isNewline htail hbefore
  generalize hsource : before ++ x :: (text ++ y :: after) = source at hsplit ⊢
  have hcore : splitNewlines source =
      front ++ ((s ++ x :: first) :: mid ++ [last ++ y :: u]) ++ back := by simp [hsplit]
  have hmem : s ++ x :: first ∈ splitNewlines source := by simp [hsplit]
  have hmem' : last ++ y :: u ∈ splitNewlines source := by simp [hsplit]
  have hplain : ∀ line ∈ first :: mid ++ [last], Plain line := h ▸ forall_mem_splitNewlines htext
  have hunbroken : ∀ line ∈ first :: mid ++ [last], Unbroken line :=
    h ▸ unbroken_of_mem_splitNewlines
  simp only [List.cons_append, List.forall_mem_cons, List.forall_mem_append] at hplain hunbroken
  obtain ⟨hpfirst, hpmid, hplast, -⟩ := hplain
  obtain ⟨hufirst, humid, hulast, -⟩ := hunbroken
  obtain ⟨s', hembed, hs', -⟩ := exists_embedLine_eq hx hmem
  obtain ⟨last', hembed', hlast', hkeep⟩ := exists_embedLine_eq hy hmem'
  obtain ⟨front', back', hscript, hfront'⟩ :=
    exists_script_eq hcore rfl (by rw [List.getLast?_append]; rfl) (undent_ne_nil hx hmem)
      (undent_ne_nil hy hmem') identifier earlier later specs spec
  -- what holds of the lines of the text and of the pad holds of the new lines
  have hlines : ∀ P : α → Prop, (∀ c ∈ snippetIndent, P (glyph c)) → (∀ a ∈ first, P a) →
      (∀ line ∈ mid, ∀ a ∈ line, P a) → (∀ a ∈ last, P a) →
      ∀ line ∈ indentRest first snippetIndent :: mid.map (embedLine (textMargin source)) ++ [last'],
        ∀ a ∈ line, P a := by
    intro P hpad hf hm hl
    rw [List.cons_append, List.forall_mem_cons, List.forall_mem_append, List.forall_mem_singleton]
    exact ⟨forall_mem_indentRest hpad hf, forall_mem_map_embedLine hpad hm _, hlast' P hpad hl⟩
  refine ⟨joinLines (front' ++ [s']), joinLines (indentRest first snippetIndent ::
      mid.map (embedLine (textMargin source)) ++ [last']),
    joinLines (indentRest u snippetIndent :: back'), ?_, ?_, ?_, ?_⟩
  · rw [hscript, List.map_append, List.map_cons, List.map_singleton, hembed, hembed']
    exact joinLines_eq_around ..
  · refine forall_mem_joinLines (by rw [code_glyph]) (List.forall_mem_append.2 ⟨?_, ?_⟩)
    · exact hfront' hearlier hfront
    · exact List.forall_mem_singleton.2 (hs' _ (code_glyph_of_mem _) hs)
  · exact forall_mem_joinLines (by rw [code_glyph])
      (hlines _ (code_glyph_of_mem _) hpfirst hpmid hplast)
  · have hunbroken' := hlines (isNewline · = false) (unbroken_of_isMargin isMargin_snippetIndent)
      hufirst humid hulast
    have hmid : ∀ line ∈ mid, line ∈ splitNewlines source := by
      intro line hline
      rw [hcore]
      simp [hline]
    have htext' : text = joinLines (first :: mid ++ [last]) :=
      h ▸ (joinLines_splitNewlines htext).symm
    conv_lhs => rw [htext']
    rw [joinLines_inj (by simp) (by simp) hunbroken' (h ▸ unbroken_of_mem_splitNewlines),
      keeps_iff_of_broken hx hy source h, List.cons_append, List.cons_append, List.cons_eq_cons,
      List.append_singleton_inj, map_embedLine_eq_self_iff hmid hpmid, hkeep hplast,
      indentRest_eq_self_iff snippetIndent_ne_nil hx]

/-- **A text between two glyphs in the script.** It is found between the same two glyphs,
and it is the same text exactly where `Keeps` says so. -/
theorem exists_script_around : ∃ front text' back,
    buildInjectionScript (composeText (earlier ++
      (identifier, before ++ x :: (text ++ y :: after)) :: later) specs) spec =
        front ++ x :: text' ++ y :: back ∧ Plain front ∧ Plain text' ∧
      (text' = text ↔ Keeps (before ++ x :: (text ++ y :: after)) x text y) := by
  obtain ⟨init, last, hsplit⟩ := (splitNewlines text).eq_nil_or_concat.resolve_left
    (splitNewlines_ne_nil _)
  rw [List.concat_eq_append] at hsplit
  rcases init with _ | ⟨first, mid⟩
  · have hunbroken : Unbroken text := by
      rw [← joinLines_splitNewlines htext, hsplit, List.nil_append, joinLines_singleton]
      exact unbroken_of_mem_splitNewlines last (by rw [hsplit]; exact List.mem_singleton_self last)
    exact exists_script_of_unbroken hx hy hbefore htext identifier hearlier later specs spec
      hunbroken
  · exact exists_script_of_broken hx hy hbefore htext identifier hearlier later specs spec hsplit

end

/-- Whether a line is blank does not depend on marks. -/
theorem isBlank_codes (line : List α) : isBlank (codes line) = isBlank line := by
  rw [isBlank, codes_codePoint, isBlank]

omit [Unicode] in
/-- Neither does how a text is split into lines. -/
theorem splitLines_codes (t : List α) : splitLines (codes t) = (splitLines t).map codes := by
  rw [codes_splitLines, ← map_codes_codePoint (splitLines _), codes_splitLines, codes_codePoint]

omit [Unicode] in
/-- Nor how it is split at its newlines. -/
theorem splitNewlines_codes (t : List α) :
    splitNewlines (codes t) = (splitNewlines t).map codes := by
  rw [codes_splitNewlines, ← map_codes_codePoint (splitNewlines _), codes_splitNewlines,
    codes_codePoint]

/-- Nor whether a text is one line. -/
theorem oneLine_codes {line : List α} : OneLine (codes line) ↔ OneLine line := by
  rw [OneLine, OneLine, splitLines_codes]
  rcases splitLines line with _ | ⟨first, others⟩
  · simp
  · simp [isBlank_codes]

/-- Only the code points count. -/
theorem keeps_codes {source text : List α} {x y : α} :
    Keeps (codes source) (code x) (codes text) (code y) ↔ Keeps source x text y := by
  have happend : code x :: codes text ++ [code y] = codes (x :: text ++ [y]) := by
    rw [codes_append]
    rfl
  rw [Keeps, Keeps, happend, splitNewlines_codes, List.forall_mem_map, marginOf, marginOf,
    codes_codePoint]
  refine and_congr (forall₂_congr fun line _ => ?_) (imp_congr_left ?_)
  · rw [oneLine_codes, codes, List.map_eq_nil_iff]
  · rw [codes]
    simp only [List.mem_map, exists_exists_and_eq_and]
    rfl

end Snippets

/-! ## The literals of a composition -/

open Snippets Glyph
open Protocol (ChannelSpec)
open Inject (buildInjectionScript)

/-- A character of a script, the quotes of one literal told apart. Everything that only
moves characters treats a quote as its code point. -/
inductive Sym
  | char (c : CodePoint)
  | opening (c : CodePoint)
  | closing (c : CodePoint)

instance : Glyph Sym where
  code
    | .char c => c
    | .opening c => c
    | .closing c => c
  glyph := .char
  code_glyph _ := rfl

/-- The text between the quotes that are told apart: what the literal is in a source, or has
become in the script. -/
def literalText (t : List Sym) : PyStr :=
  let opened := t.dropWhile fun | .opening _ => false | _ => true
  codes (opened.tail.takeWhile fun | .closing _ => false | _ => true)

/-- The text of a literal is what stands between its marked quotes, where no other mark is
in front. -/
theorem literalText_eq {front text : List Sym} (hfront : Plain front) (htext : Plain text)
    (opening closing : CodePoint) (back : List Sym) :
    literalText (front ++ .opening opening :: text ++ .closing closing :: back) = codes text := by
  have hfront' : ∀ a ∈ front, (fun | .opening _ => false | _ => true : Sym → Bool) a = true := by
    intro a ha
    have := hfront a ha
    cases a <;> first | rfl | cases this
  have htext' : ∀ a ∈ text, (fun | .closing _ => false | _ => true : Sym → Bool) a = true := by
    intro a ha
    have := htext a ha
    cases a <;> first | rfl | cases this
  simp only [literalText]
  rw [List.append_assoc, List.dropWhile_append_of_pos hfront', List.cons_append,
    List.dropWhile_cons_of_neg (by simp), List.tail_cons, List.takeWhile_append_of_pos htext',
    List.takeWhile_cons_of_neg (by simp), List.append_nil]

/-- `"` or `'`: the characters that open and close a literal, single or triple. -/
def IsQuote (c : CodePoint) : Prop := c = cp '"' ∨ c = apostrophe

instance (c : CodePoint) : Decidable (IsQuote c) := inferInstanceAs (Decidable (_ ∨ _))

section

variable [Unicode]

/-- A quote is neither a blank nor the end of a line. -/
theorem IsQuote.solid {c : CodePoint} (h : IsQuote c) : Solid c := by
  rcases h with rfl | rfl
  · exact ⟨by decide, (Unicode.isspace_ascii _ (by decide)).trans (by decide)⟩
  · exact ⟨by decide, (Unicode.isspace_ascii _ (by decide)).trans (by decide)⟩

/-- A string literal in the source of one of the collectors of a composition: the
text between two quotes, of a triple-quoted literal the innermost ones. -/
structure Literal (collectors : List Collector) where
  script : Composition
  compose_eq : composeCollectorSource collectors = .ok script
  earlier : List SectionFunction
  function : SectionFunction
  later : List SectionFunction
  functions_eq : script.functions = earlier ++ function :: later
  before : PyStr
  opening : CodePoint
  text : PyStr
  closing : CodePoint
  after : PyStr
  source_eq : function.collector.source = before ++ opening :: (text ++ closing :: after)
  opening_quote : IsQuote opening
  closing_quote : IsQuote closing

namespace Literal

variable {collectors : List Collector}

/-- The source with the quotes told apart. Without the marks it is the source itself
(`codes_marked`). -/
def marked (l : Literal collectors) : List Sym :=
  glyphs l.before ++ .opening l.opening :: (glyphs l.text ++ .closing l.closing :: glyphs l.after)

/-- The script of the marked source, made by the functions that make the script of the
source. -/
def markedScript [FloatText] (l : Literal collectors) (spec : ChannelSpec) : List Sym :=
  buildInjectionScript (composeText
    (l.earlier.map (fun f => (f.identifier, glyphs f.collector.source)) ++
      (l.function.identifier, l.marked) ::
        l.later.map (fun f => (f.identifier, glyphs f.collector.source))) l.script.specs) spec

/-- What keeps the literal as it is: each of its lines, quotes included, is empty
or one line for `splitlines`, and where it has several the margin of the source
is the indentation of the script. -/
def Keeps (l : Literal collectors) : Prop :=
  Snippets.Keeps l.function.collector.source l.opening l.text l.closing

/-- Without its marks, the source of a literal is the snippet's. -/
theorem codes_marked (l : Literal collectors) : codes l.marked = l.function.collector.source := by
  rw [l.source_eq, marked]
  simp only [codes_append, codes_cons, codes_glyphs]
  rfl

/-- But for the marks, it is the script of the composition. -/
theorem codes_markedScript [FloatText] (l : Literal collectors) (spec : ChannelSpec) :
    codes (l.markedScript spec) = buildInjectionScript l.script.text spec := by
  rw [markedScript, Inject.codes_buildInjectionScript, codes_composeText, Composition.text,
    l.functions_eq]
  simp [codes_marked, Function.comp_def]

/-- The text that stands between the quotes in the script is that of the literal exactly
where its lines survive both rounds. -/
theorem literalText_markedScript [FloatText] (l : Literal collectors) (spec : ChannelSpec) :
    literalText (l.markedScript spec) = l.text ↔ l.Keeps := by
  have hplain : ∀ f ∈ l.earlier.map (fun f => (f.identifier, glyphs f.collector.source)),
      Plain (f.2 : List Sym) := by
    intro f hf
    obtain ⟨g, -, rfl⟩ := List.mem_map.1 hf
    exact plain_glyphs _
  have hx : Solid (Sym.opening l.opening) := ⟨l.opening_quote.solid.1, l.opening_quote.solid.2⟩
  have hy : Solid (Sym.closing l.closing) := ⟨l.closing_quote.solid.1, l.closing_quote.solid.2⟩
  obtain ⟨front, text, back, hscript, hfront, htext, hkeeps⟩ :=
    exists_script_around hx hy (plain_glyphs l.before) (plain_glyphs l.text) l.function.identifier
      hplain (l.later.map fun f => (f.identifier, glyphs f.collector.source)) l.script.specs spec
  have hcodes : Snippets.Keeps (codes l.marked) (code (Sym.opening l.opening))
      (codes (glyphs l.text : List Sym)) (code (Sym.closing l.closing)) ↔
        Snippets.Keeps l.marked (Sym.opening l.opening) (glyphs l.text)
          (Sym.closing l.closing) := keeps_codes
  rw [codes_marked, codes_glyphs] at hcodes
  rw [markedScript, marked, hscript, literalText_eq hfront htext, ← htext.eq_glyphs_iff, hkeeps,
    ← marked, ← hcodes]
  rfl

end Literal

/-- **A literal keeps its text exactly where its lines survive the two rounds.**

The script is the one `build_injection_script` makes of the composition, and the
text is what stands in it between the quotes of the literal. -/
theorem literal_kept_iff [FloatText] (collectors : List Collector) (l : Literal collectors)
    (spec : ChannelSpec) : codes (l.markedScript spec) = buildInjectionScript l.script.text spec ∧
      (literalText (l.markedScript spec) = l.text ↔ l.Keeps) :=
  ⟨l.codes_markedScript spec, l.literalText_markedScript spec⟩

end

/-- A snippet with a literal of two lines, the second of which begins at the margin. -/
def multilineSource : PyStr := py "data = \"\"\"first\nsecond\"\"\""

/-- Its collector, which the prober accepts: the name is an identifier. -/
def multilineCollector : @Collector Unicode.fullwidth :=
  @Collector.mk Unicode.fullwidth (py "probe") multilineSource [] (by decide) (by decide)

/-- What an entry point publishes for it. -/
def multilinePlugin : Registry.Published ExcData :=
  .object
    { typeName := py "Collector"
      name := .ok (some (py "probe"))
      source := .ok (some multilineSource)
      description := .ok (some []) }

/-- The literal, between the innermost two of its six quotes. -/
def multilineLiteral : @Literal Unicode.fullwidth [multilineCollector] :=
  letI := Unicode.fullwidth
  { script := ⟨[sectionFunction multilineCollector],
      [(py "probe", sectionFunctionPrefix ++ py "probe")]⟩
    compose_eq := rfl
    earlier := []
    function := sectionFunction multilineCollector
    later := []
    functions_eq := rfl
    before := py "data = \"\""
    opening := cp '"'
    text := py "first\nsecond"
    closing := cp '"'
    after := py "\"\""
    source_eq := rfl
    opening_quote := .inl rfl
    closing_quote := .inl rfl }

/-- Discovery accepts the snippet, and the second line of its literal is
indented. -/
theorem multiline_literal_changed :
    letI := Unicode.fullwidth
    letI := Json.wholeFloats
    (∀ compiles : Composition → Bool, compiles multilineLiteral.script = true →
      Registry.asCollector compiles multilinePlugin = .ok multilineCollector) ∧
    ∀ spec : ChannelSpec, codes (multilineLiteral.markedScript spec) =
        buildInjectionScript multilineLiteral.script.text spec ∧
      literalText (multilineLiteral.markedScript spec) ≠ multilineLiteral.text := by
  let _ := Unicode.fullwidth
  let _ := Json.wholeFloats
  refine ⟨fun compiles h => ?_, fun spec => ⟨multilineLiteral.codes_markedScript spec, fun h => ?_⟩⟩
  · have hcompose : composeCollectorSource [multilineCollector] = .ok multilineLiteral.script := rfl
    have hnew : Collector.new (py "probe") multilineSource [] = .ok multilineCollector := rfl
    simp only [Registry.asCollector, multilinePlugin, Registry.stringAttribute, Registry.own]
    simp [hnew, hcompose, h, bind, Except.bind]
  · obtain ⟨-, hmargin⟩ := (multilineLiteral.literalText_markedScript spec).1 h
    have hnewline : cp '\n' ∈ py "first\nsecond" := by decide
    have hlines : TextWrap.splitNewlines (codes multilineSource) =
        [cp 'd' :: py "ata = \"\"\"first", py "second\"\"\""] := by decide
    have hzero := TextWrap.margin_eq_zero (hlines ▸ List.mem_cons_self ..) (by decide)
    have hindent : TextWrap.marginText (TextWrap.splitNewlines (codes multilineSource)) =
        snippetIndent := hmargin ⟨_, hnewline, rfl⟩
    rw [TextWrap.margin_eq_length, hindent] at hzero
    exact absurd hzero (by decide)

end Pidprobe
