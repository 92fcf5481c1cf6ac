/-
# What indenting changes

`splitlines` cuts a text into lines, and `indent` puts its pad in front of those
that are not blank: `splitLines_indent`.  So a text is indented to itself where
all its lines are blank (`indent_eq_self_iff`), and a line that lost its margin is
indented to itself where the margin was the pad and the line is one line
(`indent_eq_append_iff`).
-/

import Pidprobe.Lib.GlyphLines

namespace Pidprobe
namespace Glyph

variable {α : Type} [Glyph α]

/-! ## The lines of a text, one by one -/

/-- A text that is not empty has a first line, and the rest of the text has the lines behind
it. -/
theorem exists_splitLines_eq_cons {t : List α} (h : t ≠ []) :
    ∃ line rest, line ≠ [] ∧ t = line ++ rest ∧ splitLines t = line :: splitLines rest := by
  induction t with
  | nil => exact absurd rfl h
  | cons a t ih =>
    by_cases hends : EndsLine a t
    · exact ⟨[a], t, List.cons_ne_nil _ _, rfl, splitLines_cons_of_ends hends⟩
    · by_cases ht : t = []
      · subst ht
        exact ⟨[a], [], List.cons_ne_nil _ _, rfl, splitLines_singleton a⟩
      · obtain ⟨line, rest, -, rfl, hsplit⟩ := ih ht
        exact ⟨a :: line, rest, List.cons_ne_nil _ _, rfl,
          splitLines_cons_of_not_ends hends hsplit⟩

/-- Induction on the lines of a text: the empty one, and a line in front of a rest whose
lines are those behind it. -/
@[elab_as_elim]
theorem splitLines_induction {motive : List α → Prop} (nil : motive [])
    (line : ∀ line rest, line ≠ [] → splitLines (line ++ rest) = line :: splitLines rest →
      motive rest → motive (line ++ rest)) (t : List α) : motive t := by
  induction hn : t.length using Nat.strongRecOn generalizing t with
  | _ n ih =>
    by_cases ht : t = []
    · exact ht ▸ nil
    · obtain ⟨first, rest, hne, rfl, hsplit⟩ := exists_splitLines_eq_cons ht
      have hlt : rest.length < n := by
        have := List.length_pos_of_ne_nil hne
        rw [List.length_append] at hn
        omega
      exact line first rest hne hsplit (ih _ hlt rest rfl)

/-- The lines of a text together are the text, as each has its end. -/
theorem flatten_splitLines (t : List α) : (splitLines t).flatten = t := by
  induction t using splitLines_induction with
  | nil => rfl
  | line line rest _ hsplit ih => rw [hsplit, List.flatten_cons, ih]

/-- The lines in front of the last character, and what its line holds before it, are what is
in front of it. -/
theorem flatten_append_of_splitLines {s line : List α} {x : α} {lines : List (List α)}
    (h : splitLines (s ++ [x]) = lines ++ [line ++ [x]]) : lines.flatten ++ line = s := by
  have hflatten := congrArg List.flatten h
  rw [flatten_splitLines, List.flatten_append, List.flatten_singleton, ← List.append_assoc]
    at hflatten
  exact (List.append_cancel_right hflatten).symm

/-- A line stays a line in front of another rest that does not start with a
newline of its own. -/
theorem splitLines_append_of_line {line rest rest' : List α} (hne : line ≠ [])
    (h : splitLines (line ++ rest) = line :: splitLines rest) (hnil : rest = [] → rest' = [])
    (hhead : rest'.head?.map code = some (cp '\n') → rest.head?.map code = some (cp '\n')) :
    splitLines (line ++ rest') = line :: splitLines rest' := by
  induction line with
  | nil => exact absurd rfl hne
  | cons a line ih =>
    rcases line with _ | ⟨b, line⟩
    · by_cases hrest : rest = []
      · rw [hnil hrest, List.append_nil, splitLines_singleton]
        rfl
      · have hends : EndsLine a rest := by
          by_contra hends
          obtain ⟨first, others, hfirst⟩ := List.exists_cons_of_ne_nil
            (mt splitLines_eq_nil.1 hrest)
          rw [List.singleton_append, splitLines_cons_of_not_ends hends hfirst] at h
          have hnonempty := ne_nil_of_mem_splitLines (hfirst ▸ List.mem_cons_self ..)
          simp [hnonempty] at h
        exact splitLines_cons_of_ends ⟨hends.1, fun hr => hends.2 ⟨hr.1, hhead hr.2⟩⟩
    · by_cases hends : EndsLine a (b :: line ++ rest)
      · rw [List.cons_append, splitLines_cons_of_ends hends] at h
        simp at h
      · obtain ⟨first, others, hfirst⟩ := List.exists_cons_of_ne_nil
          (mt splitLines_eq_nil.1 (by simp : b :: line ++ rest ≠ []))
        rw [List.cons_append, splitLines_cons_of_not_ends hends hfirst] at h
        obtain ⟨hline, hothers⟩ := List.cons_eq_cons.1 h
        obtain rfl := (List.cons_eq_cons.1 hline).2
        exact splitLines_cons_of_not_ends hends (ih (List.cons_ne_nil _ _) (hothers ▸ hfirst))

/-- What does not end a line goes in front of the first line. -/
theorem splitLines_append_left {pad t line : List α} {lines : List (List α)}
    (hpad : ∀ a ∈ pad, TextWrap.isLineEnd (code a) = false) (h : splitLines t = line :: lines) :
    splitLines (pad ++ t) = (pad ++ line) :: lines := by
  induction pad with
  | nil => exact h
  | cons a pad ih =>
    obtain ⟨ha, hpad⟩ := List.forall_mem_cons.1 hpad
    exact splitLines_cons_of_not_ends (fun hends => Bool.eq_false_iff.1 ha hends.1) (ih hpad)

/-! ## Padding -/

section

variable [Unicode]

/-- `indent` pads the lines of `splitlines` one by one. -/
theorem indent_eq_flatMap (t : List α) (pad : PyStr) :
    indent t pad = (splitLines t).flatMap (padLine pad) := rfl

/-- Indenting goes on behind the first line, as if the text began there. -/
theorem indent_append_of_line {line rest : List α} (pad : PyStr)
    (h : splitLines (line ++ rest) = line :: splitLines rest) :
    indent (line ++ rest) pad = padLine pad line ++ indent rest pad := by
  rw [indent_eq_flatMap, h, List.flatMap_cons, ← indent_eq_flatMap]

theorem indent_nil (pad : PyStr) : indent ([] : List α) pad = [] := rfl

/-- Padding makes no line shorter. -/
theorem length_le_padLine (pad : PyStr) (line : List α) :
    line.length ≤ (padLine pad line).length := by
  rw [padLine]
  split_ifs
  · exact Nat.le_refl _
  · rw [List.length_append]
    omega

/-- And indenting makes no text shorter. -/
theorem length_le_indent (pad : PyStr) (t : List α) : t.length ≤ (indent t pad).length := by
  induction t using splitLines_induction with
  | nil => exact Nat.zero_le _
  | line line rest _ h ih =>
    have hline := length_le_padLine pad line
    rw [indent_append_of_line pad h, List.length_append, List.length_append]
    omega

/-- A line stays as it is where it is blank, with a pad that is not empty. -/
theorem padLine_eq_self_iff {pad : PyStr} (hpad : pad ≠ []) {line : List α} :
    padLine pad line = line ↔ isBlank line = true := by
  rw [padLine]
  split_ifs with h
  · exact iff_of_true rfl h
  · refine iff_of_false (fun heq => hpad ?_) h
    have := congrArg List.length heq
    rw [List.length_append, glyphs, List.length_map] at this
    exact List.length_eq_zero_iff.1 (by omega)

/-- **A text is indented to itself where all its lines are blank**, and else changes. -/
theorem indent_eq_self_iff {pad : PyStr} (hpad : pad ≠ []) {t : List α} :
    indent t pad = t ↔ ∀ line ∈ splitLines t, isBlank line = true := by
  induction t using splitLines_induction with
  | nil => simp [indent_nil, splitLines]
  | line line rest _ h ih =>
    rw [indent_append_of_line pad h, h, List.forall_mem_cons, ← ih, ← padLine_eq_self_iff hpad]
    constructor
    · intro heq
      have hlength := congrArg List.length heq
      have hline := length_le_padLine pad line
      have hrest := length_le_indent pad rest
      rw [List.length_append, List.length_append] at hlength
      exact List.append_inj heq (by omega)
    · rintro ⟨hline, hrest⟩
      rw [hline, hrest]

/-! ## Margins and pads -/

/-- Blanks and tabs: what `dedent` takes for indentation, and what one indents with. -/
def IsMargin (s : List α) : Prop := ∀ a ∈ s, code a = cp ' ' ∨ code a = cp '\t'

instance (s : List α) : Decidable (IsMargin s) := inferInstanceAs (Decidable (∀ a ∈ s, _))

omit [Unicode] in
theorem IsMargin.glyphs {s : PyStr} (h : IsMargin s) : IsMargin (glyphs s : List α) := by
  intro a ha
  obtain ⟨c, hc, rfl⟩ := List.mem_map.1 ha
  rw [code_glyph]
  exact h c hc

omit [Unicode] in
/-- A margin ends no line. -/
theorem IsMargin.isLineEnd {s : List α} (h : IsMargin s) :
    ∀ a ∈ s, TextWrap.isLineEnd (code a) = false := by
  intro a ha
  rcases h a ha with heq | heq <;> rw [heq] <;> decide

/-- A margin is white space. -/
theorem IsMargin.isspace {s : List α} (h : IsMargin s) :
    ∀ a ∈ s, Unicode.isspace (code a) = true := by
  intro a ha
  rcases h a ha with heq | heq <;> rw [heq, Unicode.isspace_ascii _ (by decide)] <;> decide

/-- A line is blank where it is white space throughout, and there is some. -/
theorem isBlank_iff {line : List α} :
    isBlank line = true ↔ line ≠ [] ∧ ∀ a ∈ line, Unicode.isspace (code a) = true := by
  simp [isBlank, TextWrap.isBlank, codes]

/-- A line with any other character in it is not blank. -/
theorem isBlank_of_mem {line : List α} {a : α} (h : a ∈ line)
    (ha : Unicode.isspace (code a) = false) : isBlank line = false := by
  refine Bool.eq_false_iff.2 fun hblank => ?_
  rw [(isBlank_iff.1 hblank).2 a h] at ha
  cases ha

/-- A margin does not tell whether a line is blank: the rest of the line does. -/
theorem isBlank_append_margin {margin line : List α} (hm : IsMargin margin) (hne : line ≠ []) :
    isBlank (margin ++ line) = isBlank line := by
  rw [Bool.eq_iff_iff, isBlank_iff, isBlank_iff, List.forall_mem_append]
  simp only [ne_eq, List.append_eq_nil_iff, hne, and_false, not_false_eq_true, true_and,
    and_iff_right_iff_imp]
  exact fun _ => hm.isspace

omit [Unicode] in
/-- A margin goes in front of the first line, and the other lines stay. -/
theorem splitLines_append_margin {margin t line : List α} {lines : List (List α)}
    (hm : IsMargin margin) (h : splitLines t = line :: lines) :
    splitLines (margin ++ t) = (margin ++ line) :: lines :=
  splitLines_append_left hm.isLineEnd h

/-- An indented text that begins with a newline began with it before. -/
theorem head?_indent {pad : PyStr} (hpad : IsMargin pad) (t : List α)
    (h : (indent t pad).head?.map code = some (cp '\n')) :
    t.head?.map code = some (cp '\n') := by
  induction t using splitLines_induction with
  | nil => exact h
  | line line rest hne hsplit _ =>
    obtain ⟨a, line, rfl⟩ := List.exists_cons_of_ne_nil hne
    rw [indent_append_of_line pad hsplit, padLine] at h
    split_ifs at h
    · exact h
    · rcases hp : (glyphs pad : List α) with _ | ⟨b, pad'⟩
      · rw [hp] at h
        exact h
      · rw [hp] at h
        have hb := (hpad.glyphs (α := α)).isLineEnd b (hp ▸ List.mem_cons_self ..)
        have hcode : code b = cp '\n' := Option.some.inj h
        rw [hcode] at hb
        exact absurd hb (by decide)

theorem indent_eq_nil {pad : PyStr} {t : List α} (h : t = []) : indent t pad = [] := by
  rw [h, indent_nil]

/-- An indented line is the first line of an indented text: no line is joined or split by
its pad. -/
theorem splitLines_padLine_append {pad : PyStr} (hpad : IsMargin pad) {line rest : List α}
    (hne : line ≠ []) (h : splitLines (line ++ rest) = line :: splitLines rest) :
    splitLines (padLine pad line ++ indent rest pad) =
      padLine pad line :: splitLines (indent rest pad) := by
  have hline := splitLines_append_of_line hne h indent_eq_nil (head?_indent hpad rest)
  rw [padLine]
  split_ifs
  · exact hline
  · rw [List.append_assoc]
    exact splitLines_append_margin hpad.glyphs hline

/-- **The lines of an indented text** are the lines of the text, those that are
not blank behind the pad. -/
theorem splitLines_indent {pad : PyStr} (hpad : IsMargin pad) (t : List α) :
    splitLines (indent t pad) = (splitLines t).map (padLine pad) := by
  induction t using splitLines_induction with
  | nil => rfl
  | line line rest hne h ih =>
    rw [indent_append_of_line pad h, splitLines_padLine_append hpad hne h, ih, h, List.map_cons]

/-- Indenting twice is indenting by both pads, the later one in front. -/
theorem indent_indent {pad pad' : PyStr} (hpad : IsMargin pad) (t : List α) :
    indent (indent t pad) pad' = indent t (pad' ++ pad) := by
  rw [indent_eq_flatMap, splitLines_indent hpad, List.flatMap_map, indent_eq_flatMap]
  refine List.flatMap_congr fun line hline => ?_
  have hne := ne_nil_of_mem_splitLines hline
  by_cases hblank : isBlank line = true
  · rw [padLine, padLine, padLine, if_pos hblank, if_pos hblank, if_pos hblank]
  · rw [padLine, padLine, padLine, if_neg hblank, isBlank_append_margin hpad.glyphs hne,
      if_neg hblank, if_neg hblank, glyphs, glyphs, glyphs, List.map_append, List.append_assoc]

/-- A line for `str.splitlines`, with blank lines at most behind it: what a statement on one
line is. -/
def OneLine (t : List α) : Prop :=
  ∃ line lines, splitLines t = line :: lines ∧ isBlank line = false ∧
    ∀ other ∈ lines, isBlank other = true

/-- A text all of whose lines are blank is blank. -/
theorem isBlank_of_splitLines {t : List α} (hne : t ≠ [])
    (h : ∀ line ∈ splitLines t, isBlank line = true) : isBlank t = true := by
  refine isBlank_iff.2 ⟨hne, ?_⟩
  clear hne
  induction t using splitLines_induction with
  | nil => exact List.forall_mem_nil _
  | line line rest _ hsplit ih =>
    rw [hsplit] at h
    obtain ⟨hline, hrest⟩ := List.forall_mem_cons.1 h
    exact List.forall_mem_append.2 ⟨(isBlank_iff.1 hline).2, ih hrest⟩

/-- **A text that lost its margin is indented to itself** where the margin was the
pad and the text is one line. -/
theorem indent_eq_append_iff {pad : PyStr} (hpad : IsMargin pad) (hne : pad ≠ [])
    {margin t : List α} (hm : IsMargin margin) (htne : t ≠ []) (ht : isBlank t = false) :
    indent t pad = margin ++ t ↔ margin = glyphs pad ∧ OneLine (margin ++ t) := by
  obtain ⟨line, rest, hlne, rfl, hsplit⟩ := exists_splitLines_eq_cons htne
  have hmargin := splitLines_append_margin hm hsplit
  have hindent := splitLines_padLine_append hpad hlne hsplit
  rw [indent_append_of_line pad hsplit]
  constructor
  · intro heq
    -- both sides have the same first line and the same rest
    rw [heq, hmargin] at hindent
    obtain ⟨hline, -⟩ := List.cons_eq_cons.1 hindent
    have hrest : indent rest pad = rest := by
      rw [← hline, List.append_assoc] at heq
      exact List.append_cancel_left (List.append_cancel_left heq)
    have hblank := (indent_eq_self_iff hne).1 hrest
    rw [padLine] at hline
    split_ifs at hline with h
    · -- a blank first line makes the text blank
      have hall := isBlank_of_splitLines htne (hsplit ▸ List.forall_mem_cons.2 ⟨h, hblank⟩)
      rw [hall] at ht
      cases ht
    · refine ⟨List.append_cancel_right hline, margin ++ line, splitLines rest, hmargin, ?_, hblank⟩
      rw [isBlank_append_margin hm hlne]
      exact Bool.eq_false_iff.2 h
  · rintro ⟨rfl, first, others, hfirst, hnot, hblank⟩
    obtain ⟨rfl, rfl⟩ := List.cons_eq_cons.1 (hmargin.symm.trans hfirst)
    rw [isBlank_append_margin hm hlne] at hnot
    rw [(indent_eq_self_iff hne).2 hblank, padLine, if_neg (Bool.eq_false_iff.1 hnot),
      List.append_assoc]

/-- **A line of a text, and its margin**: the margin is that of all lines, and `dedent`
leaves what is behind it. -/
theorem exists_margin {t line : List α} (h : line ∈ splitNewlines t) (hne : line ≠ [])
    (hb : isBlank line = false) : ∃ margin rest, line = margin ++ rest ∧ IsMargin margin ∧
      codes margin = TextWrap.marginText (TextWrap.splitNewlines (codes t)) ∧ rest ≠ [] ∧
      isBlank rest = false ∧ undent (textMargin t) line = rest := by
  have hmem : codes line ∈ TextWrap.splitNewlines (codes t) :=
    codes_splitNewlines t ▸ List.mem_map_of_mem h
  have hne' : codes line ≠ [] := by simpa [codes] using hne
  have hstart := TextWrap.prefix_marginText hmem hne' hb
  have htake : codes (line.take (textMargin t)) =
      TextWrap.marginText (TextWrap.splitNewlines (codes t)) := by
    rw [textMargin_eq, codes, List.map_take]
    exact (List.prefix_iff_eq_take.1 hstart).symm
  have hmargin : IsMargin (line.take (textMargin t)) := fun a ha => by
    have hcode : code a ∈ codes (line.take (textMargin t)) := List.mem_map_of_mem ha
    rw [htake] at hcode
    exact TextWrap.blank_of_mem_marginText _ hcode
  have hline : line.take (textMargin t) ++ line.drop (textMargin t) = line :=
    List.take_append_drop ..
  have hrest : line.drop (textMargin t) ≠ [] := by
    intro hnil
    rw [hnil, List.append_nil] at hline
    rw [← hline] at hne hb
    exact Bool.eq_false_iff.1 hb (isBlank_iff.2 ⟨hne, hmargin.isspace⟩)
  refine ⟨_, _, hline.symm, hmargin, htake, hrest, ?_, ?_⟩
  · rwa [← isBlank_append_margin hmargin hrest, hline]
  · rw [undent, if_neg (Bool.eq_false_iff.1 hb)]

/-- `dedent` leaves no blank line but the empty one, which `isspace` does not call blank. -/
theorem isBlank_undent {t line : List α} (h : line ∈ splitNewlines t) :
    isBlank (undent (textMargin t) line) = false := by
  by_cases hb : isBlank line = true
  · rw [undent, if_pos hb]
    rfl
  · by_cases hne : line = []
    · rw [undent, if_neg hb, hne, List.drop_nil]
      rfl
    · obtain ⟨-, rest, -, -, -, -, hrest, hundent⟩ := exists_margin h hne (Bool.eq_false_iff.2 hb)
      rw [hundent]
      exact hrest

/-! ## What a change of the lines leaves alone -/

omit [Unicode] in
theorem forall_mem_glyphs {P : α → Prop} {s : PyStr} (h : ∀ c ∈ s, P (glyph c)) :
    ∀ a ∈ (glyphs s : List α), P a := by
  intro a ha
  obtain ⟨c, hc, rfl⟩ := List.mem_map.1 ha
  exact h c hc

theorem forall_mem_flatMap_padLine {P : α → Prop} {pad : PyStr} (hpad : ∀ c ∈ pad, P (glyph c))
    {lines : List (List α)} (h : ∀ a ∈ lines.flatten, P a) :
    ∀ a ∈ lines.flatMap (padLine pad), P a := by
  intro a ha
  obtain ⟨line, hline, ha⟩ := List.mem_flatMap.1 ha
  have hmem : ∀ a ∈ line, P a := fun a ha => h a (List.mem_flatten_of_mem hline ha)
  rw [padLine] at ha
  split_ifs at ha
  · exact hmem a ha
  · exact List.forall_mem_append.2 ⟨forall_mem_glyphs hpad, hmem⟩ a ha

/-- A property of the glyphs of a text and of the pad is one of the indented text. -/
theorem forall_mem_indent {P : α → Prop} {t : List α} {pad : PyStr}
    (hpad : ∀ c ∈ pad, P (glyph c)) (h : ∀ a ∈ t, P a) : ∀ a ∈ indent t pad, P a := by
  rw [indent_eq_flatMap]
  exact forall_mem_flatMap_padLine hpad ((flatten_splitLines t).symm ▸ h)

/-- And one of the glyphs of a line is one of what `dedent` leaves of it. -/
theorem forall_mem_undent {P : α → Prop} {line : List α} (h : ∀ a ∈ line, P a) (margin : ℕ) :
    ∀ a ∈ undent margin line, P a := by
  rw [undent]
  split_ifs
  · exact List.forall_mem_nil _
  · exact fun a ha => h a (List.mem_of_mem_drop ha)

/-- Nothing of a text is lost when it is indented. -/
theorem mem_indent_of_mem {t : List α} {a : α} (h : a ∈ t) (pad : PyStr) : a ∈ indent t pad := by
  induction t using splitLines_induction with
  | nil => cases h
  | line line rest _ hsplit ih =>
    rw [indent_append_of_line pad hsplit]
    refine (List.mem_append.1 h).elim (fun h => List.mem_append_left _ ?_)
      fun h => List.mem_append_right _ (ih h)
    rw [padLine]
    split_ifs
    · exact h
    · exact List.mem_append_right _ h

/-- Indenting a line that is not blank does not make it blank. -/
theorem isBlank_indent {t : List α} (h : isBlank t = false) (pad : PyStr) :
    isBlank (indent t pad) = false := by
  by_cases hne : t = []
  · subst hne
    exact h
  · refine Bool.eq_false_iff.2 fun hblank => Bool.eq_false_iff.1 h ?_
    exact isBlank_iff.2 ⟨hne, fun a ha => (isBlank_iff.1 hblank).2 a (mem_indent_of_mem ha pad)⟩

/-- A text with a line that starts with no white space keeps its lines: there is no margin
to take off. -/
theorem textMargin_eq_zero {t line : List α} {a : α} (h : a :: line ∈ splitNewlines t)
    (ha : Unicode.isspace (code a) = false) : textMargin t = 0 :=
  TextWrap.margin_eq_zero (List.mem_map_of_mem h) ha

/-- Without a margin a line that is not blank stays as it is. -/
theorem undent_zero {line : List α} (h : isBlank line = false) : undent 0 line = line := by
  rw [undent, if_neg (Bool.eq_false_iff.1 h), List.drop_zero]

/-- Where `indent` comes to nothing, so did what it was given. -/
theorem indent_ne_nil {t : List α} (h : t ≠ []) (pad : PyStr) : indent t pad ≠ [] := by
  intro hnil
  have hlength := length_le_indent pad t
  rw [hnil] at hlength
  exact h (List.length_eq_zero_iff.1 (Nat.le_zero.1 hlength))

omit [Unicode] in
/-- A text without a line boundary is one line, be it blank or not. -/
theorem splitLines_of_line {t : List α} (hne : t ≠ [])
    (h : ∀ a ∈ t, TextWrap.isLineEnd (code a) = false) : splitLines t = [t] := by
  obtain ⟨init, last, rfl⟩ := t.eq_nil_or_concat.resolve_left hne
  rw [List.concat_eq_append] at h ⊢
  exact splitLines_append_left (List.forall_mem_append.1 h).1 (splitLines_singleton last)

/-- Such a line is indented by putting the pad in front of it. -/
theorem indent_of_line {t : List α} (hb : isBlank t = false)
    (hne : t ≠ []) (h : ∀ a ∈ t, TextWrap.isLineEnd (code a) = false) (pad : PyStr) :
    indent t pad = glyphs pad ++ t := by
  rw [indent_eq_flatMap, splitLines_of_line hne h, List.flatMap_singleton, padLine,
    if_neg (Bool.eq_false_iff.1 hb)]

/-! ## Behind a glyph that is not blank -/

/-- A glyph that neither ends a line nor is white space: where it stands, a line goes on and
is not blank. -/
structure Solid (x : α) : Prop where
  isLineEnd : TextWrap.isLineEnd (code x) = false
  isspace : Unicode.isspace (code x) = false

theorem Solid.isNewline {x : α} (hx : Solid x) : isNewline x = false :=
  isNewline_of_isLineEnd hx.isLineEnd

theorem Solid.isBlank {x : α} (hx : Solid x) (s t : List α) : isBlank (s ++ x :: t) = false :=
  isBlank_of_mem (List.mem_append_right _ (List.mem_cons_self ..)) hx.isspace

/-- What `indent` makes of the rest of a line and of the lines behind it: the rest has no
pad, as its line has one already. -/
def indentRest (t : List α) (pad : PyStr) : List α :=
  match splitLines t with
  | [] => []
  | line :: lines => line ++ lines.flatMap (padLine pad)

omit [Unicode] in
/-- A line goes on behind a glyph that does not end it, so the text may be split there. -/
theorem splitLines_append_solid {x : α} (hx : TextWrap.isLineEnd (code x) = false)
    (s t : List α) : ∃ lines line, splitLines (s ++ [x]) = lines ++ [line ++ [x]] ∧
      ∀ first rest, splitLines t = first :: rest →
        splitLines (s ++ x :: t) = lines ++ (line ++ x :: first) :: rest := by
  have hnot : ∀ u : List α, ¬EndsLine x u := fun u h => Bool.eq_false_iff.1 hx h.1
  induction s with
  | nil =>
    refine ⟨[], [], splitLines_singleton x, fun first rest h => ?_⟩
    exact splitLines_cons_of_not_ends (hnot t) h
  | cons a s ih =>
    obtain ⟨lines, line, hsingle, happend⟩ := ih
    have hhead : (s ++ x :: t).head? = (s ++ [x]).head? := by cases s <;> rfl
    by_cases hends : EndsLine a (s ++ [x])
    · have hends' : EndsLine a (s ++ x :: t) := by rwa [EndsLine, hhead]
      refine ⟨[a] :: lines, line, ?_, fun first rest h => ?_⟩
      · rw [List.cons_append, splitLines_cons_of_ends hends, hsingle, List.cons_append]
      · rw [List.cons_append, splitLines_cons_of_ends hends', happend first rest h,
          List.cons_append]
    · have hends' : ¬EndsLine a (s ++ x :: t) := by rwa [EndsLine, hhead]
      rcases lines with _ | ⟨next, lines⟩
      · refine ⟨[], a :: line, splitLines_cons_of_not_ends hends hsingle, fun first rest h => ?_⟩
        exact splitLines_cons_of_not_ends hends' (happend first rest h)
      · refine ⟨(a :: next) :: lines, line, splitLines_cons_of_not_ends hends hsingle,
          fun first rest h => ?_⟩
        exact splitLines_cons_of_not_ends hends' (happend first rest h)

/-- The rest of a line stays, and the lines behind it are padded. -/
theorem indentRest_eq {t line : List α} {lines : List (List α)} (h : splitLines t = line :: lines)
    (pad : PyStr) : indentRest t pad = line ++ lines.flatMap (padLine pad) := by
  rw [indentRest, h]

theorem indentRest_nil (pad : PyStr) : indentRest ([] : List α) pad = [] := rfl

/-- Indenting up to a glyph that is not blank, and behind it: the two parts do not depend on
each other. -/
theorem indent_append_solid {x : α} (hx : Solid x) (s t : List α) (pad : PyStr) :
    indent (s ++ x :: t) pad = indent (s ++ [x]) pad ++ indentRest t pad := by
  by_cases ht : t = []
  · rw [ht, indentRest_nil, List.append_nil]
  obtain ⟨first, rest, hfirst⟩ := List.exists_cons_of_ne_nil (mt splitLines_eq_nil.1 ht)
  obtain ⟨lines, line, hsingle, happend⟩ := splitLines_append_solid hx.isLineEnd s t
  rw [indent_eq_flatMap, indent_eq_flatMap, happend first rest hfirst, hsingle,
    indentRest_eq hfirst, List.flatMap_append, List.flatMap_append, List.flatMap_cons,
    List.flatMap_singleton, padLine, padLine, if_neg (Bool.eq_false_iff.1 (hx.isBlank line first)),
    if_neg (Bool.eq_false_iff.1 (hx.isBlank line []))]
  simp

/-- The same, of the rest of a line. -/
theorem indentRest_append_solid {x : α} (hx : Solid x) (s t : List α) (pad : PyStr) :
    indentRest (s ++ x :: t) pad = indentRest (s ++ [x]) pad ++ indentRest t pad := by
  by_cases ht : t = []
  · rw [ht, indentRest_nil, List.append_nil]
  obtain ⟨first, rest, hfirst⟩ := List.exists_cons_of_ne_nil (mt splitLines_eq_nil.1 ht)
  obtain ⟨lines, line, hsingle, happend⟩ := splitLines_append_solid hx.isLineEnd s t
  have happend := happend first rest hfirst
  have hpad : padLine pad (line ++ x :: first) = padLine pad (line ++ [x]) ++ first := by
    rw [padLine, padLine, if_neg (Bool.eq_false_iff.1 (hx.isBlank line first)),
      if_neg (Bool.eq_false_iff.1 (hx.isBlank line []))]
    simp
  rcases lines with _ | ⟨next, lines⟩
  · rw [List.nil_append] at happend hsingle
    rw [indentRest_eq happend, indentRest_eq hsingle, indentRest_eq hfirst]
    simp
  · rw [List.cons_append] at happend hsingle
    rw [indentRest_eq happend, indentRest_eq hsingle, indentRest_eq hfirst, List.flatMap_append,
      List.flatMap_append, List.flatMap_cons, List.flatMap_singleton, hpad]
    simp

/-- The indented text ends with the glyph, and what is in front of it is made of the text
and the pad. -/
theorem indent_concat_solid {x : α} (hx : Solid x) (s : List α) (pad : PyStr) :
    ∃ s', indent (s ++ [x]) pad = s' ++ [x] ∧
      ∀ P : α → Prop, (∀ c ∈ pad, P (glyph c)) → (∀ a ∈ s, P a) → ∀ a ∈ s', P a := by
  obtain ⟨lines, line, hsingle, -⟩ := splitLines_append_solid hx.isLineEnd s []
  have hflatten := flatten_append_of_splitLines hsingle
  refine ⟨lines.flatMap (padLine pad) ++ (glyphs pad ++ line), ?_, fun P hpad hs => ?_⟩
  · rw [indent_eq_flatMap, hsingle, List.flatMap_append, List.flatMap_singleton, padLine,
      if_neg (Bool.eq_false_iff.1 (hx.isBlank line []))]
    simp
  · rw [← hflatten] at hs
    obtain ⟨hlines, hline⟩ := List.forall_mem_append.1 hs
    refine List.forall_mem_append.2 ⟨forall_mem_flatMap_padLine hpad hlines, ?_⟩
    exact List.forall_mem_append.2 ⟨forall_mem_glyphs hpad, hline⟩

/-- The same, of the rest of a line. -/
theorem indentRest_concat_solid {x : α} (hx : Solid x) (s : List α) (pad : PyStr) :
    ∃ s', indentRest (s ++ [x]) pad = s' ++ [x] ∧
      ∀ P : α → Prop, (∀ c ∈ pad, P (glyph c)) → (∀ a ∈ s, P a) → ∀ a ∈ s', P a := by
  obtain ⟨lines, line, hsingle, -⟩ := splitLines_append_solid hx.isLineEnd s []
  have hflatten := flatten_append_of_splitLines hsingle
  rcases lines with _ | ⟨next, lines⟩
  · refine ⟨line, by rw [indentRest_eq hsingle, List.flatMap_nil, List.append_nil], ?_⟩
    intro P _ hs
    rwa [← hflatten] at hs
  · rw [List.cons_append] at hsingle
    refine ⟨next ++ (lines.flatMap (padLine pad) ++ (glyphs pad ++ line)), ?_, fun P hpad hs => ?_⟩
    · rw [indentRest_eq hsingle, List.flatMap_append, List.flatMap_singleton, padLine,
        if_neg (Bool.eq_false_iff.1 (hx.isBlank line []))]
      simp
    · rw [← hflatten, List.flatten_cons, List.append_assoc] at hs
      obtain ⟨hnext, hs⟩ := List.forall_mem_append.1 hs
      obtain ⟨hlines, hline⟩ := List.forall_mem_append.1 hs
      refine List.forall_mem_append.2 ⟨hnext, List.forall_mem_append.2 ⟨?_, ?_⟩⟩
      · exact forall_mem_flatMap_padLine hpad hlines
      · exact List.forall_mem_append.2 ⟨forall_mem_glyphs hpad, hline⟩

theorem forall_mem_indentRest {P : α → Prop} {t : List α} {pad : PyStr}
    (hpad : ∀ c ∈ pad, P (glyph c)) (h : ∀ a ∈ t, P a) : ∀ a ∈ indentRest t pad, P a := by
  by_cases ht : t = []
  · rw [ht, indentRest_nil]
    exact List.forall_mem_nil _
  · obtain ⟨line, lines, hsplit⟩ := List.exists_cons_of_ne_nil (mt splitLines_eq_nil.1 ht)
    rw [← flatten_splitLines t, hsplit, List.flatten_cons] at h
    rw [indentRest_eq hsplit]
    obtain ⟨hline, hlines⟩ := List.forall_mem_append.1 h
    exact List.forall_mem_append.2 ⟨hline, forall_mem_flatMap_padLine hpad hlines⟩

/-- **The rest of a line is indented to itself** where it is one line behind a
glyph that is not blank. -/
theorem indentRest_eq_self_iff {pad : PyStr} (hpad : pad ≠ []) {x : α} (hx : Solid x)
    {t : List α} : indentRest t pad = t ↔ OneLine (x :: t) := by
  have hnot : ¬EndsLine x t := fun h => Bool.eq_false_iff.1 hx.isLineEnd h.1
  by_cases ht : t = []
  · subst ht
    refine iff_of_true rfl ⟨[x], [], splitLines_singleton x, hx.isBlank [] [], ?_⟩
    exact List.forall_mem_nil _
  obtain ⟨line, rest, -, rfl, hsplit⟩ := exists_splitLines_eq_cons ht
  have hcons := splitLines_cons_of_not_ends hnot hsplit
  rw [indentRest_eq hsplit, ← indent_eq_flatMap, List.append_cancel_left_eq,
    indent_eq_self_iff hpad]
  constructor
  · exact fun h => ⟨x :: line, splitLines rest, hcons, hx.isBlank [] line, h⟩
  · rintro ⟨first, others, hfirst, -, h⟩
    obtain ⟨-, rfl⟩ := List.cons_eq_cons.1 (hcons.symm.trans hfirst)
    exact h

/-! ## Dedent, strip, indent -/

/-- The lines in front of a part that `strip` leaves alone: empty ones at the start are
gone. -/
def leading (margin : ℕ) (pad : PyStr) (lines : List (List α)) : List (List α) :=
  ((lines.map (undent margin)).dropWhile List.isEmpty).map (indent · pad)

/-- The lines behind it: empty ones at the end are gone. -/
def trailing (margin : ℕ) (pad : PyStr) (lines : List (List α)) : List (List α) :=
  (((lines.map (undent margin)).reverse.dropWhile List.isEmpty).reverse).map (indent · pad)

/-- **Dedent, strip, indent**, of a text with lines that stay: the first and the last of
them are not blank. -/
theorem indent_stripNewlines_dedent {t first last : List α} {before core after : List (List α)}
    (h : splitNewlines t = before ++ core ++ after) (hfirst : core.head? = some first)
    (hlast : core.getLast? = some last) (hf : undent (textMargin t) first ≠ [])
    (hl : undent (textMargin t) last ≠ []) (pad : PyStr) :
    indent (stripNewlines (dedent t)) pad =
      joinLines (leading (textMargin t) pad before ++
        core.map (fun line => indent (undent (textMargin t) line) pad) ++
        trailing (textMargin t) pad after) := by
  have hunbroken : ∀ line ∈ before.map (undent (textMargin t)) ++
      core.map (undent (textMargin t)) ++ after.map (undent (textMargin t)), Unbroken line := by
    rw [← List.map_append, ← List.map_append, ← h]
    intro line hline
    obtain ⟨line', hline', rfl⟩ := List.mem_map.1 hline
    exact (unbroken_of_mem_splitNewlines line' hline').undent _
  have hfirst' : (core.map (undent (textMargin t))).head? = some (undent (textMargin t) first) := by
    rw [List.head?_map, hfirst, Option.map_some]
  have hlast' : (core.map (undent (textMargin t))).getLast? =
      some (undent (textMargin t) last) := by
    rw [List.getLast?_map, hlast, Option.map_some]
  rw [dedent_eq, h, List.map_append, List.map_append,
    stripNewlines_joinLines hfirst' hlast' hf hl hunbroken, indent_joinLines, List.map_append,
    List.map_append, List.map_map]
  rfl

omit [Unicode] in
theorem unbroken_of_isMargin {pad : PyStr} (h : IsMargin pad) :
    ∀ c ∈ pad, isNewline (glyph c : α) = false := by
  intro c hc
  rw [isNewline, code_glyph]
  rcases h c hc with hcode | hcode
  · obtain rfl : c = cp ' ' := hcode
    decide
  · obtain rfl : c = cp '\t' := hcode
    decide

/-- Indenting a line makes no second one. -/
theorem Unbroken.indent {line : List α} (h : Unbroken line) {pad : PyStr} (hpad : IsMargin pad) :
    Unbroken (indent line pad) :=
  forall_mem_indent (unbroken_of_isMargin hpad) h

/-- The lines in front of the part that stays are lines: none of them is broken on the
way. -/
theorem unbroken_of_mem_leading {margin : ℕ} {pad : PyStr} (hpad : IsMargin pad)
    {lines : List (List α)} (h : ∀ line ∈ lines, Unbroken line) :
    ∀ line ∈ leading margin pad lines, Unbroken line := by
  intro line hline
  obtain ⟨line', hline', rfl⟩ := List.mem_map.1 hline
  obtain ⟨source, hsource, rfl⟩ := List.mem_map.1 ((List.dropWhile_sublist _).subset hline')
  exact ((h source hsource).undent margin).indent hpad

theorem forall_mem_leading {P : α → Prop} {margin : ℕ} {pad : PyStr}
    (hpad : ∀ c ∈ pad, P (glyph c)) {lines : List (List α)}
    (h : ∀ line ∈ lines, ∀ a ∈ line, P a) : ∀ line ∈ leading margin pad lines, ∀ a ∈ line, P a := by
  intro line hline
  obtain ⟨line', hline', rfl⟩ := List.mem_map.1 hline
  obtain ⟨source, hsource, rfl⟩ := List.mem_map.1 ((List.dropWhile_sublist _).subset hline')
  exact forall_mem_indent hpad (forall_mem_undent (h source hsource) margin)

/-- Those behind the part that stays are lines too. -/
theorem unbroken_of_mem_trailing {margin : ℕ} {pad : PyStr} (hpad : IsMargin pad)
    {lines : List (List α)} (h : ∀ line ∈ lines, Unbroken line) :
    ∀ line ∈ trailing margin pad lines, Unbroken line := by
  intro line hline
  obtain ⟨line', hline', rfl⟩ := List.mem_map.1 hline
  have hmem := (List.dropWhile_sublist _).subset (List.mem_reverse.1 hline')
  obtain ⟨source, hsource, rfl⟩ := List.mem_map.1 (List.mem_reverse.1 hmem)
  exact ((h source hsource).undent margin).indent hpad

/-- **The lines of a text after dedent, strip and indent**: each of them comes of one line
of the text. -/
theorem splitNewlines_indent_stripNewlines_dedent {t first last : List α}
    {before core after : List (List α)} (h : splitNewlines t = before ++ core ++ after)
    (hfirst : core.head? = some first) (hlast : core.getLast? = some last)
    (hf : undent (textMargin t) first ≠ []) (hl : undent (textMargin t) last ≠ [])
    {pad : PyStr} (hpad : IsMargin pad) :
    splitNewlines (indent (stripNewlines (dedent t)) pad) =
      leading (textMargin t) pad before ++
        core.map (fun line => indent (undent (textMargin t) line) pad) ++
        trailing (textMargin t) pad after := by
  have hunbroken : ∀ line ∈ before ++ core ++ after, Unbroken line :=
    h ▸ unbroken_of_mem_splitNewlines
  obtain ⟨hfront, hafter⟩ := List.forall_mem_append.1 hunbroken
  obtain ⟨hbefore, hcore⟩ := List.forall_mem_append.1 hfront
  rw [indent_stripNewlines_dedent h hfirst hlast hf hl, splitNewlines_joinLines]
  · rintro hnil
    simp only [List.append_eq_nil_iff, List.map_eq_nil_iff] at hnil
    rw [hnil.1.2] at hfirst
    cases hfirst
  · refine List.forall_mem_append.2 ⟨List.forall_mem_append.2 ⟨?_, ?_⟩, ?_⟩
    · exact unbroken_of_mem_leading hpad hbefore
    · intro line hline
      obtain ⟨source, hsource, rfl⟩ := List.mem_map.1 hline
      exact ((hcore source hsource).undent _).indent hpad
    · exact unbroken_of_mem_trailing hpad hafter

end

end Glyph
end Pidprobe
