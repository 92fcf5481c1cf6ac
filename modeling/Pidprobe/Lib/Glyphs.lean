/-
# Texts of glyphs

Texts whose characters may carry more than their code point, and the functions
of `Pidprobe.Lib.TextWrap` on them.  The functions look at the code points and
at nothing else, so they commute with forgetting what else there is
(`codes_dedent`, `codes_indent`), and a glyph can be followed through them.
-/

import Pidprobe.Lib.TextWrap

namespace Pidprobe

/-- What texts are made of: code points, or code points that carry something more, such as
where they come from. -/
class Glyph (α : Type) where
  code : α → CodePoint
  /-- The glyph that is a code point and nothing else. -/
  glyph : CodePoint → α
  code_glyph : ∀ c, code (glyph c) = c

instance : Glyph CodePoint where
  code := id
  glyph := id
  code_glyph _ := rfl

namespace Glyph

variable {α : Type} [Glyph α]

/-- The code points of a text, and nothing else of it. -/
def codes (t : List α) : PyStr := t.map code

/-- A text of code points that are nothing else. -/
def glyphs (s : PyStr) : List α := s.map glyph

/-- A line of `str.splitlines` ends between a character and the rest; `\r\n` is one
boundary. -/
abbrev EndsLine (a : α) (rest : List α) : Prop :=
  TextWrap.isLineEnd (code a) ∧ ¬(code a = cp '\r' ∧ rest.head?.map code = some (cp '\n'))

/-- `text.splitlines(True)`: each line with the characters that end it. -/
def splitLines : List α → List (List α)
  | [] => []
  | a :: t =>
    if EndsLine a t then [a] :: splitLines t
    else match splitLines t with
      | [] => [[a]]
      | line :: lines => (a :: line) :: lines

/-- A character that ends a line for `str.split("\n")`, which knows no other. -/
def isNewline (a : α) : Bool := code a = cp '\n'

/-- `text.split("\n")`: a newline at the end makes an empty last line. -/
def splitNewlines (t : List α) : List (List α) := t.splitOnP isNewline

/-- `"\n".join(lines)`, with a newline that is nothing but its code point. -/
def joinLines (lines : List (List α)) : List α := [glyph (cp '\n')].intercalate lines

/-- `text.strip("\n")`, at both ends. -/
def stripNewlines (t : List α) : List α :=
  ((t.dropWhile isNewline).reverse.dropWhile isNewline).reverse

section

variable [Unicode]

/-- `line.isspace()`, which the empty line is not. -/
def isBlank (line : List α) : Bool := TextWrap.isBlank (codes line)

/-- `textwrap.dedent`: the margin is taken off every line, and a blank line becomes an empty
one. -/
def dedent (t : List α) : List α :=
  joinLines ((splitNewlines t).map fun line =>
    if isBlank line then [] else line.drop (TextWrap.margin ((splitNewlines t).map codes)))

/-- `textwrap.indent` without a predicate: the pad goes in front of every line that is not
blank. -/
def indent (t : List α) (pad : PyStr) : List α :=
  (splitLines t).flatMap fun line => if isBlank line then line else glyphs pad ++ line

end

/-- A character that ends a line at the start is the first line. -/
theorem splitLines_cons_of_ends {a : α} {t : List α} (h : EndsLine a t) :
    splitLines (a :: t) = [a] :: splitLines t := by
  rw [splitLines, if_pos h]

/-- Any other goes to the first line of what follows. -/
theorem splitLines_cons_of_not_ends {a : α} {t line : List α} {lines : List (List α)}
    (h : ¬EndsLine a t) (ht : splitLines t = line :: lines) :
    splitLines (a :: t) = (a :: line) :: lines := by
  rw [splitLines, if_neg h, ht]

/-! ## Forgetting what else there is -/

@[simp] theorem codes_append (s t : List α) : codes (s ++ t) = codes s ++ codes t :=
  List.map_append

@[simp] theorem codes_cons (a : α) (t : List α) : codes (a :: t) = code a :: codes t := rfl

@[simp] theorem codes_glyphs (s : PyStr) : codes (glyphs s : List α) = s := by
  rw [codes, glyphs, List.map_map]
  conv_rhs => rw [← List.map_id s]
  exact List.map_congr_left fun c _ => code_glyph c

/-- The lines of a text are those of its code points: `splitlines` looks at nothing else. -/
theorem codes_splitLines (t : List α) :
    (splitLines t).map codes = TextWrap.splitLines (codes t) := by
  induction t with
  | nil => rfl
  | cons a t ih =>
    have hhead : (codes t).head? = t.head?.map code := List.head?_map
    rw [codes, List.map_cons, TextWrap.splitLines, splitLines, ← codes, hhead, ← ih]
    split_ifs
    · rfl
    · rcases splitLines t with _ | ⟨line, lines⟩ <;> rfl

/-- Neither does `split`. -/
theorem codes_splitNewlines (t : List α) :
    (splitNewlines t).map codes = TextWrap.splitNewlines (codes t) := by
  induction t with
  | nil => rfl
  | cons a t ih =>
    rw [codes, List.map_cons, TextWrap.splitNewlines, splitNewlines,
      List.splitOnP_cons_eq_if_modifyHead, ← codes, ← ih, splitNewlines, isNewline]
    simp only [decide_eq_true_eq]
    split_ifs
    · rfl
    · rcases ht : t.splitOnP isNewline with _ | ⟨line, lines⟩
      · exact absurd ht (List.splitOnP_ne_nil _ t)
      · rfl

/-- Joined lines have the joined code points. -/
theorem codes_joinLines (lines : List (List α)) :
    codes (joinLines lines) = join (py "\n") (lines.map codes) := by
  induction lines with
  | nil => rfl
  | cons line lines ih =>
    rcases lines with _ | ⟨next, lines⟩
    · simp [joinLines, join]
    · have hnewline : codes [(glyph (cp '\n') : α)] = py "\n" := congrArg ([·]) (code_glyph _)
      rw [joinLines, List.intercalate_cons_cons, ← joinLines, codes_append, codes_append, ih,
        hnewline]
      simp only [join, List.map_cons, List.intercalate_cons_cons]

/-- Stripping newlines goes by the code points. -/
theorem codes_stripNewlines (t : List α) :
    codes (stripNewlines t) = TextWrap.stripNewlines (codes t) := by
  have hnewline : isNewline (α := α) = (fun c => decide (c = cp '\n')) ∘ code := rfl
  rw [stripNewlines, TextWrap.stripNewlines, codes, List.map_reverse, hnewline,
    ← List.dropWhile_map, List.map_reverse, ← List.dropWhile_map]
  rfl

variable [Unicode]

/-- So does `dedent`: the same characters stay, whatever they carry. -/
theorem codes_dedent (t : List α) : codes (dedent t) = TextWrap.dedent (codes t) := by
  rw [dedent, codes_joinLines, TextWrap.dedent, ← codes_splitNewlines, List.map_map, List.map_map]
  refine congrArg (join _) (List.map_congr_left fun line _ => ?_)
  have hcodes : TextWrap.isBlank (codes line) = isBlank line := rfl
  simp only [Function.comp_apply, hcodes]
  split_ifs
  · rfl
  · exact List.map_drop

/-- And so does `indent`, which adds characters of its own. -/
theorem codes_indent (t : List α) (pad : PyStr) :
    codes (indent t pad) = TextWrap.indent (codes t) pad := by
  rw [indent, TextWrap.indent, ← codes_splitLines, codes, List.map_flatMap, List.flatMap_map]
  refine List.flatMap_congr fun line _ => ?_
  have hcodes : TextWrap.isBlank (codes line) = isBlank line := rfl
  rw [hcodes]
  split_ifs
  · rfl
  · exact (codes_append _ _).trans (by rw [codes_glyphs])

/-! ## Texts of code points -/

omit [Unicode] in
@[simp] theorem codes_codePoint (t : PyStr) : codes t = t := List.map_id t

omit [Unicode] in
@[simp] theorem glyphs_codePoint (t : PyStr) : (glyphs t : PyStr) = t := List.map_id t

omit [Unicode] in
theorem map_codes_codePoint (lines : List PyStr) : lines.map codes = lines := by
  conv_rhs => rw [← List.map_id lines]
  exact List.map_congr_left fun line _ => codes_codePoint line

omit [Unicode] in
theorem map_glyphs_codePoint (lines : List PyStr) : lines.map glyphs = lines := by
  conv_rhs => rw [← List.map_id lines]
  exact List.map_congr_left fun line _ => glyphs_codePoint line

/-- On code points, `dedent` is the function of `Pidprobe.Lib.TextWrap`. -/
theorem dedent_codePoint (t : PyStr) : dedent t = TextWrap.dedent t := by
  rw [← codes_codePoint (dedent t), codes_dedent, codes_codePoint]

/-- So is `indent`. -/
theorem indent_codePoint (t pad : PyStr) : indent t pad = TextWrap.indent t pad := by
  rw [← codes_codePoint (indent t pad), codes_indent, codes_codePoint]

omit [Unicode] in
/-- So is `strip("\n")`. -/
theorem stripNewlines_codePoint (t : PyStr) : stripNewlines t = TextWrap.stripNewlines t := by
  rw [← codes_codePoint (stripNewlines t), codes_stripNewlines, codes_codePoint]

omit [Unicode] in
/-- Joining lines is `"\n".join` of texts. -/
theorem joinLines_codePoint (lines : List PyStr) : joinLines lines = join (py "\n") lines := by
  rw [← codes_codePoint (joinLines lines), codes_joinLines, map_codes_codePoint]

end Glyph
end Pidprobe
