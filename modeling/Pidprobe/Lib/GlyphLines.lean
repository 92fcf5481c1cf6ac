/-
# A text as its lines

`dedent`, `strip("\n")` and `indent` of a text that is given by its lines, each of
them a change of the lines: `dedent_joinLines`, `stripNewlines_joinLines`,
`indent_joinLines`.
-/

import Pidprobe.Lib.Glyphs

namespace Pidprobe
namespace Glyph

variable {α : Type} [Glyph α]

/-- A line of `str.split("\n")`: a text without a newline, whatever else ends a line
elsewhere. -/
def Unbroken (line : List α) : Prop := ∀ a ∈ line, isNewline a = false

theorem isNewline_glyph : isNewline (glyph (cp '\n') : α) = true := by
  rw [isNewline, code_glyph]
  rfl

/-- A newline ends a line for `splitlines` too, so what ends none is no newline. -/
theorem isNewline_of_isLineEnd {a : α} (h : TextWrap.isLineEnd (code a) = false) :
    isNewline a = false := by
  refine Bool.eq_false_iff.2 fun hn => ?_
  have hcode : code a = cp '\n' := of_decide_eq_true hn
  rw [hcode] at h
  exact absurd h (by decide)

/-- A line of `splitlines` without its end is one of `split` as well. -/
theorem unbroken_of_line {t : List α} (h : ∀ a ∈ t, TextWrap.isLineEnd (code a) = false) :
    Unbroken t := fun a ha => isNewline_of_isLineEnd (h a ha)

theorem unbroken_nil : Unbroken ([] : List α) := List.forall_mem_nil _

theorem Unbroken.append {s t : List α} (hs : Unbroken s) (ht : Unbroken t) : Unbroken (s ++ t) :=
  List.forall_mem_append.2 ⟨hs, ht⟩

theorem Unbroken.drop {line : List α} (h : Unbroken line) (n : ℕ) : Unbroken (line.drop n) :=
  fun a ha => h a (List.mem_of_mem_drop ha)

theorem Unbroken.reverse {line : List α} (h : Unbroken line) : Unbroken line.reverse :=
  fun a ha => h a (List.mem_reverse.1 ha)

/-! ## Splitting and joining -/

/-- A text without a newline is its own only line. -/
theorem splitNewlines_of_unbroken {line : List α} (h : Unbroken line) :
    splitNewlines line = [line] := List.splitOnP_eq_singleton h

/-- A newline separates the lines in front of it from those behind it. -/
theorem splitNewlines_append (t u : List α) {n : α} (hn : isNewline n = true) :
    splitNewlines (t ++ n :: u) = splitNewlines t ++ splitNewlines u :=
  List.splitOnP_append_cons t u hn

theorem splitNewlines_ne_nil (t : List α) : splitNewlines t ≠ [] := List.splitOnP_ne_nil _ t

theorem joinLines_singleton (line : List α) : joinLines [line] = line :=
  List.intercalate_singleton

/-- A line goes in front of joined lines with a newline behind it. -/
theorem joinLines_cons (line : List α) {lines : List (List α)} (h : lines ≠ []) :
    joinLines (line :: lines) = line ++ glyph (cp '\n') :: joinLines lines := by
  rw [joinLines, List.intercalate_cons_of_ne_nil h, List.append_assoc]
  rfl

/-- Lines are joined in two parts with a newline between the parts. -/
theorem joinLines_append {before after : List (List α)} (hb : before ≠ []) (ha : after ≠ []) :
    joinLines (before ++ after) = joinLines before ++ glyph (cp '\n') :: joinLines after := by
  induction before with
  | nil => exact absurd rfl hb
  | cons line before ih =>
    by_cases hbefore : before = []
    · rw [hbefore, List.singleton_append, joinLines_cons line ha, joinLines_singleton]
    · rw [List.cons_append, joinLines_cons line (by simp [ha]), ih hbefore,
        joinLines_cons line hbefore, List.append_assoc, List.cons_append]

/-- A line that is itself given by its lines may be put in as these. -/
theorem joinLines_flatten (before after : List (List α)) {lines : List (List α)} (h : lines ≠ []) :
    joinLines (before ++ joinLines lines :: after) = joinLines (before ++ lines ++ after) := by
  have hcons : joinLines (joinLines lines :: after) = joinLines (lines ++ after) := by
    by_cases hafter : after = []
    · rw [hafter, joinLines_singleton, List.append_nil]
    · rw [joinLines_cons _ hafter, joinLines_append h hafter]
  by_cases hbefore : before = []
  · rw [hbefore, List.nil_append, List.nil_append, hcons]
  · rw [joinLines_append hbefore (List.cons_ne_nil _ _), hcons, List.append_assoc,
      joinLines_append hbefore (by simp [h])]

/-- A newline at the start makes an empty first line. -/
theorem splitNewlines_cons_of_newline {a : α} (ha : isNewline a = true) (t : List α) :
    splitNewlines (a :: t) = [] :: splitNewlines t := by
  rw [splitNewlines, List.splitOnP_cons_eq_if_modifyHead, if_pos ha, ← splitNewlines]

/-- Any other character goes to the first line. -/
theorem splitNewlines_cons {a : α} (ha : isNewline a = false) {t line : List α}
    {lines : List (List α)} (h : splitNewlines t = line :: lines) :
    splitNewlines (a :: t) = (a :: line) :: lines := by
  rw [splitNewlines, List.splitOnP_cons_eq_if_modifyHead, if_neg (Bool.eq_false_iff.1 ha),
    ← splitNewlines, h, List.modifyHead_cons]

/-- The lines of a text hold no newline. -/
theorem unbroken_of_mem_splitNewlines {t : List α} :
    ∀ line ∈ splitNewlines t, Unbroken line := by
  induction t with
  | nil => exact List.forall_mem_singleton.2 unbroken_nil
  | cons a t ih =>
    by_cases ha : isNewline a = true
    · rw [splitNewlines_cons_of_newline ha]
      exact List.forall_mem_cons.2 ⟨unbroken_nil, ih⟩
    · obtain ⟨first, rest, hsplit⟩ := List.exists_cons_of_ne_nil (splitNewlines_ne_nil t)
      rw [splitNewlines_cons (Bool.eq_false_iff.2 ha) hsplit]
      rw [hsplit] at ih
      obtain ⟨hfirst, hrest⟩ := List.forall_mem_cons.1 ih
      have ha' : Unbroken (a :: first) :=
        List.forall_mem_cons.2 ⟨Bool.eq_false_iff.2 ha, hfirst⟩
      exact List.forall_mem_cons.2 ⟨ha', hrest⟩

/-- What holds of the characters of a text holds of those of its lines. -/
theorem forall_mem_splitNewlines {P : α → Prop} {t : List α} (h : ∀ a ∈ t, P a) :
    ∀ line ∈ splitNewlines t, ∀ a ∈ line, P a := by
  induction t with
  | nil => exact List.forall_mem_singleton.2 (List.forall_mem_nil _)
  | cons a t ih =>
    obtain ⟨ha, ht⟩ := List.forall_mem_cons.1 h
    by_cases hn : isNewline a = true
    · rw [splitNewlines_cons_of_newline hn]
      exact List.forall_mem_cons.2 ⟨List.forall_mem_nil _, ih ht⟩
    · obtain ⟨first, rest, hsplit⟩ := List.exists_cons_of_ne_nil (splitNewlines_ne_nil t)
      have hall := ih ht
      rw [hsplit] at hall
      obtain ⟨hfirst, hrest⟩ := List.forall_mem_cons.1 hall
      rw [splitNewlines_cons (Bool.eq_false_iff.2 hn) hsplit]
      exact List.forall_mem_cons.2 ⟨List.forall_mem_cons.2 ⟨ha, hfirst⟩, hrest⟩

/-- Where two texts meet, the last line of the one and the first line of the other become
one. -/
theorem splitNewlines_append_lines {t u last first : List α} {before after : List (List α)}
    (ht : splitNewlines t = before ++ [last]) (hu : splitNewlines u = first :: after) :
    splitNewlines (t ++ u) = before ++ (last ++ first) :: after := by
  induction t generalizing before last with
  | nil =>
    rcases before with _ | ⟨line, before⟩
    · obtain rfl : [] = last := (List.cons_eq_cons.1 ht).1
      exact hu
    · have := congrArg List.length ht
      simp [splitNewlines] at this
  | cons a t ih =>
    obtain ⟨line, lines, hlines⟩ := List.exists_cons_of_ne_nil (splitNewlines_ne_nil t)
    by_cases ha : isNewline a = true
    · rw [splitNewlines_cons_of_newline ha] at ht
      rcases before with _ | ⟨empty, before⟩
      · exact absurd (List.cons_eq_cons.1 ht).2 (splitNewlines_ne_nil t)
      · obtain ⟨rfl, ht'⟩ := List.cons_eq_cons.1 ht
        rw [List.cons_append, splitNewlines_cons_of_newline ha, ih ht', List.cons_append]
    · have ha' := Bool.eq_false_iff.2 ha
      rw [splitNewlines_cons ha' hlines] at ht
      rcases before with _ | ⟨start, before⟩
      · obtain ⟨rfl, rfl⟩ := List.cons_eq_cons.1 ht
        exact splitNewlines_cons ha' (ih (hlines.trans (List.nil_append _).symm))
      · obtain ⟨rfl, rfl⟩ := List.cons_eq_cons.1 ht
        exact splitNewlines_cons ha' (ih (hlines.trans (List.cons_append ..).symm))

/-- The same, of texts given by their lines. -/
theorem joinLines_append_lines (before after : List (List α)) (last first : List α) :
    joinLines (before ++ [last]) ++ joinLines (first :: after) =
      joinLines (before ++ (last ++ first) :: after) := by
  have hmeet : last ++ joinLines (first :: after) = joinLines ((last ++ first) :: after) := by
    by_cases hafter : after = []
    · rw [hafter, joinLines_singleton, joinLines_singleton]
    · rw [joinLines_cons _ hafter, joinLines_cons _ hafter, List.append_assoc]
  by_cases hbefore : before = []
  · rw [hbefore, List.nil_append, List.nil_append, joinLines_singleton, hmeet]
  · rw [joinLines_append hbefore (List.cons_ne_nil _ _), joinLines_singleton,
      joinLines_append hbefore (List.cons_ne_nil _ _), ← hmeet, List.append_assoc,
      List.cons_append]

/-- Joined lines hold their characters and newlines. -/
theorem forall_mem_joinLines {P : α → Prop} (hP : P (glyph (cp '\n'))) {lines : List (List α)}
    (h : ∀ line ∈ lines, ∀ a ∈ line, P a) : ∀ a ∈ joinLines lines, P a := by
  induction lines with
  | nil => exact List.forall_mem_nil _
  | cons line lines ih =>
    obtain ⟨hline, hlines⟩ := List.forall_mem_cons.1 h
    by_cases hne : lines = []
    · rwa [hne, joinLines_singleton]
    · rw [joinLines_cons line hne]
      exact List.forall_mem_append.2 ⟨hline, List.forall_mem_cons.2 ⟨hP, ih hlines⟩⟩

/-- The lines of joined texts are those of the texts, one behind the other. -/
theorem splitNewlines_joinLines_flatMap {texts : List (List α)} (hne : texts ≠ []) :
    splitNewlines (joinLines texts) = texts.flatMap splitNewlines := by
  induction texts with
  | nil => exact absurd rfl hne
  | cons text texts ih =>
    by_cases hne' : texts = []
    · rw [hne', joinLines_singleton, List.flatMap_singleton]
    · rw [joinLines_cons text hne', splitNewlines_append _ _ isNewline_glyph, ih hne',
        List.flatMap_cons]

/-- Lines are read back from their text. -/
theorem splitNewlines_joinLines {lines : List (List α)} (hne : lines ≠ [])
    (h : ∀ line ∈ lines, Unbroken line) : splitNewlines (joinLines lines) = lines := by
  rw [splitNewlines_joinLines_flatMap hne]
  conv_rhs => rw [← List.flatMap_singleton' lines]
  exact List.flatMap_congr fun line hline => splitNewlines_of_unbroken (h line hline)

/-! ## Dedenting -/

section

variable [Unicode]

/-- What `dedent` makes of a line: nothing of a blank one, and else the line without its
margin. -/
def undent (margin : ℕ) (line : List α) : List α := if isBlank line then [] else line.drop margin

theorem Unbroken.undent {line : List α} (h : Unbroken line) (margin : ℕ) :
    Unbroken (undent margin line) := by
  rw [Glyph.undent]
  split_ifs
  · exact unbroken_nil
  · exact h.drop margin

/-- The margin `dedent` removes: how many blanks and tabs the lines that are not blank start
with in common. -/
def textMargin (t : List α) : ℕ := TextWrap.margin ((splitNewlines t).map codes)

/-- `dedent` works line by line, with one margin for all of them. -/
theorem dedent_eq (t : List α) :
    dedent t = joinLines ((splitNewlines t).map (undent (textMargin t))) := rfl

theorem textMargin_eq (t : List α) :
    textMargin t = (TextWrap.marginText (TextWrap.splitNewlines (codes t))).length := by
  rw [textMargin, codes_splitNewlines, TextWrap.margin_eq_length]

end

/-! ## Stripping -/

/-- A text that starts with something else keeps its start when newlines are stripped. -/
theorem dropWhile_joinLines_cons {line : List α} (hne : line ≠ []) (h : Unbroken line)
    (after : List (List α)) :
    (joinLines (line :: after)).dropWhile isNewline = joinLines (line :: after) := by
  obtain ⟨a, t, rfl⟩ := List.exists_cons_of_ne_nil hne
  rw [joinLines, List.intercalate_cons_cons_left,
    List.dropWhile_cons_of_neg (by simp [h a (List.mem_cons_self ..)])]

/-- Newlines at the start are empty lines, up to the first line with something in it. -/
theorem dropWhile_joinLines {before after : List (List α)} {line : List α} (hne : line ≠ [])
    (h : ∀ l ∈ before ++ line :: after, Unbroken l) :
    (joinLines (before ++ line :: after)).dropWhile isNewline =
      joinLines (before.dropWhile List.isEmpty ++ line :: after) := by
  induction before with
  | nil => exact dropWhile_joinLines_cons hne (h line (List.mem_cons_self ..)) after
  | cons first before ih =>
    obtain ⟨hfirst, hrest⟩ := List.forall_mem_cons.1 h
    by_cases hempty : first = []
    · subst hempty
      rw [List.cons_append, joinLines_cons [] (by simp), List.nil_append,
        List.dropWhile_cons_of_pos isNewline_glyph, ih hrest,
        List.dropWhile_cons_of_pos List.isEmpty_nil]
    · rw [List.cons_append, dropWhile_joinLines_cons hempty hfirst,
        List.dropWhile_cons_of_neg (by simpa using hempty), List.cons_append]

/-- A text read backwards has its lines in reverse, each read backwards. -/
theorem reverse_joinLines (lines : List (List α)) :
    (joinLines lines).reverse = joinLines (lines.map List.reverse).reverse := by
  induction lines with
  | nil => rfl
  | cons line lines ih =>
    by_cases hne : lines = []
    · rw [hne, joinLines_singleton, List.map_singleton, List.reverse_singleton,
        joinLines_singleton]
    · rw [joinLines_cons line hne, List.reverse_append, List.reverse_cons, ih, List.map_cons,
        List.reverse_cons, joinLines_append (by simpa using hne) (List.cons_ne_nil _ _),
        joinLines_singleton, List.append_assoc, List.singleton_append]

/-- Newlines at the end are empty lines, down to the last line with something in it. -/
theorem dropWhile_reverse_joinLines {before after : List (List α)} {line : List α} (hne : line ≠ [])
    (h : ∀ l ∈ before ++ line :: after, Unbroken l) :
    ((joinLines (before ++ line :: after)).reverse.dropWhile isNewline).reverse =
      joinLines (before ++ line :: (after.reverse.dropWhile List.isEmpty).reverse) := by
  have hreverse : (joinLines (before ++ line :: after)).reverse =
      joinLines ((after.reverse.map List.reverse) ++ line.reverse ::
        (before.reverse.map List.reverse)) := by
    rw [reverse_joinLines, List.map_append, List.reverse_append, List.map_cons, List.reverse_cons,
      List.append_assoc, List.singleton_append, ← List.map_reverse, ← List.map_reverse]
  have hall : ∀ l ∈ (after.reverse.map List.reverse) ++ line.reverse ::
      (before.reverse.map List.reverse), Unbroken l := by
    intro l hl
    rw [← List.map_cons, ← List.map_append] at hl
    obtain ⟨l', hl', rfl⟩ := List.mem_map.1 hl
    refine (h l' ?_).reverse
    simp only [List.mem_append, List.mem_cons, List.mem_reverse] at hl' ⊢
    tauto
  have hempty : (List.isEmpty ∘ List.reverse : List α → Bool) = List.isEmpty :=
    funext fun l => List.isEmpty_reverse
  rw [hreverse, dropWhile_joinLines (by simpa using hne) hall, List.dropWhile_map, hempty,
    reverse_joinLines]
  simp

/-- **`strip("\n")` takes the empty lines off both ends**, and leaves those within. -/
theorem stripNewlines_joinLines {before core after : List (List α)} {first last : List α}
    (hfirst : core.head? = some first) (hlast : core.getLast? = some last) (hfne : first ≠ [])
    (hlne : last ≠ []) (h : ∀ l ∈ before ++ core ++ after, Unbroken l) :
    stripNewlines (joinLines (before ++ core ++ after)) =
      joinLines (before.dropWhile List.isEmpty ++ core ++
        (after.reverse.dropWhile List.isEmpty).reverse) := by
  have hstart : (joinLines (before ++ core ++ after)).dropWhile isNewline =
      joinLines (before.dropWhile List.isEmpty ++ core ++ after) := by
    obtain ⟨tail, rfl⟩ := List.head?_eq_some_iff.1 hfirst
    rw [List.append_assoc, List.cons_append] at h ⊢
    rw [dropWhile_joinLines hfne h, List.append_assoc, List.cons_append]
  have hsub : ∀ l ∈ before.dropWhile List.isEmpty ++ core ++ after, Unbroken l := fun l hl => by
    refine h l ?_
    rw [List.append_assoc, List.mem_append] at hl ⊢
    exact hl.imp_left fun hl => (List.dropWhile_sublist _).subset hl
  obtain ⟨front, rfl⟩ := List.getLast?_eq_some_iff.1 hlast
  rw [← List.append_assoc, List.append_assoc, List.singleton_append] at hsub
  rw [stripNewlines, hstart, ← List.append_assoc, List.append_assoc, List.singleton_append,
    dropWhile_reverse_joinLines hlne hsub]
  simp

/-! ## Indenting -/

/-- Only the empty text has no lines. -/
@[simp] theorem splitLines_eq_nil {t : List α} : splitLines t = [] ↔ t = [] := by
  cases t with
  | nil => simp [splitLines]
  | cons a t =>
    rw [splitLines]
    split_ifs
    · simp
    · rcases splitLines t <;> simp

/-- No line of `splitlines(True)` is empty: it holds its end at least. -/
theorem ne_nil_of_mem_splitLines {t line : List α} (h : line ∈ splitLines t) : line ≠ [] := by
  induction t generalizing line with
  | nil => cases h
  | cons a t ih =>
    rw [splitLines] at h
    split_ifs at h
    · rcases List.mem_cons.1 h with rfl | h
      · exact List.cons_ne_nil _ _
      · exact ih h
    · rcases ht : splitLines t with _ | ⟨first, rest⟩
      · rw [ht] at h
        obtain rfl := List.mem_singleton.1 h
        exact List.cons_ne_nil _ _
      · rw [ht] at h ih
        rcases List.mem_cons.1 h with rfl | h
        · exact List.cons_ne_nil _ _
        · exact ih (List.mem_cons_of_mem _ h)

/-- A newline ends a line whatever follows it. -/
theorem endsLine_newline {n : α} (hn : isNewline n = true) (t : List α) : EndsLine n t := by
  have hcode : code n = cp '\n' := of_decide_eq_true hn
  rw [EndsLine, hcode]
  exact ⟨by decide, fun h => absurd h.1 (by decide)⟩

/-- A newline ends a line in every context, so a text may be split behind it. -/
theorem splitLines_append_newline (t u : List α) {n : α} (hn : isNewline n = true) :
    splitLines (t ++ n :: u) = splitLines (t ++ [n]) ++ splitLines u := by
  induction t with
  | nil =>
    rw [List.nil_append, List.nil_append, splitLines_cons_of_ends (endsLine_newline hn u),
      splitLines_cons_of_ends (endsLine_newline hn [])]
    rfl
  | cons a t ih =>
    have hhead : (t ++ n :: u).head? = (t ++ [n]).head? := by cases t <;> rfl
    by_cases hends : EndsLine a (t ++ [n])
    · have hends' : EndsLine a (t ++ n :: u) := by rwa [EndsLine, hhead]
      rw [List.cons_append, List.cons_append, splitLines_cons_of_ends hends,
        splitLines_cons_of_ends hends', ih, List.cons_append]
    · have hends' : ¬EndsLine a (t ++ n :: u) := by rwa [EndsLine, hhead]
      obtain ⟨line, lines, hlines⟩ := List.exists_cons_of_ne_nil
        (fun h => by simp at h : splitLines (t ++ [n]) ≠ [])
      rw [hlines, List.cons_append] at ih
      rw [List.cons_append, List.cons_append, splitLines_cons_of_not_ends hends hlines,
        splitLines_cons_of_not_ends hends' ih, List.cons_append]

theorem splitLines_singleton (a : α) : splitLines [a] = [[a]] := by
  rw [splitLines]
  split_ifs <;> rfl

/-- What one more character at the end does to the last line: it starts a new one, or goes
to the last. -/
theorem splitLines_concat (t : List α) (n : α) :
    splitLines (t ++ [n]) = splitLines t ++ [[n]] ∨
      ∃ lines line, splitLines t = lines ++ [line] ∧
        splitLines (t ++ [n]) = lines ++ [line ++ [n]] := by
  induction t with
  | nil => exact .inl (splitLines_singleton n)
  | cons a t ih =>
    rw [List.cons_append]
    rcases t.eq_nil_or_concat with rfl | hne
    · by_cases hends : EndsLine a [n]
      · rw [List.nil_append, splitLines_cons_of_ends hends, splitLines_singleton,
          splitLines_singleton]
        exact .inl rfl
      · rw [List.nil_append, splitLines_cons_of_not_ends hends (splitLines_singleton n),
          splitLines_singleton]
        exact .inr ⟨[], [a], rfl, rfl⟩
    · have hhead : (t ++ [n]).head? = t.head? := by
        obtain ⟨init, last, rfl⟩ := hne
        cases init <;> rfl
      by_cases hends : EndsLine a t
      · have hends' : EndsLine a (t ++ [n]) := by rwa [EndsLine, hhead]
        rw [splitLines_cons_of_ends hends, splitLines_cons_of_ends hends']
        rcases ih with h | ⟨lines, line, h, h'⟩
        · exact .inl (by rw [h, List.cons_append])
        · exact .inr ⟨[a] :: lines, line, by rw [h, List.cons_append], by rw [h', List.cons_append]⟩
      · have hends' : ¬EndsLine a (t ++ [n]) := by rwa [EndsLine, hhead]
        rcases ih with h | ⟨lines, line, h, h'⟩
        · obtain ⟨first, rest, hfirst⟩ := List.exists_cons_of_ne_nil
            (mt splitLines_eq_nil.1 (fun h => by simp [h] at hne) : splitLines t ≠ [])
          rw [hfirst, List.cons_append] at h
          rw [splitLines_cons_of_not_ends hends hfirst, splitLines_cons_of_not_ends hends' h]
          exact .inl rfl
        · rcases lines with _ | ⟨first, rest⟩
          · rw [splitLines_cons_of_not_ends hends h, splitLines_cons_of_not_ends hends' h']
            exact .inr ⟨[], a :: line, rfl, rfl⟩
          · rw [splitLines_cons_of_not_ends hends h, splitLines_cons_of_not_ends hends' h']
            exact .inr ⟨(a :: first) :: rest, line, rfl, rfl⟩

section

variable [Unicode]

/-- What `indent` makes of a line of `splitlines`: a blank line stays as it is. -/
def padLine (pad : PyStr) (line : List α) : List α :=
  if isBlank line then line else glyphs pad ++ line

/-- A newline is white space, so it does not tell whether a line is blank. -/
theorem isspace_newline {n : α} (hn : isNewline n = true) : Unicode.isspace (code n) = true := by
  have hcode : code n = cp '\n' := of_decide_eq_true hn
  rw [hcode, Unicode.isspace_ascii _ (by decide)]
  rfl

/-- A line is indented with its newline as it is without. -/
theorem padLine_concat_newline (pad : PyStr) {line : List α} (hne : line ≠ []) {n : α}
    (hn : isNewline n = true) : padLine pad (line ++ [n]) = padLine pad line ++ [n] := by
  have hblank : isBlank (line ++ [n]) = isBlank line := by
    obtain ⟨a, t, rfl⟩ := List.exists_cons_of_ne_nil hne
    simp [isBlank, TextWrap.isBlank, codes, isspace_newline hn]
  rw [padLine, padLine, hblank]
  split_ifs
  · rfl
  · rw [List.append_assoc]

/-- A newline ends what `indent` looks at: the texts on either side are indented by
themselves. -/
theorem indent_append_newline (pad : PyStr) (t u : List α) {n : α} (hn : isNewline n = true) :
    indent (t ++ n :: u) pad = indent t pad ++ n :: indent u pad := by
  have hlast : indent (t ++ [n]) pad = indent t pad ++ [n] := by
    have hpad : ∀ s : List α, indent s pad = (splitLines s).flatMap (padLine pad) := fun _ => rfl
    have hblank : padLine pad [n] = [n] := by
      rw [padLine, if_pos (by simp [isBlank, TextWrap.isBlank, codes, isspace_newline hn])]
    rw [hpad, hpad]
    rcases splitLines_concat t n with h | ⟨lines, line, h, h'⟩
    · rw [h, List.flatMap_append, List.flatMap_singleton, hblank]
    · have hne : line ≠ [] := ne_nil_of_mem_splitLines (h ▸ List.mem_append_right _ (by simp))
      rw [h, h', List.flatMap_append, List.flatMap_append, List.flatMap_singleton,
        List.flatMap_singleton, padLine_concat_newline pad hne hn, List.append_assoc]
  rw [indent, splitLines_append_newline t u hn, List.flatMap_append, ← indent, ← indent, hlast,
    List.append_assoc, List.singleton_append]

/-- **`indent` indents the lines one by one**, whatever else they have in them that ends a
line. -/
theorem indent_joinLines (pad : PyStr) (lines : List (List α)) :
    indent (joinLines lines) pad = joinLines (lines.map (indent · pad)) := by
  induction lines with
  | nil => rfl
  | cons line lines ih =>
    by_cases hne : lines = []
    · rw [hne, joinLines_singleton, List.map_singleton, joinLines_singleton]
    · rw [joinLines_cons line hne, indent_append_newline pad _ _ isNewline_glyph, ih, List.map_cons,
        joinLines_cons _ (by simpa using hne)]

end

end Glyph
end Pidprobe
