/-
# Lines and margins of a text

`str.splitlines`, `str.strip`, `textwrap.dedent`, `textwrap.indent` and the
newlines of a file read as text, as functions of code points.

`splitlines` cuts at every line boundary of Unicode, `dedent` at `\n` alone;
`indent` leaves a line of white space as it is.
-/

import Pidprobe.Lib.Text

namespace Pidprobe
namespace TextWrap

/-- The characters `str.splitlines` ends a line at, of which the newline is one. -/
def isLineEnd (c : CodePoint) : Bool :=
  (10 ≤ c.val ∧ c.val ≤ 13) ∨ (28 ≤ c.val ∧ c.val ≤ 30) ∨ c.val = 0x85 ∨
    c.val = 0x2028 ∨ c.val = 0x2029

/-- `text.splitlines(True)`: each line with its end; `\r\n` is one boundary. -/
def splitLines : PyStr → List PyStr
  | [] => []
  | c :: t =>
    if isLineEnd c ∧ ¬(c = cp '\r' ∧ t.head? = some (cp '\n')) then [c] :: splitLines t
    else match splitLines t with
      | [] => [[c]]
      | line :: lines => (c :: line) :: lines

/-- `text.split("\n")`: always one line at least. -/
def splitNewlines : PyStr → List PyStr
  | [] => [[]]
  | c :: t =>
    if c = cp '\n' then [] :: splitNewlines t
    else match splitNewlines t with
      | [] => [[c]]
      | line :: lines => (c :: line) :: lines

/-- `text.strip("\n")`, at both ends. -/
def stripNewlines (text : PyStr) : PyStr :=
  ((text.dropWhile (· = cp '\n')).reverse.dropWhile (· = cp '\n')).reverse

/-- A text as `read_text` returns it: `\r\n` and `\r` are read as `\n`; `afterCr`
tells whether a `\r` comes right before. -/
def translateNewlines (afterCr : Bool) : PyStr → PyStr
  | [] => []
  | c :: t =>
    if c = cp '\r' then cp '\n' :: translateNewlines true t
    else if c = cp '\n' ∧ afterCr then translateNewlines false t
    else c :: translateNewlines false t

/-- A text without `\r` is read as it is. -/
theorem translateNewlines_eq_self {t : PyStr} (h : ∀ c ∈ t, c ≠ cp '\r') :
    translateNewlines false t = t := by
  induction t with
  | nil => rfl
  | cons c t ih =>
    obtain ⟨hc, ht⟩ := List.forall_mem_cons.1 h
    rw [translateNewlines, if_neg hc, if_neg (by simp), ih ht]

/-- What is read holds no `\r`, whatever the file holds. -/
theorem cr_notMem_translateNewlines {afterCr : Bool} {t : PyStr} :
    cp '\r' ∉ translateNewlines afterCr t := by
  induction t generalizing afterCr with
  | nil => simp [translateNewlines]
  | cons c t ih =>
    unfold translateNewlines
    split_ifs with hc
    · rw [List.mem_cons, not_or]
      exact ⟨by simp, ih⟩
    · exact ih
    · rw [List.mem_cons, not_or]
      exact ⟨Ne.symm hc, ih⟩

/-- So a text is read as it is exactly when it holds none. -/
theorem translateNewlines_eq_self_iff {t : PyStr} :
    translateNewlines false t = t ↔ cp '\r' ∉ t := by
  refine ⟨fun h => h ▸ cr_notMem_translateNewlines, fun h => ?_⟩
  exact translateNewlines_eq_self fun c hc hcr => h (hcr ▸ hc)

theorem translateNewlines_eq_nil {t : PyStr} : translateNewlines false t = [] ↔ t = [] := by
  cases t with
  | nil => simp [translateNewlines]
  | cons c t => by_cases hc : c = cp '\r' <;> simp [translateNewlines, hc]

variable [Unicode]

/-- `line.isspace()`, which the empty line is not. -/
def isBlank (line : PyStr) : Bool := !line.isEmpty && line.all Unicode.isspace

/-- The longest common prefix of blanks and tabs of two lines. -/
def commonMargin : PyStr → PyStr → PyStr
  | c :: s, d :: t => if c = d ∧ (c = cp ' ' ∨ c = cp '\t') then c :: commonMargin s t else []
  | _, _ => []

/-- The margin `dedent` removes: what the lines that are not blank have in
common. -/
def margin (lines : List PyStr) : ℕ :=
  match lines.filter fun line => !line.isEmpty && !isBlank line with
  | [] => 0
  | line :: rest => (rest.foldl commonMargin (commonMargin line line)).length

/-- What the lines that are not blank start with in common, as far as it is blanks and
tabs. -/
def marginText (lines : List PyStr) : PyStr :=
  match lines.filter fun line => !line.isEmpty && !isBlank line with
  | [] => []
  | line :: rest => rest.foldl commonMargin (commonMargin line line)

/-- The margin is as long as that. -/
theorem margin_eq_length (lines : List PyStr) : margin lines = (marginText lines).length := by
  rw [margin, marginText]
  split <;> rfl

omit [Unicode] in
/-- What two lines have in common begins both of them. -/
theorem prefix_commonMargin (s t : PyStr) : commonMargin s t <+: s ∧ commonMargin s t <+: t := by
  induction s generalizing t with
  | nil => exact ⟨List.nil_prefix, List.nil_prefix⟩
  | cons c s ih =>
    cases t with
    | nil => exact ⟨List.nil_prefix, List.nil_prefix⟩
    | cons d t =>
      rw [commonMargin]
      split_ifs with h
      · rw [List.cons_prefix_cons, List.cons_prefix_cons]
        exact ⟨⟨rfl, (ih t).1⟩, h.1, (ih t).2⟩
      · exact ⟨List.nil_prefix, List.nil_prefix⟩

omit [Unicode] in
theorem blank_of_mem_commonMargin {s t : PyStr} :
    ∀ c ∈ commonMargin s t, c = cp ' ' ∨ c = cp '\t' := by
  induction s generalizing t with
  | nil => exact List.forall_mem_nil _
  | cons c s ih =>
    cases t with
    | nil => exact List.forall_mem_nil _
    | cons d t =>
      rw [commonMargin]
      split_ifs with h
      · exact List.forall_mem_cons.2 ⟨h.2, ih⟩
      · exact List.forall_mem_nil _

omit [Unicode] in
/-- And what many lines have in common begins each of them. -/
theorem prefix_foldl_commonMargin (lines : List PyStr) (s : PyStr) :
    lines.foldl commonMargin s <+: s ∧ ∀ line ∈ lines, lines.foldl commonMargin s <+: line := by
  induction lines generalizing s with
  | nil => exact ⟨List.prefix_refl s, List.forall_mem_nil _⟩
  | cons line lines ih =>
    obtain ⟨hs, hline⟩ := prefix_commonMargin s line
    obtain ⟨hfold, hall⟩ := ih (commonMargin s line)
    exact ⟨hfold.trans hs, List.forall_mem_cons.2 ⟨hfold.trans hline, hall⟩⟩

/-- Every line that is not blank starts with the margin, so `dedent` takes nothing else off
it. -/
theorem prefix_marginText {lines : List PyStr} {line : PyStr} (h : line ∈ lines) (hne : line ≠ [])
    (hb : isBlank line = false) : marginText lines <+: line := by
  have hmem : line ∈ lines.filter fun line => !line.isEmpty && !isBlank line := by
    rw [List.mem_filter]
    exact ⟨h, by simp [hne, hb]⟩
  rw [marginText]
  split
  · exact List.nil_prefix
  · rename_i first rest hfilter
    rw [hfilter] at hmem
    obtain ⟨hfold, hall⟩ := prefix_foldl_commonMargin rest (commonMargin first first)
    rcases List.mem_cons.1 hmem with rfl | hmem
    · exact hfold.trans (prefix_commonMargin _ _).1
    · exact hall line hmem

theorem blank_of_mem_marginText {lines : List PyStr} :
    ∀ c ∈ marginText lines, c = cp ' ' ∨ c = cp '\t' := by
  rw [marginText]
  split
  · exact List.forall_mem_nil _
  · rename_i first rest _
    intro c hc
    obtain ⟨hfold, -⟩ := prefix_foldl_commonMargin rest (commonMargin first first)
    exact blank_of_mem_commonMargin c (hfold.subset hc)

/-- A line that starts with anything but white space leaves no margin. -/
theorem margin_eq_zero {lines : List PyStr} {c : CodePoint} {line : PyStr} (h : c :: line ∈ lines)
    (hc : Unicode.isspace c = false) : margin lines = 0 := by
  have hblank : isBlank (c :: line) = false := by simp [isBlank, hc]
  have hstart := prefix_marginText h (List.cons_ne_nil c line) hblank
  rw [margin_eq_length, List.length_eq_zero_iff]
  rcases hm : marginText lines with _ | ⟨d, rest⟩
  · rfl
  · rw [hm, List.cons_prefix_cons] at hstart
    have hd := blank_of_mem_marginText d (hm ▸ List.mem_cons_self ..)
    rw [hstart.1] at hd
    rcases hd with rfl | rfl <;> rw [Unicode.isspace_ascii _ (by decide)] at hc <;>
      exact absurd hc (by decide)

/-- `textwrap.dedent`: the margin is taken off every line, and a blank line becomes an empty
one. -/
def dedent (text : PyStr) : PyStr :=
  let lines := splitNewlines text
  join (py "\n") (lines.map fun line => if isBlank line then [] else line.drop (margin lines))

/-- `textwrap.indent` without a predicate: the pad goes in front of every line that is not
blank. -/
def indent (text pad : PyStr) : PyStr :=
  (splitLines text).flatMap fun line => if isBlank line then line else pad ++ line

end TextWrap
end Pidprobe
