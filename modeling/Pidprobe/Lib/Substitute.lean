/-
# Texts put into texts

`str.replace` and `str.format`.  Neither looks again at what it put in, and both
go through a text of lines line by line: `replace_joinLines`, `format_joinLines`.
-/

import Pidprobe.Lib.GlyphLines
import Pidprobe.Lib.Occurrences

namespace Pidprobe

open Glyph

/-! ## `str.replace` -/

/-- One character of `replace`: an occurrence that begins there is replaced, and else the
character is kept. -/
theorem replaceFrom_cons {old new : PyStr} (c : CodePoint) (t : PyStr) :
    replaceFrom old new 0 (c :: t) =
      if old <+: c :: t then new ++ replaceFrom old new (old.length - 1) t
      else c :: replaceFrom old new 0 t := by
  rw [replaceFrom]
  simp only [List.isPrefixOf_iff_prefix]

/-- A text without `old` in it is left alone. -/
theorem replace_eq_self {old t : PyStr} (new : PyStr) (h : ¬old <:+: t) :
    replace old new t = t := by
  rw [replace]
  induction t with
  | nil => rfl
  | cons c t ih =>
    rw [replaceFrom_cons, if_neg fun hp => h hp.isInfix,
      ih fun hi => h (hi.trans (List.suffix_cons c t).isInfix)]

/-- A newline that is not in `old` ends what may be an occurrence, so `replace` begins
afresh behind it. -/
theorem replaceFrom_append_newline {old new : PyStr} {n : CodePoint} (hne : old ≠ []) (hn : n ∉ old)
    {skip : ℕ} {s : PyStr} (hskip : skip ≤ s.length) (t : PyStr) :
    replaceFrom old new skip (s ++ n :: t) =
      replaceFrom old new skip s ++ n :: replaceFrom old new 0 t := by
  induction s generalizing skip with
  | nil =>
    obtain rfl : skip = 0 := Nat.le_zero.1 hskip
    have hnot : ¬old <+: n :: t := by
      rw [← List.nil_append (n :: t), prefix_append_cons_iff hn, List.prefix_nil]
      exact hne
    rw [List.nil_append, replaceFrom_cons, if_neg hnot]
    rfl
  | cons c s ih =>
    rcases skip with _ | skip
    · have hiff : old <+: c :: s ++ n :: t ↔ old <+: c :: s := prefix_append_cons_iff hn
      rw [List.cons_append] at hiff
      rw [List.cons_append, replaceFrom_cons, replaceFrom_cons, ih (Nat.zero_le _)]
      simp only [hiff]
      split_ifs with hp
      · have hlength := hp.length_le
        rw [List.length_cons] at hlength
        rw [ih (by omega), List.append_assoc]
      · rfl
    · rw [List.cons_append, replaceFrom, replaceFrom]
      exact ih (Nat.le_of_succ_le_succ hskip)

/-- **`replace` goes line by line**, where `old` has no newline and is not empty. -/
theorem replace_joinLines {old : PyStr} (hne : old ≠ []) (hn : cp '\n' ∉ old) (new : PyStr)
    (lines : List PyStr) :
    replace old new (joinLines lines) = joinLines (lines.map (replace old new)) := by
  induction lines with
  | nil => rfl
  | cons line lines ih =>
    by_cases hlines : lines = []
    · rw [hlines, joinLines_singleton, List.map_singleton, joinLines_singleton]
    · rw [joinLines_cons line hlines, List.map_cons, joinLines_cons _ (by simpa using hlines), ← ih]
      exact replaceFrom_append_newline hne hn (Nat.zero_le _) _

/-! ## `str.format` -/

/-- Where `str.format` is: in text, behind a `{`, behind a `}`, or in a replacement
field. -/
inductive FormatState
  | text
  | opened
  | closed
  | field (name : PyStr)

/-- The rest of `template.format(...)`; a field is known by what stands between
its braces.  Where `format` raises, there is no text. -/
def formatFrom (fields : PyStr → Option PyStr) : FormatState → PyStr → Option PyStr
  | .text, [] => some []
  | .text, c :: t =>
    if c = cp '\x7b' then formatFrom fields .opened t
    else if c = cp '\x7d' then formatFrom fields .closed t
    else (formatFrom fields .text t).map (c :: ·)
  | .opened, c :: t =>
    if c = cp '\x7b' then (formatFrom fields .text t).map (c :: ·)
    else if c = cp '\x7d' then none
    else formatFrom fields (.field [c]) t
  | .closed, c :: t =>
    if c = cp '\x7d' then (formatFrom fields .text t).map (c :: ·) else none
  | .field name, c :: t =>
    if c = cp '\x7d' then
      (fields name).bind fun value => (formatFrom fields .text t).map (value ++ ·)
    else formatFrom fields (.field (name ++ [c])) t
  | .opened, [] => none
  | .closed, [] => none
  | .field _, [] => none

/-- `template.format(...)`; `none` is the exception of a template or a field that is
wrong. -/
def format (fields : PyStr → Option PyStr) (template : PyStr) : Option PyStr :=
  formatFrom fields .text template

/-- `format` of each line; a line that has none is left empty. -/
def formatLines (fields : PyStr → Option PyStr) (lines : List PyStr) : List PyStr :=
  lines.map fun line => (format fields line).getD []

/-- `format` goes on behind a part, there with more fields maybe. -/
theorem formatFrom_append {fields fields' : PyStr → Option PyStr}
    (h : ∀ name value, fields name = some value → fields' name = some value) {state : FormatState}
    {s a t b : PyStr} (hs : formatFrom fields state s = some a) (ht : format fields' t = some b) :
    formatFrom fields' state (s ++ t) = some (a ++ b) := by
  induction s generalizing state a with
  | nil =>
    cases state with
    | text =>
      obtain rfl : [] = a := Option.some.inj hs
      exact ht
    | opened => cases hs
    | closed => cases hs
    | field name => cases hs
  | cons c s ih =>
    cases state with
    | text =>
      rw [formatFrom] at hs
      rw [List.cons_append, formatFrom]
      split_ifs at hs ⊢
      · exact ih hs
      · exact ih hs
      · obtain ⟨a', ha', rfl⟩ := Option.map_eq_some_iff.1 hs
        rw [ih ha', Option.map_some, List.cons_append]
    | opened =>
      rw [formatFrom] at hs
      rw [List.cons_append, formatFrom]
      split_ifs at hs ⊢
      · obtain ⟨a', ha', rfl⟩ := Option.map_eq_some_iff.1 hs
        rw [ih ha', Option.map_some, List.cons_append]
      · exact ih hs
    | closed =>
      rw [formatFrom] at hs
      rw [List.cons_append, formatFrom]
      split_ifs at hs ⊢
      obtain ⟨a', ha', rfl⟩ := Option.map_eq_some_iff.1 hs
      rw [ih ha', Option.map_some, List.cons_append]
    | field name =>
      rw [formatFrom] at hs
      rw [List.cons_append, formatFrom]
      split_ifs at hs ⊢
      · obtain ⟨value, hvalue, hs⟩ := Option.bind_eq_some_iff.1 hs
        obtain ⟨a', ha', rfl⟩ := Option.map_eq_some_iff.1 hs
        rw [h name value hvalue, Option.bind_some, ih ha', Option.map_some, List.append_assoc]
      · exact ih hs

/-- More fields do not change a text: those it names were there. -/
theorem format_mono {fields fields' : PyStr → Option PyStr}
    (h : ∀ name value, fields name = some value → fields' name = some value) {s a : PyStr}
    (hs : format fields s = some a) : format fields' s = some a := by
  have happend := formatFrom_append h hs (rfl : format fields' [] = some [])
  rwa [List.append_nil, List.append_nil] at happend

theorem formatLines_cons {fields : PyStr → Option PyStr} {line text : PyStr}
    (h : format fields line = some text) (lines : List PyStr) :
    formatLines fields (line :: lines) = text :: formatLines fields lines := by
  rw [formatLines, List.map_cons, h, Option.getD_some, ← formatLines]

/-- **`format` goes line by line**, where every line can be formatted. -/
theorem format_joinLines {fields : PyStr → Option PyStr} {lines : List PyStr}
    (h : ∀ line ∈ lines, (format fields line).isSome = true) :
    format fields (joinLines lines) = some (joinLines (formatLines fields lines)) := by
  induction lines with
  | nil => rfl
  | cons line lines ih =>
    obtain ⟨hline, hlines⟩ := List.forall_mem_cons.1 h
    obtain ⟨text, htext⟩ := Option.isSome_iff_exists.1 hline
    by_cases hne : lines = []
    · rw [hne, joinLines_singleton, htext, formatLines_cons htext]
      exact congrArg some (joinLines_singleton text).symm
    · have hne' : formatLines fields lines ≠ [] := by simpa [formatLines] using hne
      have hnewline : format fields (cp '\n' :: joinLines lines) =
          some (cp '\n' :: joinLines (formatLines fields lines)) := by
        rw [format, formatFrom, if_neg (by decide), if_neg (by decide), ← format, ih hlines,
          Option.map_some]
      rw [joinLines_cons line hne, formatLines_cons htext, joinLines_cons text hne']
      exact formatFrom_append (fun _ _ hvalue => hvalue) htext hnewline

theorem formatLines_append (fields : PyStr → Option PyStr) (lines lines' : List PyStr) :
    formatLines fields (lines ++ lines') = formatLines fields lines ++ formatLines fields lines' :=
  List.map_append

/-- More fields do not keep a line from being formatted. -/
theorem isSome_format_mono {fields fields' : PyStr → Option PyStr}
    (h : ∀ name value, fields name = some value → fields' name = some value) {lines : List PyStr}
    (hs : ∀ line ∈ lines, (format fields line).isSome = true) :
    ∀ line ∈ lines, (format fields' line).isSome = true := by
  intro line hline
  obtain ⟨text, htext⟩ := Option.isSome_iff_exists.1 (hs line hline)
  rw [format_mono h htext, Option.isSome_some]

/-- More fields do not change the lines. -/
theorem formatLines_mono {fields fields' : PyStr → Option PyStr}
    (h : ∀ name value, fields name = some value → fields' name = some value) {lines : List PyStr}
    (hs : ∀ line ∈ lines, (format fields line).isSome = true) :
    formatLines fields' lines = formatLines fields lines := by
  refine List.map_congr_left fun line hline => ?_
  obtain ⟨text, htext⟩ := Option.isSome_iff_exists.1 (hs line hline)
  rw [format_mono h htext, htext]

end Pidprobe
