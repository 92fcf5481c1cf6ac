/-
# String literals

What Python's compiler reads a string literal without prefix as, between single
quotes of either kind.  The escapes are those of a letter, `\xhh`, `\uhhhh` and
`\Uhhhhhhhh`; those by octal digits or by a character name, and a backslash at
the end of a line, are left out.

`readLiteral_reprStr`: what `repr` spells is read back.
-/

import Pidprobe.Lib.JsonStrings
import Pidprobe.Lib.PyRepr
import Pidprobe.Lib.TextWrap

namespace Pidprobe

/-- Where the compiler is in a literal: in the text, behind a backslash, or before
that many hexadecimal digits and one more, with the value so far. -/
inductive LiteralState
  | text
  | escape
  | digits (left value : ℕ)

/-- The character behind a backslash and a letter, for the escapes of one letter. -/
def escaped (c : CodePoint) : Option CodePoint :=
  if c = cp '\\' ∨ c = apostrophe ∨ c = cp '"' then some c
  else if c = cp 'a' then some (Utf8.code 7)
  else if c = cp 'b' then some (Utf8.code 8)
  else if c = cp 't' then some (cp '\t')
  else if c = cp 'n' then some (cp '\n')
  else if c = cp 'v' then some (Utf8.code 11)
  else if c = cp 'f' then some (Utf8.code 12)
  else if c = cp 'r' then some (cp '\r')
  else none

/-- How many digits but one a letter behind a backslash asks for. -/
def escapeDigits (c : CodePoint) : Option ℕ :=
  if c = cp 'x' then some 1
  else if c = cp 'u' then some 3
  else if c = cp 'U' then some 7
  else none

/-- A character by its number in front of the rest, where there is a character of this
number. -/
def consCode (n : ℕ) (rest : Option PyStr) : Option PyStr :=
  if h : n < 0x110000 then rest.map (⟨n, h⟩ :: ·) else none

/-- The rest of a literal, in the state in which its next character is read; the closing
quote ends the text. -/
def readLiteralFrom (quote : CodePoint) : LiteralState → PyStr → Option PyStr
  | .text, c :: t =>
    if c = quote then (if t = [] then some [] else none)
    else if c = cp '\\' then readLiteralFrom quote .escape t
    else if c = cp '\n' ∨ c = cp '\r' then none
    else (readLiteralFrom quote .text t).map (c :: ·)
  | .escape, c :: t =>
    match escaped c, escapeDigits c with
    | some d, _ => (readLiteralFrom quote .text t).map (d :: ·)
    | none, some left => readLiteralFrom quote (.digits left 0) t
    | none, none => none
  | .digits 0 value, c :: t =>
    (Json.hexValue c).bind fun d => consCode (16 * value + d) (readLiteralFrom quote .text t)
  | .digits (left + 1) value, c :: t =>
    (Json.hexValue c).bind fun d => readLiteralFrom quote (.digits left (16 * value + d)) t
  | .text, [] => none
  | .escape, [] => none
  | .digits _ _, [] => none

/-- The string a literal in quotes of either kind stands for. -/
def readLiteral : PyStr → Option PyStr
  | [] => none
  | c :: t => if c = cp '"' ∨ c = apostrophe then readLiteralFrom c .text t else none

/-! ## Digits -/

theorem hexText_succ (width n : ℕ) :
    hexText (width + 1) n = Json.hexDigit (n / 16 ^ width % 16) :: hexText width n := by
  rw [hexText, List.range_succ_eq_map, List.map_cons, List.map_map, hexText]
  refine congrArg₂ List.cons (by simp) (List.map_congr_left fun i _ => ?_)
  have hindex : width + 1 - 1 - (i + 1) = width - 1 - i := by omega
  rw [Function.comp_apply, Nat.succ_eq_add_one, hindex]

/-- Digits are read as the number they spell, behind those that were read already. -/
theorem readLiteralFrom_digits (quote : CodePoint) (left value n : ℕ) (rest : PyStr) :
    readLiteralFrom quote (.digits left value) (hexText (left + 1) n ++ rest) =
      consCode (16 ^ (left + 1) * value + n % 16 ^ (left + 1))
        (readLiteralFrom quote .text rest) := by
  induction left generalizing value with
  | zero =>
    have hdigit := Json.hexValue_hexDigit (n % 16) (Nat.mod_lt _ (by decide))
    rw [hexText_succ, pow_zero, Nat.div_one, List.cons_append, readLiteralFrom, hdigit,
      Option.bind_some, zero_add, pow_one]
    rfl
  | succ left ih =>
    have hdigit := Json.hexValue_hexDigit (n / 16 ^ (left + 1) % 16) (Nat.mod_lt _ (by decide))
    have hvalue : 16 ^ (left + 1) * (16 * value + n / 16 ^ (left + 1) % 16) +
        n % 16 ^ (left + 1) = 16 ^ (left + 1 + 1) * value + n % 16 ^ (left + 1 + 1) := by
      rw [Nat.mod_pow_succ (b := 16) (k := left + 1) (x := n)]
      ring
    rw [hexText_succ, List.cons_append, readLiteralFrom, hdigit, Option.bind_some, ih, hvalue]

/-- A number that has room in the digits is read as itself. -/
theorem readLiteralFrom_hexText (quote : CodePoint) (left : ℕ) {c : CodePoint}
    (h : c.val < 16 ^ (left + 1)) (rest : PyStr) :
    readLiteralFrom quote (.digits left 0) (hexText (left + 1) c ++ rest) =
      (readLiteralFrom quote .text rest).map (c :: ·) := by
  rw [readLiteralFrom_digits, Nat.mul_zero, Nat.zero_add, Nat.mod_eq_of_lt h, consCode,
    dif_pos c.isLt]

/-! ## What `repr` spells -/

/-- An escape of `repr` by a letter is read as its character. -/
theorem readLiteralFrom_escaped {quote c d : CodePoint} (hq : quote ≠ cp '\\')
    (h : escaped d = some c) (rest : PyStr) :
    readLiteralFrom quote .text (cp '\\' :: d :: rest) =
      (readLiteralFrom quote .text rest).map (c :: ·) := by
  rw [readLiteralFrom, if_neg (Ne.symm hq), if_pos rfl, readLiteralFrom, h]

/-- An escape by digits goes on with the digits. -/
theorem readLiteralFrom_escapeDigits {quote d : CodePoint} {left : ℕ} (hq : quote ≠ cp '\\')
    (hnone : escaped d = none) (h : escapeDigits d = some left) (rest : PyStr) :
    readLiteralFrom quote .text (cp '\\' :: d :: rest) =
      readLiteralFrom quote (.digits left 0) rest := by
  rw [readLiteralFrom, if_neg (Ne.symm hq), if_pos rfl, readLiteralFrom, hnone, h]

theorem reprQuote_eq (s : PyStr) : reprQuote s = cp '"' ∨ reprQuote s = apostrophe := by
  rw [reprQuote]
  split_ifs
  · exact .inl rfl
  · exact .inr rfl

/-- A printable ASCII character is no line boundary. -/
theorem isLineEnd_of_isPrintable {c : CodePoint} (h : IsPrintable c) :
    TextWrap.isLineEnd c = false := by
  obtain ⟨hlow, hhigh⟩ := h
  simp only [TextWrap.isLineEnd, decide_eq_false_iff_not]
  omega

theorem isPrintable_hexText (width n : ℕ) : ∀ c ∈ hexText width n, IsPrintable c := by
  intro c hc
  obtain ⟨i, -, rfl⟩ := List.mem_map.1 hc
  exact Json.hexDigit_printable (Nat.mod_lt _ (by decide))

variable [Unicode]

/-- A character of `repr` is read back, whichever way it was spelt. -/
theorem readLiteralFrom_reprChar {quote : CodePoint} (hq : quote = cp '"' ∨ quote = apostrophe)
    (c : CodePoint) (rest : PyStr) :
    readLiteralFrom quote .text (reprChar quote c ++ rest) =
      (readLiteralFrom quote .text rest).map (c :: ·) := by
  have hbackslash : quote ≠ cp '\\' := by
    rcases hq with rfl | rfl
    · decide
    · decide
  have hdigits : ∀ {d : CodePoint} {left : ℕ} {letter : PyStr}, letter = [cp '\\', d] →
      escaped d = none → escapeDigits d = some left → c.val < 16 ^ (left + 1) →
      readLiteralFrom quote .text (letter ++ hexText (left + 1) c ++ rest) =
        (readLiteralFrom quote .text rest).map (c :: ·) := by
    rintro d left letter rfl hnone hsome hlt
    rw [List.append_assoc, List.cons_append, List.cons_append, List.nil_append,
      readLiteralFrom_escapeDigits hbackslash hnone hsome, readLiteralFrom_hexText quote left hlt]
  rw [reprChar]
  split_ifs with hself htab hnewline hreturn hprint hx hu
  · refine readLiteralFrom_escaped hbackslash ?_ rest
    rcases hself with rfl | rfl
    · rcases hq with rfl | rfl <;> rfl
    · rfl
  · exact htab ▸ readLiteralFrom_escaped hbackslash rfl rest
  · exact hnewline ▸ readLiteralFrom_escaped hbackslash rfl rest
  · exact hreturn ▸ readLiteralFrom_escaped hbackslash rfl rest
  · rw [not_or] at hself
    rw [List.singleton_append, readLiteralFrom, if_neg hself.1, if_neg hself.2,
      if_neg (not_or.2 ⟨hnewline, hreturn⟩)]
  · exact hdigits rfl rfl rfl (by simpa using hx)
  · exact hdigits rfl rfl rfl (by simpa using hu)
  · exact hdigits rfl rfl rfl (c.isLt.trans (by decide))

/-- **What `repr` spells is read back**, whatever text it was given. -/
theorem readLiteral_reprStr (s : PyStr) : readLiteral (reprStr s) = some s := by
  have hq := reprQuote_eq s
  rw [reprStr, List.cons_append, readLiteral, if_pos hq]
  generalize reprQuote s = quote at hq
  induction s with
  | nil => rw [List.flatMap_nil, List.nil_append, readLiteralFrom, if_pos rfl, if_pos rfl]
  | cons c s ih =>
    rw [List.flatMap_cons, List.append_assoc, readLiteralFrom_reprChar hq, ih, Option.map_some]

/-- **What `repr` spells is one line**, where no line boundary is printable. -/
theorem isLineEnd_of_mem_reprStr
    (h : ∀ c, TextWrap.isLineEnd c = true → Unicode.isprintable c = false) (s : PyStr) :
    ∀ c ∈ reprStr s, TextWrap.isLineEnd c = false := by
  have hquote : TextWrap.isLineEnd (reprQuote s) = false := by
    rcases reprQuote_eq s with hq | hq <;> rw [hq] <;> decide
  have hprintable : ∀ {t : PyStr}, (∀ d ∈ t, IsPrintable d) →
      ∀ d ∈ t, TextWrap.isLineEnd d = false := fun ht d hd => isLineEnd_of_isPrintable (ht d hd)
  have hhex : ∀ {letter : PyStr} (width n : ℕ), (∀ d ∈ letter, IsPrintable d) →
      ∀ d ∈ letter ++ hexText width n, TextWrap.isLineEnd d = false := fun width n hl =>
    hprintable (List.forall_mem_append.2 ⟨hl, isPrintable_hexText width n⟩)
  have hchar : ∀ c, ∀ d ∈ reprChar (reprQuote s) c, TextWrap.isLineEnd d = false := by
    intro c
    rw [reprChar]
    split_ifs with hself htab hnewline hreturn hprint hx hu
    · refine List.forall_mem_cons.2 ⟨by decide, List.forall_mem_singleton.2 ?_⟩
      rcases hself with rfl | rfl
      · exact hquote
      · decide
    · exact hprintable (printable_py (by decide))
    · exact hprintable (printable_py (by decide))
    · exact hprintable (printable_py (by decide))
    · refine List.forall_mem_singleton.2 (Bool.eq_false_iff.2 fun hend => ?_)
      rw [h c hend] at hprint
      cases hprint
    · exact hhex 2 c (printable_py (by decide))
    · exact hhex 4 c (printable_py (by decide))
    · exact hhex 8 c (printable_py (by decide))
  rw [reprStr, List.cons_append, List.forall_mem_cons, List.forall_mem_append,
    List.forall_mem_singleton]
  refine ⟨hquote, fun d hd => ?_, hquote⟩
  obtain ⟨c, -, hd⟩ := List.mem_flatMap.1 hd
  exact hchar c d hd

end Pidprobe
