/-
# JSON values and the ASCII-escaping writer

The values `json.loads` returns, and `json.dumps` with its defaults: `", "` and
`": "` as separators, every character outside `' '…'~` escaped, the characters
above `U+FFFF` as two `\uXXXX` escapes.

A string is spelt in two stages.  `units` cuts it into the units the text is
made of (`StrUnit`): a plain character, or a 16-bit escape, two of them for a
character above `U+FFFF`.  `StrUnit.spell` writes one unit.  A reader undoes
the stages in turn, and what it cannot undo sits in the first one: two escapes
that happen to be a surrogate pair are read as one character
(`Pidprobe.Lib.JsonRead`).

`float.__repr__` and `float()` are functions of the interpreter, given by
`FloatText`.
-/

import Mathlib.Data.Nat.Digits.Lemmas
import Pidprobe.Lib.Dict
import Pidprobe.Lib.Utf8

namespace Pidprobe

/-- A Python `float`: a finite value, `-0.0`, an infinity or a NaN. Finite values are
rationals, as a binary fraction is one. -/
inductive PyFloat
  | finite (q : ℚ)
  | negZero
  | inf
  | negInf
  | nan
  deriving DecidableEq

/-- The characters of a number: digits, signs, the point and the exponent's
letter. -/
def isNumberChar (c : CodePoint) : Bool :=
  (48 ≤ c.val ∧ c.val ≤ 57) ∨ c = cp '-' ∨ c = cp '+' ∨ c = cp '.' ∨ c = cp 'e' ∨ c = cp 'E'

theorem IsPrintable.of_number {c : CodePoint} (h : isNumberChar c = true) : IsPrintable c := by
  rw [isNumberChar, decide_eq_true_eq] at h
  rcases h with h | rfl | rfl | rfl | rfl | rfl
  · exact ⟨by omega, by omega⟩
  all_goals decide

/-- The text of a finite `float`, and the value of a text. Both are Python's; all that is
assumed is that a number's text is made of a number's characters. -/
class FloatText where
  /-- `float.__repr__` of a finite value. -/
  repr : ℚ → PyStr
  /-- `float(text)` on the number texts of JSON. -/
  read : PyStr → PyFloat
  repr_ne_nil : ∀ q, repr q ≠ []
  repr_number : ∀ q, ∀ c ∈ repr q, isNumberChar c = true

/-- A JSON value as Python holds it; the members of an object in insertion
order. -/
inductive Json
  | null
  | bool (b : Bool)
  | int (n : ℤ)
  | float (x : PyFloat)
  | str (s : PyStr)
  | arr (xs : List Json)
  | obj (members : List (PyStr × Json))

namespace Json

/-! ## Strings -/

/-- What the text of a JSON string is made of: characters, and halves of UTF-16 pairs
written as numbers. -/
inductive StrUnit
  /-- A character standing for itself, or behind a one-letter escape. -/
  | plain (c : CodePoint)
  /-- `\uXXXX`. -/
  | escape (n : Fin 0x10000)
  deriving DecidableEq

/-- The letter of the one-letter escape of a character, for the seven characters that
`json.dumps` writes so. -/
def shortEscape (c : CodePoint) : Option CodePoint :=
  if c = cp '"' then some (cp '"')
  else if c = cp '\\' then some (cp '\\')
  else if c = cp '\n' then some (cp 'n')
  else if c = cp '\r' then some (cp 'r')
  else if c = cp '\t' then some (cp 't')
  else if c.val = 0x0C then some (cp 'f')
  else if c.val = 0x08 then some (cp 'b')
  else none

/-- The units of one character: a pair of escapes beyond the basic plane, and one escape for
what is not ASCII. -/
def units (c : CodePoint) : List StrUnit :=
  if (shortEscape c).isSome ∨ (0x20 ≤ c.val ∧ c.val ≤ 0x7E) then [.plain c]
  else if h : c.val < 0x10000 then [.escape ⟨c.val, h⟩]
  else
    [.escape ⟨0xD800 + (c.val - 0x10000) / 1024, by omega⟩,
      .escape ⟨0xDC00 + (c.val - 0x10000) % 1024, by omega⟩]

/-- A lower-case hexadecimal digit. -/
def hexDigit (n : ℕ) : CodePoint := Utf8.code (if n < 10 then 48 + n else 87 + n)

/-- The text of one unit, with lower-case digits. -/
def StrUnit.spell : StrUnit → PyStr
  | .plain c => match shortEscape c with
    | some e => [cp '\\', e]
    | none => [c]
  | .escape n => [cp '\\', cp 'u', hexDigit (n / 4096), hexDigit (n / 256 % 16),
      hexDigit (n / 16 % 16), hexDigit (n % 16)]

/-- The text of a string behind its opening quote, the closing one included. -/
def quoteBody (us : List StrUnit) : PyStr := us.flatMap StrUnit.spell ++ [cp '"']

/-- The text of a string, between its quotes. -/
def quote (s : PyStr) : PyStr := cp '"' :: quoteBody (s.flatMap units)

/-! ## Numbers -/

/-- A decimal digit. -/
def digit (n : ℕ) : CodePoint := Utf8.code (48 + n)

/-- `str(n)` of a natural number. -/
def decimal (n : ℕ) : PyStr :=
  if n = 0 then [digit 0] else ((Nat.digits 10 n).map digit).reverse

/-- `int.__repr__`: a minus sign where there is one, and the digits. -/
def intText : ℤ → PyStr
  | .ofNat n => decimal n
  | .negSucc n => cp '-' :: decimal (n + 1)

/-- What `json.dumps` writes for a `float`: Python's own text, and three words that are no
JSON. -/
def floatText [FloatText] : PyFloat → PyStr
  | .finite q => FloatText.repr q
  | .negZero => py "-0.0"
  | .inf => py "Infinity"
  | .negInf => py "-Infinity"
  | .nan => py "NaN"

/-! ## Values -/

mutual

/-- `json.dumps(value)`, with its own separators and `ensure_ascii`. -/
def dumps [FloatText] : Json → PyStr
  | .null => py "null"
  | .bool true => py "true"
  | .bool false => py "false"
  | .int n => intText n
  | .float x => floatText x
  | .str s => quote s
  | .arr [] => py "[]"
  | .arr (x :: xs) => cp '[' :: (dumps x ++ dumpsElems xs)
  | .obj [] => py "\x7b\x7d"
  | .obj ((k, v) :: ms) => cp '{' :: (quote k ++ py ": " ++ dumps v ++ dumpsMembers ms)

/-- The elements after the first, and the closing bracket. -/
def dumpsElems [FloatText] : List Json → PyStr
  | [] => [cp ']']
  | x :: xs => py ", " ++ dumps x ++ dumpsElems xs

/-- The members after the first, and the closing brace. -/
def dumpsMembers [FloatText] : List (PyStr × Json) → PyStr
  | [] => [cp '}']
  | (k, v) :: ms => py ", " ++ quote k ++ py ": " ++ dumps v ++ dumpsMembers ms

end

/-! ## The text is printable -/

theorem code_printable {n : ℕ} (h : 0x20 ≤ n ∧ n ≤ 0x7E) : IsPrintable (Utf8.code n) := by
  rw [IsPrintable, Utf8.code, Fin.val_ofNat, Nat.mod_eq_of_lt (by omega)]
  exact h

theorem hexDigit_printable {n : ℕ} (h : n < 16) : IsPrintable (hexDigit n) := by
  unfold hexDigit
  split_ifs <;> exact code_printable (by omega)

theorem shortEscape_printable {c e : CodePoint} (h : shortEscape c = some e) : IsPrintable e := by
  unfold shortEscape at h
  split_ifs at h <;> obtain rfl := Option.some.inj h <;> decide

/-- The units of a character are plain only where its text is printable, so whatever is
spelt is. -/
theorem spell_printable {c : CodePoint} {u : StrUnit} (hu : u ∈ units c) :
    ∀ d ∈ u.spell, IsPrintable d := by
  have hesc : ∀ n : Fin 0x10000, ∀ d ∈ (StrUnit.escape n).spell, IsPrintable d := by
    intro n d hd
    have hn := n.isLt
    simp only [StrUnit.spell, List.mem_cons, List.not_mem_nil, or_false] at hd
    rcases hd with rfl | rfl | rfl | rfl | rfl | rfl
    · decide
    · decide
    all_goals exact hexDigit_printable (by omega)
  unfold units at hu
  split_ifs at hu with hc
  · obtain rfl := List.mem_singleton.1 hu
    intro d hd
    rw [StrUnit.spell] at hd
    split at hd
    · next e he =>
      rcases List.mem_cons.1 hd with rfl | hd
      · decide
      · exact List.mem_singleton.1 hd ▸ shortEscape_printable he
    · next he =>
      rw [he] at hc
      obtain rfl := List.mem_singleton.1 hd
      simp only [Option.isSome_none, Bool.false_eq_true, false_or] at hc
      exact hc
  · obtain rfl := List.mem_singleton.1 hu
    exact hesc _
  · rcases List.mem_cons.1 hu with rfl | hu
    · exact hesc _
    · obtain rfl := List.mem_singleton.1 hu
      exact hesc _

/-- A string is written in printable characters, whatever it holds. -/
theorem quote_printable (s : PyStr) : ∀ c ∈ quote s, IsPrintable c := by
  intro c hc
  simp only [quote, quoteBody, List.mem_cons, List.mem_append, List.mem_flatMap,
    List.not_mem_nil, or_false] at hc
  rcases hc with rfl | ⟨u, ⟨d, -, hu⟩, hc⟩ | rfl
  · decide
  · exact spell_printable hu c hc
  · decide

theorem isNumberChar_digit : ∀ n < 10, isNumberChar (digit n) = true := by decide

/-- A natural number is written in the characters of numbers. -/
theorem decimal_number (n : ℕ) : ∀ c ∈ decimal n, isNumberChar c = true := by
  intro c hc
  unfold decimal at hc
  split_ifs at hc
  · exact List.mem_singleton.1 hc ▸ isNumberChar_digit 0 (by omega)
  · obtain ⟨d, hd, rfl⟩ := List.mem_map.1 (List.mem_reverse.1 hc)
    exact isNumberChar_digit d (Nat.digits_lt_base (by norm_num) hd)

theorem intText_number (n : ℤ) : ∀ c ∈ intText n, isNumberChar c = true := by
  cases n with
  | ofNat n => exact decimal_number n
  | negSucc n => exact List.forall_mem_cons.2 ⟨by decide, decimal_number _⟩

theorem floatText_printable [FloatText] (x : PyFloat) : ∀ c ∈ floatText x, IsPrintable c := by
  cases x with
  | finite q => exact fun c hc => .of_number (FloatText.repr_number q c hc)
  | negZero => exact printable_py (by decide)
  | inf => exact printable_py (by decide)
  | negInf => exact printable_py (by decide)
  | nan => exact printable_py (by decide)

mutual

/-- **`json.dumps` writes printable ASCII**, whatever the value. -/
theorem dumps_printable [FloatText] : ∀ v : Json, ∀ c ∈ dumps v, IsPrintable c
  | .null => printable_py (by decide)
  | .bool true => printable_py (by decide)
  | .bool false => printable_py (by decide)
  | .int n => fun c hc => .of_number (intText_number n c hc)
  | .float x => floatText_printable x
  | .str s => quote_printable s
  | .arr [] => printable_py (by decide)
  | .arr (x :: xs) => by
    simp only [dumps, List.forall_mem_cons, List.forall_mem_append]
    exact ⟨by decide, dumps_printable x, dumpsElems_printable xs⟩
  | .obj [] => printable_py (by decide)
  | .obj ((k, v) :: ms) => by
    simp only [dumps, List.forall_mem_cons, List.forall_mem_append]
    exact ⟨by decide, ⟨⟨quote_printable k, printable_py (by decide)⟩, dumps_printable v⟩,
      dumpsMembers_printable ms⟩

/-- So are the elements of an array written, with the commas and the bracket. -/
theorem dumpsElems_printable [FloatText] : ∀ xs : List Json, ∀ c ∈ dumpsElems xs, IsPrintable c
  | [] => by
    rw [dumpsElems, List.forall_mem_singleton]
    decide
  | x :: xs => by
    simp only [dumpsElems, List.forall_mem_append]
    exact ⟨⟨printable_py (by decide), dumps_printable x⟩, dumpsElems_printable xs⟩

/-- And the members of an object, with the brace. -/
theorem dumpsMembers_printable [FloatText] :
    ∀ ms : List (PyStr × Json), ∀ c ∈ dumpsMembers ms, IsPrintable c
  | [] => by
    rw [dumpsMembers, List.forall_mem_singleton]
    decide
  | (k, v) :: ms => by
    simp only [dumpsMembers, List.forall_mem_append]
    exact ⟨⟨⟨⟨printable_py (by decide), quote_printable k⟩, printable_py (by decide)⟩,
      dumps_printable v⟩, dumpsMembers_printable ms⟩

end

/-- So `.encode("utf-8")` of its text never fails, and gives a byte for each character. -/
theorem dumps_ascii [FloatText] (v : Json) : ∀ c ∈ dumps v, IsAscii c :=
  fun c hc => (dumps_printable v c hc).isAscii

end Json
end Pidprobe
