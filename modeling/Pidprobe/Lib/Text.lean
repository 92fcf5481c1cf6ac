/-
# Strings of code points

A Python `str` is a sequence of code points `0 … 0x10FFFF`, surrogates
included (they enter through `surrogateescape`, through `chr`, and through the
`\uXXXX` escapes of JSON), so it is a list over `CodePoint` and not a Lean
`String`.  `py` embeds the literals of a program text.

`Unicode` is the part of the Unicode database a program consults through
`str.lower`, `str.isalnum`, `str.isspace`, `str.isprintable`,
`str.isidentifier` and the NFKC normalisation its compiler applies to
identifiers.  The tables are data of the
interpreter; what is fixed here is how they answer on ASCII.
-/

import Mathlib.Data.List.Infix

namespace Pidprobe

/-- A Unicode code point, surrogates included, as Python's texts may hold them. -/
abbrev CodePoint := Fin 0x110000

/-- A Python `str`: a sequence of code points, not of bytes. -/
abbrev PyStr := List CodePoint

/-- Strings are equal code point by code point. -/
instance : LawfulBEq PyStr := inferInstance

/-- The code point of a character literal. -/
def cp (c : Char) : CodePoint := ⟨c.val.toNat, by
  have := c.valid
  simp only [UInt32.isValidChar, Nat.isValidChar] at this
  omega⟩

/-- A string literal, as its code points. -/
def py (s : String) : PyStr := s.toList.map cp

/-- The lines of a program text, each without its end. -/
def pyLines (lines : List String) : List PyStr := lines.map py

theorem cp_injective : Function.Injective cp := fun a b h => by
  have : a.val.toNat = b.val.toNat := by simpa [cp] using h
  exact Char.ext (UInt32.toNat_inj.1 this)

@[simp] theorem cp_inj {a b : Char} : cp a = cp b ↔ a = b := cp_injective.eq_iff

/-- Literals are told apart by their Lean spelling, so `simp` decides their equality. -/
@[simp] theorem py_inj {s t : String} : py s = py t ↔ s = t := by
  rw [py, py, (List.map_injective_iff.2 cp_injective).eq_iff, String.toList_inj]

theorem mem_py {c : Char} {s : String} : cp c ∈ py s ↔ c ∈ s.toList :=
  List.mem_map_of_injective cp_injective

/-- `sep.join(parts)`: the separator stands between the parts only. -/
def join (sep : PyStr) (parts : List PyStr) : PyStr := List.intercalate sep parts

/-- `sub in text`, as a test. -/
def contains (sub text : PyStr) : Bool := decide (sub <:+: text)

/-- `text.replace(old, new)` of a non-empty `old`, `skip` characters before
the end of a replaced part. -/
def replaceFrom (old new : PyStr) : ℕ → PyStr → PyStr
  | _, [] => []
  | skip + 1, _ :: t => replaceFrom old new skip t
  | 0, c :: t =>
    if old.isPrefixOf (c :: t) then new ++ replaceFrom old new (old.length - 1) t
    else c :: replaceFrom old new 0 t

/-- `text.replace(old, new)`, from the left and without overlaps. -/
def replace (old new text : PyStr) : PyStr := replaceFrom old new 0 text

/-- The ASCII code points, which every codec here writes in one byte. -/
def IsAscii (c : CodePoint) : Prop := c.val < 0x80

instance (c : CodePoint) : Decidable (IsAscii c) := inferInstanceAs (Decidable (_ < _))

theorem ascii_py {s : String} (h : s.toList.all (·.val.toNat < 0x80) = true) :
    ∀ c ∈ py s, IsAscii c := by
  intro c hc
  obtain ⟨d, hd, rfl⟩ := List.mem_map.1 hc
  exact of_decide_eq_true (List.all_eq_true.1 h d hd)

/-- The characters `' '…'~'`: those of ASCII that can be printed. -/
def IsPrintable (c : CodePoint) : Prop := 0x20 ≤ c.val ∧ c.val ≤ 0x7E

instance (c : CodePoint) : Decidable (IsPrintable c) := inferInstanceAs (Decidable (_ ∧ _))

theorem IsPrintable.isAscii {c : CodePoint} (h : IsPrintable c) : IsAscii c :=
  Nat.lt_succ_of_le (h.2.trans (by decide))

theorem printable_py {s : String}
    (h : s.toList.all (fun c => 0x20 ≤ c.val.toNat ∧ c.val.toNat ≤ 0x7E) = true) :
    ∀ c ∈ py s, IsPrintable c := by
  intro c hc
  obtain ⟨d, hd, rfl⟩ := List.mem_map.1 hc
  exact of_decide_eq_true (List.all_eq_true.1 h d hd)

/-- `A`–`Z` to `a`–`z`, everything else unchanged. -/
def asciiLower (c : CodePoint) : CodePoint :=
  if h : 65 ≤ c.val ∧ c.val ≤ 90 then ⟨c.val + 32, by omega⟩ else c

/-- `0`–`9`, `A`–`Z` and `a`–`z`. -/
def asciiAlnum (c : CodePoint) : Bool :=
  (48 ≤ c.val ∧ c.val ≤ 57) ∨ (65 ≤ c.val ∧ c.val ≤ 90) ∨ (97 ≤ c.val ∧ c.val ≤ 122)

/-- `A`–`Z`, `a`–`z` and `_`. -/
def asciiIdentifierStart (c : CodePoint) : Bool :=
  (65 ≤ c.val ∧ c.val ≤ 90) ∨ (97 ≤ c.val ∧ c.val ≤ 122) ∨ c.val = 95

/-- An identifier of ASCII characters: it does not begin with a digit. -/
def asciiIdentifier : PyStr → Bool
  | [] => false
  | c :: t => asciiIdentifierStart c && t.all fun d => asciiIdentifierStart d || asciiAlnum d

/-- The white space of ASCII: `\t` to `\r`, the four separators and the blank. -/
def asciiSpace (c : CodePoint) : Bool :=
  (9 ≤ c.val ∧ c.val ≤ 13) ∨ (28 ≤ c.val ∧ c.val ≤ 32)

/-- The tables of the Unicode database, and their answers on ASCII, which is all that is
assumed of them. -/
class Unicode where
  /-- `str.lower`; the whole string, because the final sigma depends on its context. -/
  lower : PyStr → PyStr
  /-- `str.isalnum` of one character. -/
  isalnum : CodePoint → Bool
  /-- `str.isspace` of one character. -/
  isspace : CodePoint → Bool
  /-- `str.isprintable` of one character. -/
  isprintable : CodePoint → Bool
  /-- NFKC normalisation. -/
  nfkc : PyStr → PyStr
  /-- `str.isidentifier`. -/
  isIdentifier : PyStr → Bool
  lower_ascii : ∀ s : PyStr, (∀ c ∈ s, IsAscii c) → lower s = s.map asciiLower
  isalnum_ascii : ∀ c, IsAscii c → isalnum c = asciiAlnum c
  isspace_ascii : ∀ c, IsAscii c → isspace c = asciiSpace c
  isprintable_ascii : ∀ c, IsAscii c → isprintable c = decide (0x20 ≤ c.val ∧ c.val ≤ 0x7E)
  nfkc_ascii : ∀ s : PyStr, (∀ c ∈ s, IsAscii c) → nfkc s = s
  isIdentifier_ascii : ∀ s : PyStr, (∀ c ∈ s, IsAscii c) → isIdentifier s = asciiIdentifier s

/-- NFKC of the fullwidth forms `U+FF01 … U+FF5E`: the ASCII character they
are a compatibility variant of. -/
def foldFullwidth (c : CodePoint) : CodePoint :=
  if h : 0xFF01 ≤ c.val ∧ c.val ≤ 0xFF5E then ⟨c.val - 0xFEE0, by omega⟩ else c

/-- An ASCII character is no fullwidth form. -/
theorem foldFullwidth_ascii {c : CodePoint} (h : IsAscii c) : foldFullwidth c = c := by
  have : c.val < 0x80 := h
  rw [foldFullwidth, dif_neg (by omega)]

/-- An identifier of ASCII characters and fullwidth forms; the fullwidth low
line does not start one. -/
def fullwidthIdentifier : PyStr → Bool
  | [] => false
  | c :: t => asciiIdentifierStart (foldFullwidth c) && c.val ≠ 0xFF3F &&
      t.all fun d => asciiIdentifierStart (foldFullwidth d) || asciiAlnum (foldFullwidth d)

/-- So an ASCII text is an identifier as it was. -/
theorem fullwidthIdentifier_ascii {s : PyStr} (h : ∀ c ∈ s, IsAscii c) :
    fullwidthIdentifier s = asciiIdentifier s := by
  cases s with
  | nil => rfl
  | cons c t =>
    obtain ⟨hc, ht⟩ := List.forall_mem_cons.1 h
    have hne : c.val ≠ 0xFF3F := by
      have : c.val < 0x80 := hc
      omega
    have hall : (t.all fun d =>
        asciiIdentifierStart (foldFullwidth d) || asciiAlnum (foldFullwidth d)) =
        t.all fun d => asciiIdentifierStart d || asciiAlnum d := by
      rw [Bool.eq_iff_iff, List.all_eq_true, List.all_eq_true]
      exact forall₂_congr fun d hd => by rw [foldFullwidth_ascii (ht d hd)]
    rw [fullwidthIdentifier, asciiIdentifier, hall, foldFullwidth_ascii hc]
    simp [hne]

/-- The tables restricted to ASCII and the fullwidth forms; on a string over
those they answer as the full database does. -/
@[reducible] def Unicode.fullwidth : Unicode where
  lower s := s.map asciiLower
  isalnum c := asciiAlnum (foldFullwidth c)
  isspace c := asciiSpace c
  isprintable c := 0x20 ≤ (foldFullwidth c).val ∧ (foldFullwidth c).val ≤ 0x7E
  nfkc s := s.map foldFullwidth
  isIdentifier := fullwidthIdentifier
  lower_ascii _ _ := rfl
  isalnum_ascii c h := by rw [foldFullwidth_ascii h]
  isspace_ascii _ _ := rfl
  isprintable_ascii c h := by rw [foldFullwidth_ascii h]
  nfkc_ascii s h := by
    conv_rhs => rw [← List.map_id s]
    exact List.map_congr_left fun c hc => foldFullwidth_ascii (h c hc)
  isIdentifier_ascii _ h := fullwidthIdentifier_ascii h

end Pidprobe
