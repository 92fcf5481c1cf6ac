/-
# JSON strings: what is read back, and what is cut short

`fuse_units`: a written string is read as itself, unless a high surrogate is
directly followed by a low one; their two escapes are then read as the one
character they encode.

`readUnits_strictPrefix`: a string text that stops anywhere before its closing
quote is not a string text.  The induction is over the units of the string, and
`strictPrefix_append` splits a prefix of `a ++ b` into one that ends in `a` and
one that ends in `b`.
-/

import Mathlib.Tactic.IntervalCases
import Pidprobe.Lib.JsonRead

namespace Pidprobe
namespace Json

/-! ## Strict prefixes -/

/-- `p` is what a connection that closes early has carried of `t`: a part from the front
that is not all of it. -/
def StrictPrefix (p t : PyStr) : Prop := p <+: t ∧ p ≠ t

theorem not_strictPrefix_nil {p : PyStr} : ¬StrictPrefix p [] :=
  fun h => h.2 (List.prefix_nil.1 h.1)

/-- It is empty, or begins as the text does and breaks off later. -/
theorem strictPrefix_cons {p t : PyStr} {c : CodePoint} :
    StrictPrefix p (c :: t) ↔ p = [] ∨ ∃ q, p = c :: q ∧ StrictPrefix q t := by
  cases p with
  | nil => simp [StrictPrefix]
  | cons d q =>
    simp only [StrictPrefix, List.cons_prefix_cons, ne_eq, List.cons.injEq, reduceCtorEq, false_or]
    constructor
    · rintro ⟨⟨rfl, hq⟩, hne⟩
      exact ⟨q, ⟨rfl, rfl⟩, hq, fun h => hne ⟨rfl, h⟩⟩
    · rintro ⟨q, ⟨rfl, rfl⟩, hq, hne⟩
      exact ⟨⟨rfl, hq⟩, fun h => hne h.2⟩

/-- A text in two parts breaks off in the first or in the second. -/
theorem strictPrefix_append {p a b : PyStr} :
    StrictPrefix p (a ++ b) → StrictPrefix p a ∨ ∃ q, p = a ++ q ∧ StrictPrefix q b := by
  rintro ⟨hp, hne⟩
  rcases List.prefix_or_prefix_of_prefix hp (List.prefix_append a b) with h | ⟨q, rfl⟩
  · by_cases he : p = a
    · subst he
      refine Or.inr ⟨[], (List.append_nil p).symm, List.nil_prefix, fun hb => hne ?_⟩
      rw [← hb, List.append_nil]
    · exact Or.inl ⟨h, he⟩
  · exact Or.inr ⟨q, rfl, (List.prefix_append_right_inj a).1 hp, fun h => hne (h ▸ rfl)⟩

theorem StrictPrefix.length_lt {p t : PyStr} (h : StrictPrefix p t) : p.length < t.length :=
  lt_of_le_of_ne h.1.length_le fun he => h.2 (h.1.eq_of_length he)

/-- The parts from the front are those of the first `k` characters. -/
theorem strictPrefix_iff_take {p t : PyStr} :
    StrictPrefix p t ↔ ∃ k, k < t.length ∧ p = t.take k := by
  constructor
  · exact fun h => ⟨p.length, h.length_lt, List.prefix_iff_eq_take.1 h.1⟩
  · rintro ⟨k, hk, rfl⟩
    refine ⟨List.take_prefix k t, fun h => ?_⟩
    have := congrArg List.length h
    rw [List.length_take] at this
    omega

/-! ## Words and white space -/

theorem skipWs_cons {c : CodePoint} (h : isWs c = false) (t : PyStr) :
    skipWs (c :: t) = c :: t := by
  rw [skipWs, List.dropWhile_cons, if_neg (by simp [h])]

theorem skipWs_space (t : PyStr) : skipWs (cp ' ' :: t) = skipWs t := by
  rw [skipWs, List.dropWhile_cons, if_pos (by decide), skipWs]

/-- A word at the front is found. -/
theorem expect_append (w r : PyStr) : expect w (w ++ r) = some r := by
  induction w with
  | nil => rfl
  | cons c w ih => rw [List.cons_append, expect, if_pos rfl, ih]

/-- A part of a word is not the word. -/
theorem expect_strictPrefix {w p : PyStr} (h : StrictPrefix p w) : expect w p = none := by
  induction w generalizing p with
  | nil => exact absurd h not_strictPrefix_nil
  | cons c w ih =>
    rcases strictPrefix_cons.1 h with rfl | ⟨q, rfl, hq⟩
    · rfl
    · rw [expect, if_pos rfl, ih hq]

/-! ## Strings -/

/-- A unit the writer may produce: a plain character has a short escape or is
not a control character. -/
def StrUnit.Spelt : StrUnit → Prop
  | .plain c => (shortEscape c).isSome ∨ 0x20 ≤ c.val
  | .escape _ => True

theorem units_spelt (c : CodePoint) : ∀ u ∈ units c, u.Spelt := by
  intro u hu
  unfold units at hu
  split_ifs at hu with h
  · obtain rfl := List.mem_singleton.1 hu
    exact h.imp id And.left
  · obtain rfl := List.mem_singleton.1 hu
    trivial
  · rcases List.mem_cons.1 hu with rfl | hu
    · trivial
    · obtain rfl := List.mem_singleton.1 hu
      trivial

/-- An escape by one letter is read as the character it was written for, and is no `\u`. -/
theorem unescape_shortEscape {c e : CodePoint} (h : shortEscape c = some e) :
    unescape e = some c ∧ e ≠ cp 'u' := by
  unfold shortEscape at h
  split_ifs at h with h₁ h₂ h₃ h₄ h₅ h₆ h₇ <;> obtain rfl := Option.some.inj h
  · subst h₁; decide
  · subst h₂; decide
  · subst h₃; decide
  · subst h₄; decide
  · subst h₅; decide
  · obtain rfl : c = Utf8.code 0x0C := Fin.ext h₆
    decide
  · obtain rfl : c = Utf8.code 0x08 := Fin.ext h₇
    decide

theorem shortEscape_quote : shortEscape (cp '"') ≠ none := by decide

theorem shortEscape_backslash : shortEscape (cp '\\') ≠ none := by decide

theorem hexValue_hexDigit : ∀ n < 16, hexValue (hexDigit n) = some n := by decide

/-- Four digits are read as the number they spell. -/
theorem hex4_hexDigit (n : Fin 0x10000) :
    hex4 (hexDigit (n / 4096)) (hexDigit (n / 256 % 16)) (hexDigit (n / 16 % 16))
      (hexDigit (n % 16)) = some n := by
  have hn := n.isLt
  rw [hex4, hexValue_hexDigit _ (by omega), hexValue_hexDigit _ (by omega),
    hexValue_hexDigit _ (by omega), hexValue_hexDigit _ (by omega)]
  simp only [Option.bind_eq_bind, Option.bind_some, Option.pure_def, Option.some.injEq]
  refine Fin.ext ?_
  rw [Fin.val_ofNat, Nat.mod_eq_of_lt (by omega)]
  omega

/-- The reader takes one unit off the front, and goes on behind it. -/
theorem readUnits_spell {u : StrUnit} (hu : u.Spelt) (t : PyStr) :
    readUnits (u.spell ++ t) = (readUnits t).map fun p => (u :: p.1, p.2) := by
  cases u with
  | escape n =>
    simp only [StrUnit.spell, List.cons_append, List.nil_append]
    rw [readUnits.eq_def]
    simp [hex4_hexDigit]
  | plain c =>
    rw [StrUnit.spell]
    cases he : shortEscape c with
    | some e =>
      obtain ⟨hd, hne⟩ := unescape_shortEscape he
      simp only [List.cons_append, List.nil_append]
      rw [readUnits.eq_def]
      simp [hd, hne]
    | none =>
      have hq : c ≠ cp '"' := fun h => shortEscape_quote (h ▸ he)
      have hb : c ≠ cp '\\' := fun h => shortEscape_backslash (h ▸ he)
      have hc : 0x20 ≤ c.val := hu.resolve_left (by simp [he])
      simp only [List.cons_append, List.nil_append]
      rw [readUnits.eq_def]
      simp [hq, hb, hc]

theorem quoteBody_cons (u : StrUnit) (us : List StrUnit) :
    quoteBody (u :: us) = u.spell ++ quoteBody us := by
  rw [quoteBody, quoteBody, List.flatMap_cons, List.append_assoc]

/-- It takes all units up to the closing quote. -/
theorem readUnits_quoteBody {us : List StrUnit} (hus : ∀ u ∈ us, u.Spelt) (r : PyStr) :
    readUnits (quoteBody us ++ r) = some (us, r) := by
  induction us with
  | nil =>
    rw [quoteBody, List.flatMap_nil, List.nil_append, List.singleton_append, readUnits.eq_def]
    simp
  | cons u us ih =>
    rw [quoteBody_cons, List.append_assoc, readUnits_spell (hus u (List.mem_cons_self ..)),
      ih fun v hv => hus v (List.mem_cons_of_mem _ hv)]
    rfl

/-- A unit cut short is not a unit, so the string does not end. -/
theorem readUnits_strictPrefix_spell {u : StrUnit} {p : PyStr} (h : StrictPrefix p u.spell) :
    readUnits p = none := by
  obtain ⟨k, hk, rfl⟩ := strictPrefix_iff_take.1 h
  cases u with
  | escape n =>
    simp only [StrUnit.spell, List.length_cons, List.length_nil] at hk
    interval_cases k <;> rfl
  | plain c =>
    rw [StrUnit.spell] at hk ⊢
    cases he : shortEscape c with
    | some e =>
      simp only [he, List.length_cons, List.length_nil] at hk
      interval_cases k <;> rfl
    | none =>
      simp only [he, List.length_cons, List.length_nil] at hk
      interval_cases k
      rfl

/-- A string cut short has no closing quote. -/
theorem readUnits_strictPrefix {us : List StrUnit} (hus : ∀ u ∈ us, u.Spelt) {p : PyStr}
    (h : StrictPrefix p (quoteBody us)) : readUnits p = none := by
  induction us generalizing p with
  | nil =>
    rcases strictPrefix_cons.1 h with rfl | ⟨q, rfl, hq⟩
    · rfl
    · exact absurd hq not_strictPrefix_nil
  | cons u us ih =>
    rw [quoteBody_cons] at h
    rcases strictPrefix_append h with hu | ⟨q, rfl, hq⟩
    · exact readUnits_strictPrefix_spell hu
    · rw [readUnits_spell (hus u (List.mem_cons_self ..)),
        ih (fun v hv => hus v (List.mem_cons_of_mem _ hv)) hq]
      rfl

theorem flatMap_units_spelt (s : PyStr) : ∀ u ∈ s.flatMap units, u.Spelt := by
  intro u hu
  obtain ⟨c, -, hc⟩ := List.mem_flatMap.1 hu
  exact units_spelt c u hc

/-- **The text of a string ends where it ends:** two texts that start with a
string and are equal start with the same string text. -/
theorem quote_append_inj {s t r r' : PyStr} (h : quote s ++ r = quote t ++ r') :
    quote s = quote t ∧ r = r' := by
  rw [quote, quote, List.cons_append, List.cons_append] at h
  have hs := readUnits_quoteBody (flatMap_units_spelt s) r
  have ht := readUnits_quoteBody (flatMap_units_spelt t) r'
  rw [List.tail_eq_of_cons_eq h, ht] at hs
  obtain ⟨hu, rfl⟩ := Prod.mk.inj (Option.some.inj hs)
  exact ⟨by rw [quote, quote, hu], rfl⟩

/-- The string a written string is read as: a pair of surrogates becomes one character. -/
def rereadStr (s : PyStr) : PyStr := fuse (s.flatMap units)

/-- No high surrogate is directly followed by a low one, so reading has nothing to fuse. -/
def NoSplitPair (s : PyStr) : Prop :=
  s.IsChain fun c d => ¬(isHigh c.val = true ∧ isLow d.val = true)

/-- The second half of a pair comes first: an escape of a low surrogate, which a plain unit
never is. -/
def LowHead : List StrUnit → Prop
  | .escape n :: _ => isLow n = true
  | _ => False

/-- An escape that begins no pair is read as the character of its number. -/
theorem fuse_escape {n : Fin 0x10000} {us : List StrUnit} (h : isHigh n = true → ¬LowHead us) :
    fuse (.escape n :: us) = Utf8.code n :: fuse us := by
  match us with
  | [] => rfl
  | .plain c :: us => rfl
  | .escape l :: us =>
    rw [fuse, if_neg]
    rw [Bool.and_eq_true]
    exact fun ⟨hn, hl⟩ => h hn hl

theorem lowHead_units {c : CodePoint} {us : List StrUnit} (h : LowHead (units c ++ us)) :
    isLow c.val = true := by
  unfold units at h
  split_ifs at h with h₁ h₂
  · exact absurd h id
  · exact h
  · have hc := c.isLt
    simp only [List.cons_append, LowHead, isLow, decide_eq_true_eq] at h
    omega

/-- **A string comes back as it was** where no surrogate pair is split over two
of its characters. -/
theorem fuse_units {s : PyStr} (h : NoSplitPair s) : rereadStr s = s := by
  unfold rereadStr
  induction s with
  | nil => rfl
  | cons c s ih =>
    have hc := c.isLt
    have ih := ih (List.isChain_of_isChain_cons h)
    have hlow : isHigh c.val = true → ¬LowHead (s.flatMap units) := by
      intro hh hl
      cases s with
      | nil => exact hl
      | cons d s =>
        exact (List.isChain_cons_cons.1 h).1 ⟨hh, lowHead_units (List.flatMap_cons ▸ hl)⟩
    rw [List.flatMap_cons, units]
    split_ifs with h₁ h₂
    · rw [List.singleton_append, fuse, ih]
    · rw [List.singleton_append, fuse_escape hlow, ih, Utf8.code_val]
    · have hpair : (isHigh (0xD800 + (c.val - 0x10000) / 1024) &&
          isLow (0xDC00 + (c.val - 0x10000) % 1024)) = true := by
        simp only [isHigh, isLow, Bool.and_eq_true, decide_eq_true_eq]
        omega
      simp only [List.cons_append, List.nil_append]
      rw [fuse, if_pos hpair, ih,
        show 0x10000 + (0xD800 + (c.val - 0x10000) / 1024 - 0xD800) * 1024 +
          (0xDC00 + (c.val - 0x10000) % 1024 - 0xDC00) = c.val by omega, Utf8.code_val]

/-- ASCII characters are no surrogates, so a text of them is read as itself. -/
theorem rereadStr_ascii {s : PyStr} (h : ∀ c ∈ s, IsAscii c) : rereadStr s = s := by
  have hpair : ∀ c d, IsAscii c → IsAscii d → ¬(isHigh c.val = true ∧ isLow d.val = true) := by
    rintro c d hc - ⟨hhigh, -⟩
    have hval : c.val < 0x80 := hc
    simp only [isHigh, decide_eq_true_eq] at hhigh
    omega
  exact fuse_units ((List.pairwise_of_forall_mem_list fun c hc d hd =>
    hpair c d (h c hc) (h d hd)).isChain)

/-- A unit is the text of an ASCII character, plain or escaped. -/
def AsciiUnit : StrUnit → Prop
  | .plain c => IsAscii c
  | .escape n => n.val < 0x80

theorem isAscii_code {n : ℕ} (hn : n < 0x10000) (h : IsAscii (Utf8.code n)) : n < 0x80 := by
  rw [IsAscii, Utf8.code, Fin.val_ofNat, Nat.mod_eq_of_lt (by omega)] at h
  exact h

/-- Two escapes that are read as one character are no ASCII character, so an ASCII text
comes of ASCII units. -/
theorem asciiUnit_of_fuse : ∀ us : List StrUnit, (∀ c ∈ fuse us, IsAscii c) →
    ∀ u ∈ us, AsciiUnit u
  | [], _ => by simp
  | .plain c :: us, h => by
    rw [fuse, List.forall_mem_cons] at h
    exact List.forall_mem_cons.2 ⟨h.1, asciiUnit_of_fuse us h.2⟩
  | [.escape n], h => by
    rw [fuse_escape fun _ => id, List.forall_mem_cons] at h
    exact List.forall_mem_singleton.2 (isAscii_code n.isLt h.1)
  | .escape n :: .plain c :: us, h => by
    rw [fuse_escape fun _ => id, List.forall_mem_cons] at h
    exact List.forall_mem_cons.2 ⟨isAscii_code n.isLt h.1, asciiUnit_of_fuse _ h.2⟩
  | .escape n :: .escape l :: us, h => by
    have hn := n.isLt
    have hl := l.isLt
    rw [fuse] at h
    split_ifs at h with hpair
    · simp only [isHigh, isLow, Bool.and_eq_true, decide_eq_true_eq] at hpair
      have hc := (List.forall_mem_cons.1 h).1
      rw [IsAscii, Utf8.code, Fin.val_ofNat, Nat.mod_eq_of_lt (by omega)] at hc
      omega
    · rw [List.forall_mem_cons] at h
      exact List.forall_mem_cons.2 ⟨isAscii_code hn h.1, asciiUnit_of_fuse _ h.2⟩

/-- A character whose units are those of ASCII characters is one. -/
theorem isAscii_of_units {c : CodePoint} (h : ∀ u ∈ units c, AsciiUnit u) : IsAscii c := by
  unfold units at h
  split_ifs at h with h₁ h₂
  · exact h _ (List.mem_singleton_self _)
  · exact h _ (List.mem_singleton_self _)
  · have hlead : 0xD800 + (c.val - 0x10000) / 1024 < 0x80 := h _ (List.mem_cons_self ..)
    omega

/-- **An ASCII text is read from itself alone**: no other text is taken for it. -/
theorem rereadStr_eq_ascii {s t : PyStr} (ht : ∀ c ∈ t, IsAscii c) : rereadStr s = t ↔ s = t := by
  constructor
  · rintro rfl
    have hunits := asciiUnit_of_fuse _ ht
    exact (rereadStr_ascii fun c hc => isAscii_of_units fun u hu =>
      hunits u (List.mem_flatMap.2 ⟨c, hc, hu⟩)).symm
  · rintro rfl
    exact rereadStr_ascii ht

end Json
end Pidprobe
