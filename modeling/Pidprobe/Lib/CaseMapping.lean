/-
# Lower-casing

`str.lower` maps one character at a time, through the full case mapping of the
Unicode database; only the capital sigma looks around: it becomes a final sigma
behind a cased character and in front of none, characters that case ignores left
out of account.

`CaseMapping` says so of the `lower` of a `Unicode`, and what the database says
of characters that are not alphanumeric.  What is left of a lower-cased string
without them is, the two small sigmas taken for one, put together character by
character (`filter_lower`).
-/

import Pidprobe.Lib.Utf8

namespace Pidprobe

/-- `Σ`, the one letter with two lower-case forms. -/
def capitalSigma : CodePoint := Utf8.code 0x3A3

/-- `σ`, its form within a word. -/
def smallSigma : CodePoint := Utf8.code 0x3C3

/-- `ς`, its form at the end of a word. -/
def finalSigma : CodePoint := Utf8.code 0x3C2

/-- The tables `str.lower` consults: what each character becomes, and which of its
neighbours tell where a word ends. -/
structure CaseTables where
  /-- The full lower-case mapping of a character. -/
  lowerChar : CodePoint → PyStr
  cased : CodePoint → Bool
  caseIgnorable : CodePoint → Bool

namespace CaseTables

variable (tables : CaseTables)

/-- The first character that case does not ignore is there, and is cased. -/
def startsCased (text : PyStr) : Bool :=
  ((text.dropWhile tables.caseIgnorable).head?.map tables.cased).getD false

/-- The lower-case form of a capital sigma between two texts, the one before it
read backwards. -/
def lowerSigma (before after : PyStr) : CodePoint :=
  if tables.startsCased before ∧ ¬tables.startsCased after then finalSigma else smallSigma

/-- `text.lower()` behind a text, which is read backwards: a capital sigma looks at both
sides of it, and nothing else does. -/
def lowerFrom (before : PyStr) : PyStr → PyStr
  | [] => []
  | c :: after =>
    (if c = capitalSigma then [tables.lowerSigma before after] else tables.lowerChar c) ++
      lowerFrom (c :: before) after

/-- `text.lower()`, of a whole text. -/
def lower (text : PyStr) : PyStr := tables.lowerFrom [] text

/-- A text without a capital sigma is mapped character by character, whatever stands in
front of it. -/
theorem lowerFrom_of_notMem {before text : PyStr} (h : capitalSigma ∉ text) :
    tables.lowerFrom before text = text.flatMap tables.lowerChar := by
  induction text generalizing before with
  | nil => rfl
  | cons c text ih =>
    obtain ⟨hc, ht⟩ := not_or.1 (mt List.mem_cons.2 h)
    rw [lowerFrom, if_neg (Ne.symm hc), ih ht, List.flatMap_cons]

end CaseTables

/-- The `lower` of the database is that of its tables.  What is not alphanumeric
has no alphanumeric character in its lower case, and the sigmas are alphanumeric
or not alike. -/
class CaseMapping [Unicode] where
  tables : CaseTables
  lower_eq : ∀ text : PyStr, Unicode.lower text = tables.lower text
  isalnum_lowerChar : ∀ c, Unicode.isalnum c = false →
    ∀ d ∈ tables.lowerChar c, Unicode.isalnum d = false
  isalnum_capitalSigma : Unicode.isalnum capitalSigma = Unicode.isalnum smallSigma
  isalnum_finalSigma : Unicode.isalnum finalSigma = Unicode.isalnum smallSigma

/-- One character for the two small sigmas: which one a capital becomes depends on its
context. -/
def foldSigma (c : CodePoint) : CodePoint := if c = finalSigma then smallSigma else c

/-- Folding the sigmas concerns no ASCII character. -/
theorem foldSigma_ascii {c : CodePoint} (h : IsAscii c) {d : CodePoint} :
    foldSigma d = c ↔ d = c := by
  have hs : smallSigma ≠ c := by
    rintro rfl
    exact absurd h (by decide)
  unfold foldSigma
  split_ifs with hd
  · refine iff_of_false hs ?_
    rintro rfl
    exact absurd (hd ▸ h) (by decide)
  · rfl

namespace CaseMapping

variable [Unicode] [CaseMapping]

/-- What a character contributes to the alphanumeric characters of the lower case
of a text, the two small sigmas taken for one. -/
def contribution (c : CodePoint) : PyStr :=
  ((if c = capitalSigma then [smallSigma] else tables.lowerChar c).filter
    Unicode.isalnum).map foldSigma

/-- A capital sigma contributes the same, whichever of its forms it takes. -/
theorem filter_lowerSigma (before after : PyStr) :
    ([tables.lowerSigma before after].filter Unicode.isalnum).map foldSigma =
      ([smallSigma].filter Unicode.isalnum).map foldSigma := by
  rw [CaseTables.lowerSigma]
  split_ifs
  · simp only [List.filter_singleton, isalnum_finalSigma]
    cases Unicode.isalnum smallSigma <;> rfl
  · rfl

/-- **Lower-casing and dropping what is not alphanumeric goes by characters**, once the two
small sigmas are one. -/
theorem filter_lower (text : PyStr) :
    ((Unicode.lower text).filter Unicode.isalnum).map foldSigma = text.flatMap contribution := by
  have hfrom : ∀ before : PyStr, ((tables.lowerFrom before text).filter Unicode.isalnum).map
      foldSigma = text.flatMap contribution := by
    induction text with
    | nil => exact fun _ => rfl
    | cons c text ih =>
      intro before
      rw [CaseTables.lowerFrom, List.filter_append, List.map_append, ih, List.flatMap_cons,
        contribution]
      split_ifs
      · rw [filter_lowerSigma]
      · rfl
  rw [lower_eq]
  exact hfrom []

/-- What is not alphanumeric contributes nothing: its lower case is none either. -/
theorem contribution_eq_nil {c : CodePoint} (h : Unicode.isalnum c = false) :
    contribution c = [] := by
  rw [contribution, List.map_eq_nil_iff, List.filter_eq_nil_iff]
  intro d hd
  rw [Bool.not_eq_true]
  split_ifs at hd with hc
  · rw [List.mem_singleton.1 hd, ← isalnum_capitalSigma, ← hc, h]
  · exact isalnum_lowerChar c h d hd

/-- The lower case of an ASCII character is that of the letters from `A` to `Z`, and the
character itself elsewhere. -/
theorem lowerChar_ascii {c : CodePoint} (h : IsAscii c) : tables.lowerChar c = [asciiLower c] := by
  have hne : capitalSigma ∉ [c] := by
    rw [List.mem_singleton]
    rintro rfl
    exact absurd h (by decide)
  have hlower := Unicode.lower_ascii [c] (by simpa using h)
  rwa [lower_eq, CaseTables.lower, CaseTables.lowerFrom_of_notMem _ hne, List.flatMap_singleton,
    List.map_singleton] at hlower

end CaseMapping

/-- A character beyond ASCII stays as it is. -/
theorem asciiLower_of_not_ascii {c : CodePoint} (h : ¬IsAscii c) : asciiLower c = c := by
  have : ¬c.val < 0x80 := h
  rw [asciiLower, dif_neg (by omega)]

/-- ASCII lower-casing leads neither into ASCII nor out of it. -/
theorem isAscii_asciiLower {c : CodePoint} : IsAscii (asciiLower c) ↔ IsAscii c := by
  unfold asciiLower
  split_ifs with hc
  · have : IsAscii c := show c.val < 0x80 by omega
    exact iff_of_true (show c.val + 32 < 0x80 by omega) this
  · rfl

/-- Characters with one ASCII lower case contribute the same to a text that is compared
without case. -/
theorem CaseMapping.contribution_congr [Unicode] [CaseMapping] {c d : CodePoint}
    (h : asciiLower c = asciiLower d) :
    CaseMapping.contribution c = CaseMapping.contribution d := by
  by_cases hc : IsAscii c
  · have hd : IsAscii d := isAscii_asciiLower.1 (h ▸ isAscii_asciiLower.2 hc)
    have hne : ∀ {x : CodePoint}, IsAscii x → x ≠ capitalSigma := by
      rintro x hx rfl
      exact absurd hx (by decide)
    rw [contribution, contribution, if_neg (hne hc), if_neg (hne hd), lowerChar_ascii hc,
      lowerChar_ascii hd, h]
  · have hd : ¬IsAscii d := fun hd => hc (isAscii_asciiLower.1 (h ▸ isAscii_asciiLower.2 hd))
    rw [asciiLower_of_not_ascii hc, asciiLower_of_not_ascii hd] at h
    rw [h]

/-- The tables of ASCII and the sigmas: enough for the words that tell the two small ones
apart. -/
def CaseTables.sigmas : CaseTables where
  lowerChar c := [asciiLower c]
  cased c := asciiIdentifierStart c && c.val ≠ 95 || c = capitalSigma || c = smallSigma ||
    c = finalSigma
  caseIgnorable c := c = cp '.' || c = cp ':' || c = cp '^'

/-- None of the sigmas is an ASCII character. -/
theorem not_ascii_sigma {c : CodePoint} (h : IsAscii c) :
    c ≠ capitalSigma ∧ c ≠ smallSigma ∧ c ≠ finalSigma := by
  refine ⟨?_, ?_, ?_⟩ <;>
    · rintro rfl
      exact absurd h (by decide)

/-- The tables restricted to ASCII, the fullwidth forms and the sigmas, as an instance to
evaluate with. -/
@[reducible] def Unicode.sigmas : Unicode :=
  { Unicode.fullwidth with
    lower := CaseTables.sigmas.lower
    isalnum := fun c => asciiAlnum (foldFullwidth c) || c = capitalSigma || c = smallSigma ||
      c = finalSigma
    lower_ascii := fun text h => by
      rw [CaseTables.lower, CaseTables.lowerFrom_of_notMem _ fun hc =>
        (not_ascii_sigma (h _ hc)).1 rfl]
      exact List.map_eq_flatMap.symm
    isalnum_ascii := fun c h => by
      obtain ⟨hc, hs, hf⟩ := not_ascii_sigma h
      simp [foldFullwidth_ascii h, hc, hs, hf] }

/-- They lower-case as assumed, so the assumptions can be met. -/
@[reducible] def CaseMapping.sigmas : @CaseMapping Unicode.sigmas :=
  letI := Unicode.sigmas
  { tables := CaseTables.sigmas
    lower_eq := fun _ => rfl
    isalnum_lowerChar := fun c h d hd => by
      have hc : ¬(65 ≤ c.val ∧ c.val ≤ 90) := fun hc => by
        have hascii : IsAscii c := show c.val < 0x80 by omega
        rw [Unicode.isalnum_ascii c hascii, asciiAlnum, decide_eq_false_iff_not] at h
        exact h (.inr (.inl hc))
      rw [List.mem_singleton.1 hd, asciiLower, dif_neg hc]
      exact h
    isalnum_capitalSigma := rfl
    isalnum_finalSigma := rfl }

end Pidprobe
