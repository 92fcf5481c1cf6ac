/-
# Words

A text without the blanks at its ends (`strip`), and the runs between its blanks
(`words`): `str.strip()` and `str.split()`, for any notion of a blank.  Words that
are written one blank apart are read back (`words_joined`), and blanks at the ends
of a text are in none of them (`words_strip`).
-/

import Mathlib.Data.List.TakeWhile

namespace Pidprobe
namespace Words

variable {α : Type*} (blank : α → Bool)

/-- `text.strip()`: the blanks at both ends go. -/
def strip (t : List α) : List α :=
  ((t.dropWhile blank).reverse.dropWhile blank).reverse

/-- `text.split()`: the parts between blanks that are not empty. -/
def words (t : List α) : List (List α) := (t.splitOnP blank).filter (· ≠ [])

variable {blank}

/-- Words are split at a blank, so a text may be read in two parts. -/
theorem words_append_blank {c : α} (hc : blank c = true) (s t : List α) :
    words blank (s ++ c :: t) = words blank s ++ words blank t := by
  rw [words, List.splitOnP_append_cons s t hc, List.filter_append]
  rfl

theorem words_nil : words blank ([] : List α) = [] := by
  rw [words, List.splitOnP_nil]
  rfl

theorem words_cons_blank {c : α} (hc : blank c = true) (t : List α) :
    words blank (c :: t) = words blank t := by
  have h := words_append_blank hc [] t
  rwa [words_nil] at h

/-- Blanks at the front are in no word. -/
theorem words_dropWhile (t : List α) : words blank (t.dropWhile blank) = words blank t := by
  induction t with
  | nil => rfl
  | cons c t ih =>
    by_cases hc : blank c = true
    · rw [List.dropWhile_cons_of_pos hc, ih, words_cons_blank hc]
    · rw [List.dropWhile_cons_of_neg hc]

/-- Nor are blanks at the end. -/
theorem words_append_blanks {t trail : List α} (h : ∀ c ∈ trail, blank c = true) :
    words blank (t ++ trail) = words blank t := by
  cases trail with
  | nil => rw [List.append_nil]
  | cons c trail =>
    obtain ⟨hc, htrail⟩ := List.forall_mem_cons.1 h
    have hnone : words blank trail = [] := by
      rw [← words_dropWhile, List.dropWhile_eq_nil_iff.2 htrail, words_nil]
    rw [words_append_blank hc, hnone, List.append_nil]

/-- **The words of a text are those of the stripped text.** -/
theorem words_strip (t : List α) : words blank (strip blank t) = words blank t := by
  have hsplit : strip blank t ++ ((t.dropWhile blank).reverse.takeWhile blank).reverse =
      t.dropWhile blank := by
    rw [strip, ← List.reverse_append, List.takeWhile_append_dropWhile, List.reverse_reverse]
  have htrail : ∀ c ∈ ((t.dropWhile blank).reverse.takeWhile blank).reverse, blank c = true :=
    fun c hc => List.mem_takeWhile_imp (List.mem_reverse.1 hc)
  rw [← words_dropWhile t, ← hsplit, words_append_blanks htrail]

/-- A text without blanks is one word, if it is not empty. -/
theorem words_of_word {w : List α} (hne : w ≠ []) (h : ∀ c ∈ w, blank c = false) :
    words blank w = [w] := by
  rw [words, List.splitOnP_eq_singleton h]
  simp [hne]

/-- **Words that are joined by blanks are read back**, one blank between two of them. -/
theorem words_joined {sep : α} (hsep : blank sep = true) :
    ∀ {ws : List (List α)}, (∀ w ∈ ws, w ≠ [] ∧ ∀ c ∈ w, blank c = false) →
      words blank ([sep].intercalate ws) = ws
  | [], _ => words_nil
  | [w], h => by
    obtain ⟨hne, hw⟩ := h w (List.mem_singleton_self w)
    simpa [List.intercalate] using words_of_word hne hw
  | w :: w' :: ws, h => by
    obtain ⟨⟨hne, hw⟩, hws⟩ := List.forall_mem_cons.1 h
    have hcons : [sep].intercalate (w :: w' :: ws) = w ++ sep :: [sep].intercalate (w' :: ws) := by
      simp [List.intercalate]
    rw [hcons, words_append_blank hsep, words_of_word hne hw, words_joined hsep hws,
      List.singleton_append]

end Words
end Pidprobe
