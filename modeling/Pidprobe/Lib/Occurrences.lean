/-
# How often a word occurs in a text

`occurrences word text` counts the positions `word` begins at, overlapping ones
included.  A character the word does not have separates a text: what is left and
right of it is counted apart (`occurrences_append_cons`).
-/

import Mathlib.Data.List.Infix

namespace Pidprobe

variable {α : Type} {word text rest : List α} {c d : α}

/-- A word without `c` that begins a text with `c` in it begins what is in front of the
`c`. -/
theorem prefix_append_cons_iff (h : c ∉ word) : word <+: text ++ c :: rest ↔ word <+: text := by
  induction text generalizing word with
  | nil =>
    rcases word with _ | ⟨d, word⟩
    · simp
    · have hd : d ≠ c := fun hd => h (hd ▸ List.mem_cons_self ..)
      simp [hd]
  | cons a text ih =>
    rcases word with _ | ⟨d, word⟩
    · simp
    · rw [List.cons_append, List.cons_prefix_cons, List.cons_prefix_cons,
        ih fun hc => h (List.mem_cons_of_mem _ hc)]

variable [DecidableEq α]

/-- The number of positions of `text` that `word` begins at, overlaps included. -/
def occurrences (word text : List α) : ℕ := text.tails.countP (word.isPrefixOf ·)

theorem occurrences_nil (h : word ≠ []) : occurrences word [] = 0 := by
  cases word with
  | nil => exact absurd rfl h
  | cons c word => rfl

/-- One character more makes one position more, at the front. -/
theorem occurrences_cons (word : List α) (c : α) (text : List α) :
    occurrences word (c :: text) =
      occurrences word text + if word <+: c :: text then 1 else 0 := by
  rw [occurrences, List.tails_cons, List.countP_cons, occurrences]
  simp only [List.isPrefixOf_iff_prefix]

/-- A part without the first character of the word comes before all occurrences. -/
theorem occurrences_append_of_notMem {front : List α} (h : d ∉ front) :
    occurrences (d :: word) (front ++ text) = occurrences (d :: word) text := by
  induction front with
  | nil => rfl
  | cons c front ih =>
    have hne : d ≠ c := fun hd => h (hd ▸ List.mem_cons_self ..)
    rw [List.cons_append, occurrences_cons, ih fun hd => h (List.mem_cons_of_mem _ hd),
      if_neg fun hp => hne (List.cons_prefix_cons.1 hp).1, Nat.add_zero]

/-- There is no occurrence where the word is no part of the text. -/
theorem occurrences_eq_zero : occurrences word text = 0 ↔ ¬word <:+: text := by
  rw [occurrences, List.countP_eq_zero]
  simp only [List.mem_tails, List.isPrefixOf_iff_prefix, List.infix_iff_prefix_suffix, not_exists,
    not_and]
  exact forall_congr' fun t => ⟨fun h hp hs => h hs hp, fun h hs hp => h hp hs⟩

/-- **A character the word does not have separates its occurrences**: they are on one side
of it or on the other. -/
theorem occurrences_append_cons (hne : word ≠ []) (hc : c ∉ word) (text rest : List α) :
    occurrences word (text ++ c :: rest) = occurrences word text + occurrences word rest := by
  induction text with
  | nil =>
    have hnot : ¬word <+: c :: rest := by
      rw [← List.nil_append (c :: rest), prefix_append_cons_iff hc, List.prefix_nil]
      exact hne
    rw [List.nil_append, occurrences_cons, if_neg hnot, occurrences_nil hne]
    omega
  | cons a text ih =>
    have hiff : word <+: a :: text ++ c :: rest ↔ word <+: a :: text := prefix_append_cons_iff hc
    rw [List.cons_append] at hiff
    rw [List.cons_append, occurrences_cons, occurrences_cons, ih]
    simp only [hiff]
    omega

/-- A word that is not empty occurs once in itself. -/
theorem occurrences_self (hne : word ≠ []) : occurrences word word = 1 := by
  obtain ⟨c, rest, rfl⟩ := List.exists_cons_of_ne_nil hne
  have hshort : occurrences (c :: rest) rest = 0 := by
    rw [occurrences_eq_zero]
    intro h
    have hlength := h.length_le
    rw [List.length_cons] at hlength
    omega
  rw [occurrences_cons, hshort, if_pos List.prefix_rfl]

end Pidprobe
