/-
# A JSON object cut short is not JSON

`read_strictPrefix`: no text written for an object has a strict prefix that is
itself a JSON text, so a connection that closes early is noticed by the reader
alone.  Nothing is assumed of the texts of floats but that they are made of number
characters, so the reader may stop inside one; what comes next is then a number
character, which goes on with nothing.

The induction runs over the value and carries two cases: what the reader takes
from the front of a whole value's text, and from the front of a strict prefix of
it (`StopsAt`).
-/

import Mathlib.Data.List.TakeWhile
import Pidprobe.Lib.JsonRoundTrip

namespace Pidprobe
namespace Json

/-! ## Numbers -/

theorem isNumberChar_of_isDigit {c : CodePoint} (h : isDigit c = true) : isNumberChar c = true := by
  rw [isDigit, decide_eq_true_eq] at h
  rw [isNumberChar, decide_eq_true_eq]
  exact Or.inl h

theorem takeWhile_isDigit_number (t : PyStr) : ∀ c ∈ t.takeWhile isDigit, isNumberChar c = true :=
  fun _ hc => isNumberChar_of_isDigit (List.mem_takeWhile_imp hc)

theorem signPart_number (t : PyStr) : ∀ c ∈ (signPart t).1, isNumberChar c = true := by
  cases t with
  | nil => simp [signPart]
  | cons c t =>
    rw [signPart]
    split_ifs with h
    · exact List.forall_mem_singleton.2 (by rw [h]; decide)
    · simp

theorem intPart_number (t : PyStr) : ∀ c ∈ (intPart t).1, isNumberChar c = true := by
  cases t with
  | nil => simp [intPart]
  | cons c t =>
    rw [intPart]
    split_ifs with h
    · exact List.forall_mem_singleton.2 (by rw [h]; decide)
    · exact takeWhile_isDigit_number _

theorem fracPart_number (t : PyStr) : ∀ c ∈ (fracPart t).1, isNumberChar c = true := by
  cases t with
  | nil => simp [fracPart]
  | cons c t =>
    rw [fracPart]
    split_ifs with h
    · exact List.forall_mem_cons.2 ⟨by rw [h.1]; decide, takeWhile_isDigit_number _⟩
    · simp

theorem expSign_number (t : PyStr) : ∀ c ∈ (expSign t).1, isNumberChar c = true := by
  cases t with
  | nil => simp [expSign]
  | cons c t =>
    rw [expSign]
    split_ifs with h
    · refine List.forall_mem_singleton.2 ?_
      rcases h with rfl | rfl <;> decide
    · simp

theorem expPart_number (t : PyStr) : ∀ c ∈ (expPart t).1, isNumberChar c = true := by
  cases t with
  | nil => simp [expPart]
  | cons c t =>
    rw [expPart]
    split_ifs with h
    · rw [List.forall_mem_append, List.forall_mem_cons]
      refine ⟨⟨?_, expSign_number t⟩, takeWhile_isDigit_number _⟩
      rcases h.1 with rfl | rfl <;> decide
    · simp

/-- What the reader takes for a number is made of number characters, and the rest follows
it. -/
theorem readNumber_consumes [FloatText] {t r : PyStr} {v : Json}
    (h : readNumber t = some (v, r)) : ∃ u, t = u ++ r ∧ ∀ c ∈ u, isNumberChar c = true := by
  have hsign := signPart_append t
  have hint := intPart_append (signPart t).2
  have hfrac := fracPart_append (intPart (signPart t).2).2
  have hexp := expPart_append (fracPart (intPart (signPart t).2).2).2
  simp only [readNumber] at h
  by_cases hi : (intPart (signPart t).2).1 = []
  · rw [if_pos hi] at h
    cases h
  rw [if_neg hi] at h
  by_cases hf : (fracPart (intPart (signPart t).2).2).1 = [] ∧
      (expPart (fracPart (intPart (signPart t).2).2).2).1 = []
  · rw [if_pos hf] at h
    obtain ⟨-, rfl⟩ := Prod.mk.inj (Option.some.inj h)
    refine ⟨(signPart t).1 ++ (intPart (signPart t).2).1, ?_, ?_⟩
    · rw [List.append_assoc, hint, hsign]
    · exact List.forall_mem_append.2 ⟨signPart_number _, intPart_number _⟩
  · rw [if_neg hf] at h
    obtain ⟨-, rfl⟩ := Prod.mk.inj (Option.some.inj h)
    refine ⟨(signPart t).1 ++ ((intPart (signPart t).2).1 ++
      ((fracPart (intPart (signPart t).2).2).1 ++
        (expPart (fracPart (intPart (signPart t).2).2).2).1)), ?_, ?_⟩
    · rw [List.append_assoc, List.append_assoc, List.append_assoc, hexp, hfrac, hint, hsign]
    · simp only [List.forall_mem_append]
      exact ⟨signPart_number _, intPart_number _, fracPart_number _, expPart_number _⟩

/-- No number goes on into a text: it is empty, or begins with some other character. -/
def SafeEnd (q : PyStr) : Prop := ∀ c t, q = c :: t → isNumberChar c = false

theorem safeEnd_nil : SafeEnd [] := fun _ _ h => by simp at h

theorem safeEnd_cons {c : CodePoint} (t : PyStr) (h : isNumberChar c = false) :
    SafeEnd (c :: t) := by
  rintro d u hd
  obtain ⟨rfl, rfl⟩ := List.cons.inj hd
  exact h

/-- Where no number goes on, one is read to its end. -/
theorem SafeEnd.numberEnd {q : PyStr} (h : SafeEnd q) : NumberEnd q := by
  rintro c t rfl
  have hc := h c t rfl
  have hne : ∀ d, isNumberChar d = true → c ≠ d := fun d hd he => by simp [he, hd] at hc
  refine ⟨?_, hne _ (by decide), hne _ (by decide), hne _ (by decide)⟩
  by_contra hd
  exact absurd (isNumberChar_of_isDigit (by simpa using hd)) (by simp [hc])

/-- What follows an element cut off before its bracket is as safe as what would have
followed. -/
theorem SafeEnd.strictPrefix {q r : PyStr} (h : SafeEnd r) (hq : StrictPrefix q r) : SafeEnd q := by
  rintro c t rfl
  obtain ⟨u, hu⟩ := hq.1
  exact h c (t ++ u) hu.symm

theorem safeEnd_comma (t : PyStr) : SafeEnd (cp ',' :: t) := safeEnd_cons t (by decide)

theorem safeEnd_bracket (t : PyStr) : SafeEnd (cp ']' :: t) := safeEnd_cons t (by decide)

theorem safeEnd_brace (t : PyStr) : SafeEnd (cp '\x7d' :: t) := safeEnd_cons t (by decide)

/-- A number is over with its text, or stops at a number character: the reader may take less
than was written, and never more. -/
theorem number_stops {t q u r : PyStr} (ht : ∀ c ∈ t, isNumberChar c = true)
    (hu : ∀ c ∈ u, isNumberChar c = true) (hq : SafeEnd q) (h : t ++ q = u ++ r) :
    r = q ∨ ∃ c r', r = c :: r' ∧ isNumberChar c = true := by
  rcases List.append_eq_append_iff.1 h with ⟨v, rfl, rfl⟩ | ⟨v, rfl, rfl⟩
  · cases v with
    | nil => exact Or.inl rfl
    | cons c v =>
      have hc := hu c (by simp)
      rw [hq c _ rfl] at hc
      cases hc
  · cases v with
    | nil => exact Or.inl rfl
    | cons c v => exact Or.inr ⟨c, v ++ q, rfl, ht c (by simp)⟩

/-- Cut short behind a separator, with the space after it skipped. -/
theorem skipWs_strictPrefix {q t : PyStr} (ht : ValueHead t) (hq : StrictPrefix q (cp ' ' :: t)) :
    StrictPrefix (skipWs q) t := by
  obtain ⟨c, r, rfl, hws, -⟩ := ht
  rcases strictPrefix_cons.1 hq with rfl | ⟨q', rfl, hq'⟩
  · exact strictPrefix_cons.2 (Or.inl rfl)
  · rw [skipWs_space]
    rcases strictPrefix_cons.1 hq' with rfl | ⟨q'', rfl, -⟩
    · exact strictPrefix_cons.2 (Or.inl rfl)
    · rwa [skipWs_cons hws]

variable [FloatText]

theorem safeEnd_dumpsMembers (ms : List (PyStr × Json)) : SafeEnd (dumpsMembers ms) := by
  cases ms with
  | nil => rw [dumpsMembers]; exact safeEnd_brace []
  | cons m ms => rw [dumpsMembers_cons]; exact safeEnd_comma _

/-! ## Where the reader stops -/

/-- A value the reader finds at the front of `t` leaves `q`, or stops inside a
number. -/
def StopsAt (n : ℕ) (t q : PyStr) : Prop :=
  ∀ v r, readValue n t = some (v, r) → r = q ∨ ∃ c r', r = c :: r' ∧ isNumberChar c = true

/-- Where the reader finds no value, nothing is left of one. -/
theorem stopsAt_of_none {n : ℕ} {t q : PyStr} (h : readValue n t = none) : StopsAt n t q := by
  intro v r hr
  rw [h] at hr
  cases hr

/-- Where it reads the value, it has come to its end. -/
theorem stopsAt_of_some {n : ℕ} {t q : PyStr} {v : Json} (h : readValue n t = some (v, q)) :
    StopsAt n t q := by
  intro w r hr
  rw [h] at hr
  exact Or.inl (Prod.mk.inj (Option.some.inj hr)).2.symm

theorem stopsAt_nil (n : ℕ) (q : PyStr) : StopsAt n [] q := by
  cases n <;> exact stopsAt_of_none rfl

theorem stopsAt_number {n : ℕ} {t q : PyStr} (ht : NumberText t) (hq : SafeEnd q) :
    StopsAt (n + 1) (t ++ q) q := by
  intro v r hr
  rw [readValue_numberText ht] at hr
  obtain ⟨u, hu, hnum⟩ := readNumber_consumes hr
  exact number_stops ht.2 hnum hq hu

/-- The names JSON has no value for: the three words for floats that are no number. -/
theorem readValue_letter {n : ℕ} (t : PyStr) :
    readValue (n + 1) (cp 'N' :: t) = none ∧ readValue (n + 1) (cp 'I' :: t) = none ∧
      readValue (n + 1) (cp '-' :: cp 'I' :: t) = none := ⟨rfl, rfl, rfl⟩

omit [FloatText] in
/-- Behind a number cut open, neither a separator nor a closing mark follows, so nothing
goes on. -/
theorem numberChar_mark {c : CodePoint} (h : isNumberChar c = true) :
    isWs c = false ∧ c ≠ cp ']' ∧ c ≠ cp ',' ∧ c ≠ cp '\x7d' := by
  have hne : ∀ d : CodePoint, isNumberChar d = false → c ≠ d := fun d hd he => by simp [he, hd] at h
  exact ⟨(numberChar_valueHead h).1, (numberChar_valueHead h).2.1, hne _ (by decide),
    hne _ (by decide)⟩

/-- An element the reader goes past was read to its end, or the array is none. -/
theorem readElems_stopsAt {n : ℕ} {t q : PyStr} (h : StopsAt n t q) :
    readElems (n + 1) t = none ∨ ∃ v, readValue n t = some (v, q) := by
  rcases hv : readValue n t with _ | ⟨v, r⟩
  · exact Or.inl (by rw [readElems, hv])
  · rcases h v r hv with rfl | ⟨c, r', rfl, hc⟩
    · exact Or.inr ⟨v, rfl⟩
    · obtain ⟨hws, hbracket, hcomma, -⟩ := numberChar_mark hc
      refine Or.inl ?_
      rw [readElems, hv]
      simp only [skipWs_cons hws, if_neg hbracket, if_neg hcomma]

/-- A member's value the reader goes past was read to its end, or the object is none. -/
theorem readMembers_stopsAt {n : ℕ} {us : List StrUnit} {t q : PyStr} (hus : ∀ u ∈ us, u.Spelt)
    (h : StopsAt n (skipWs t) q) :
    readMembers (n + 1) (cp '"' :: (quoteBody us ++ cp ':' :: t)) = none ∨
      ∃ v, readValue n (skipWs t) = some (v, q) := by
  rcases hv : readValue n (skipWs t) with _ | ⟨v, r⟩
  · exact Or.inl (by rw [readMembers_key hus, hv])
  · rcases h v r hv with rfl | ⟨c, r', rfl, hc⟩
    · exact Or.inr ⟨v, rfl⟩
    · obtain ⟨hws, -, hcomma, hbrace⟩ := numberChar_mark hc
      refine Or.inl ?_
      rw [readMembers_key hus, hv]
      simp only [skipWs_cons hws, if_neg hbrace, if_neg hcomma]

/-! ## A whole value -/

mutual

/-- What the reader takes from the front of a whole value: all of it, or a part of a number
with which it does not get on. -/
theorem stopsAt_dumps : ∀ {v : Json} {n : ℕ} {q : PyStr}, SafeEnd q →
    2 * (dumps v ++ q).length < n → StopsAt n (dumps v ++ q) q
  | .null, _, _, hq, hn => stopsAt_of_some (readValue_dumps trivial hq.numberEnd hn)
  | .bool _, _, _, hq, hn => stopsAt_of_some (readValue_dumps trivial hq.numberEnd hn)
  | .int _, _, _, hq, hn => stopsAt_of_some (readValue_dumps trivial hq.numberEnd hn)
  | .str _, _, _, hq, hn => stopsAt_of_some (readValue_dumps trivial hq.numberEnd hn)
  | .float (.finite x), n + 1, q, hq, _ => stopsAt_number (repr_numberText x) hq
  | .float .negZero, n + 1, q, hq, _ => stopsAt_number negZero_numberText hq
  | .float .inf, n + 1, q, _, _ => stopsAt_of_none (readValue_letter _).2.1
  | .float .negInf, n + 1, q, _, _ => stopsAt_of_none (readValue_letter _).2.2
  | .float .nan, n + 1, q, _, _ => stopsAt_of_none (readValue_letter _).1
  | .arr [], _, _, hq, hn => stopsAt_of_some (readValue_dumps trivial hq.numberEnd hn)
  | .arr (x :: xs), n + 1, q, hq, hn => by
    rw [dumps_arr, List.cons_append] at hn ⊢
    simp only [List.length_cons] at hn
    intro v r hr
    rw [readValue_arr ((elemsText_valueHead x xs).append q)] at hr
    obtain ⟨⟨vs, r'⟩, he, hp⟩ := Option.map_eq_some_iff.1 hr
    obtain ⟨-, rfl⟩ := Prod.mk.inj hp
    exact Or.inl (readElems_rest (by omega) he)
  | .obj [], _, _, hq, hn => stopsAt_of_some (readValue_dumps trivial hq.numberEnd hn)
  | .obj ((k, v) :: ms), n + 1, q, hq, hn => by
    rw [dumps_obj, List.cons_append] at hn ⊢
    simp only [List.length_cons] at hn
    intro w r hr
    rw [membersText, List.cons_append, readValue_obj] at hr
    obtain ⟨⟨vs, r'⟩, he, hp⟩ := Option.map_eq_some_iff.1 hr
    obtain ⟨-, rfl⟩ := Prod.mk.inj hp
    exact Or.inl (readMembers_rest (by omega) he)

/-- The elements of a whole array are read up to its bracket, if at all. -/
theorem readElems_rest : ∀ {x : Json} {xs : List Json} {n : ℕ} {q r : PyStr} {vs : List Json},
    2 * (elemsText x xs ++ q).length + 1 < n → readElems n (elemsText x xs ++ q) = some (vs, r) →
      r = q
  | x, [], n + 1, q, r, vs, hn, h => by
    rw [elemsText, dumpsElems, List.append_assoc, List.singleton_append] at hn h
    rcases readElems_stopsAt (stopsAt_dumps (v := x) (n := n) (safeEnd_bracket q) (by omega)) with
      hr | ⟨v, hr⟩
    · rw [hr] at h
      cases h
    · rw [readElems_bracket hr] at h
      exact (Prod.mk.inj (Option.some.inj h)).2.symm
  | x, y :: ys, n + 1, q, r, vs, hn, h => by
    rw [elemsText, dumpsElems_cons, List.append_assoc, List.cons_append, List.cons_append] at hn h
    have hstops := stopsAt_dumps (v := x) (n := n)
      (safeEnd_comma (cp ' ' :: (elemsText y ys ++ q))) (by omega)
    rcases readElems_stopsAt hstops with hr | ⟨v, hr⟩
    · rw [hr] at h
      cases h
    · rw [readElems_comma hr ((elemsText_valueHead y ys).append q)] at h
      obtain ⟨⟨vs', r'⟩, he, hp⟩ := Option.map_eq_some_iff.1 h
      obtain ⟨-, rfl⟩ := Prod.mk.inj hp
      simp only [List.length_append, List.length_cons] at hn
      exact readElems_rest (by simp only [List.length_append]; omega) he

/-- And the members of a whole object up to its brace. -/
theorem readMembers_rest : ∀ {k : PyStr} {v : Json} {ms : List (PyStr × Json)} {n : ℕ}
    {q r : PyStr} {vs : List (PyStr × Json)}, 2 * (membersText k v ms ++ q).length + 1 < n →
      readMembers n (membersText k v ms ++ q) = some (vs, r) → r = q
  | k, v, [], n + 1, q, r, vs, hn, h => by
    rw [membersText, dumpsMembers] at hn h
    simp only [List.cons_append, List.append_assoc, List.nil_append] at hn h
    simp only [List.length_append, List.length_cons] at hn
    have hskip : skipWs (cp ' ' :: (dumps v ++ cp '\x7d' :: q)) = dumps v ++ cp '\x7d' :: q := by
      rw [skipWs_space, skipWs_valueHead ((dumps_valueHead v).append _)]
    have hstops : StopsAt n (skipWs (cp ' ' :: (dumps v ++ cp '\x7d' :: q))) (cp '\x7d' :: q) := by
      rw [hskip]
      exact stopsAt_dumps (safeEnd_brace q)
        (by simp only [List.length_append, List.length_cons]; omega)
    rcases readMembers_stopsAt (flatMap_units_spelt k) hstops with hr | ⟨w, hr⟩
    · rw [hr] at h
      cases h
    · rw [readMembers_key (flatMap_units_spelt k), hr] at h
      simp only [skipWs_cons (show isWs (cp '\x7d') = false by decide), if_true] at h
      exact (Prod.mk.inj (Option.some.inj h)).2.symm
  | k, v, (k', v') :: ms, n + 1, q, r, vs, hn, h => by
    rw [membersText, dumpsMembers_cons] at hn h
    simp only [List.cons_append, List.append_assoc] at hn h
    simp only [List.length_append, List.length_cons] at hn
    have hskip : skipWs (cp ' ' :: (dumps v ++ cp ',' :: cp ' ' :: (membersText k' v' ms ++ q))) =
        dumps v ++ cp ',' :: cp ' ' :: (membersText k' v' ms ++ q) := by
      rw [skipWs_space, skipWs_valueHead ((dumps_valueHead v).append _)]
    have hstops := stopsAt_dumps (v := v) (n := n)
      (safeEnd_comma (cp ' ' :: (membersText k' v' ms ++ q)))
      (by simp only [List.length_append, List.length_cons]; omega)
    rw [← hskip] at hstops
    rcases readMembers_stopsAt (flatMap_units_spelt k) hstops with hr | ⟨w, hr⟩
    · rw [hr] at h
      cases h
    · rw [readMembers_key (flatMap_units_spelt k), hr] at h
      simp only [skipWs_cons (show isWs (cp ',') = false by decide), skipWs_space,
        skipWs_valueHead ((membersText_valueHead k' v' ms).append q)] at h
      rw [if_neg (by decide), if_pos trivial] at h
      obtain ⟨⟨vs', r'⟩, he, hp⟩ := Option.map_eq_some_iff.1 h
      obtain ⟨-, rfl⟩ := Prod.mk.inj hp
      exact readMembers_rest (by simp only [List.length_append]; omega) he

end

/-! ## A value cut short -/

/-- A number cut short may be read as another one, and then nothing is left, or a piece of
it. -/
theorem stopsAt_cutNumber {n : ℕ} {t p : PyStr} (ht : NumberText t) (h : StrictPrefix p t) :
    StopsAt (n + 1) p [] := by
  by_cases hp : p = []
  · subst hp
    exact stopsAt_nil _ _
  · have hnum : NumberText p := ⟨hp, fun c hc => ht.2 c (h.1.subset hc)⟩
    simpa using stopsAt_number (n := n) hnum safeEnd_nil

/-- A word cut short is no word. -/
theorem stopsAt_cutWord {n : ℕ} {c : CodePoint} {w p : PyStr} {v : Json}
    (hread : ∀ t, readValue (n + 1) (c :: t) = (expect w t).map fun r => (v, r))
    (h : StrictPrefix p (c :: w)) : StopsAt (n + 1) p [] := by
  rcases strictPrefix_cons.1 h with rfl | ⟨q, rfl, hq⟩
  · exact stopsAt_nil _ _
  · refine stopsAt_of_none ?_
    rw [hread, expect_strictPrefix hq]
    rfl

/-- An element with nothing behind it closes no array. -/
theorem readElems_cut {n : ℕ} {t : PyStr} (h : StopsAt n t []) : readElems (n + 1) t = none := by
  rcases readElems_stopsAt h with h | ⟨v, h⟩
  · exact h
  · simp [readElems, h, skipWs]

/-- A member with nothing behind it closes no object. -/
theorem readMembers_cut {n : ℕ} {us : List StrUnit} {t : PyStr} (hus : ∀ u ∈ us, u.Spelt)
    (h : StopsAt n (skipWs t) []) :
    readMembers (n + 1) (cp '"' :: (quoteBody us ++ cp ':' :: t)) = none := by
  rcases readMembers_stopsAt hus h with h | ⟨v, h⟩
  · exact h
  · rw [readMembers_key hus, h]
    rfl

mutual

/-- A value cut short is not read to an end behind which anything could stand. -/
theorem readValue_strictPrefix : ∀ {v : Json} {n : ℕ} {p : PyStr},
    StrictPrefix p (dumps v) → 2 * p.length < n → StopsAt n p []
  | .null, n + 1, p, h, _ => stopsAt_cutWord (w := py "ull") (fun _ => rfl) h
  | .bool true, n + 1, p, h, _ => stopsAt_cutWord (w := py "rue") (fun _ => rfl) h
  | .bool false, n + 1, p, h, _ => stopsAt_cutWord (w := py "alse") (fun _ => rfl) h
  | .int i, n + 1, p, h, _ => stopsAt_cutNumber (intText_numberText i) (by rwa [dumps] at h)
  | .float (.finite x), n + 1, p, h, _ => stopsAt_cutNumber (repr_numberText x) h
  | .float .negZero, n + 1, p, h, _ => stopsAt_cutNumber negZero_numberText h
  | .float .inf, n + 1, p, h, _ => by
    rcases strictPrefix_cons.1 (show StrictPrefix p (cp 'I' :: py "nfinity") from h) with
      rfl | ⟨q, rfl, -⟩
    · exact stopsAt_nil _ _
    · exact stopsAt_of_none (readValue_letter q).2.1
  | .float .negInf, n + 1, p, h, _ => by
    rcases strictPrefix_cons.1 (show StrictPrefix p (cp '-' :: cp 'I' :: py "nfinity") from h) with
      rfl | ⟨q, rfl, hq⟩
    · exact stopsAt_nil _ _
    · rcases strictPrefix_cons.1 hq with rfl | ⟨q', rfl, -⟩
      · exact stopsAt_of_none rfl
      · exact stopsAt_of_none (readValue_letter q').2.2
  | .float .nan, n + 1, p, h, _ => by
    rcases strictPrefix_cons.1 (show StrictPrefix p (cp 'N' :: py "aN") from h) with
      rfl | ⟨q, rfl, -⟩
    · exact stopsAt_nil _ _
    · exact stopsAt_of_none (readValue_letter q).1
  | .str s, n + 1, p, h, _ => by
    rw [dumps, quote] at h
    rcases strictPrefix_cons.1 h with rfl | ⟨q, rfl, hq⟩
    · exact stopsAt_nil _ _
    · refine stopsAt_of_none ?_
      rw [readValue, if_pos rfl, readUnits_strictPrefix (flatMap_units_spelt s) hq]
      rfl
  | .arr [], n + 1, p, h, _ => by
    rcases strictPrefix_cons.1 (show StrictPrefix p [cp '[', cp ']'] from h) with
      rfl | ⟨q, rfl, hq⟩
    · exact stopsAt_nil _ _
    · rcases strictPrefix_cons.1 hq with rfl | ⟨q', rfl, hq'⟩
      · exact stopsAt_of_none rfl
      · exact absurd hq' not_strictPrefix_nil
  | .arr (x :: xs), n + 1, p, h, hn => by
    rw [dumps_arr] at h
    rcases strictPrefix_cons.1 h with rfl | ⟨q, rfl, hq⟩
    · exact stopsAt_nil _ _
    · simp only [List.length_cons] at hn
      have hnone := readElems_strictPrefix (n := n) hq (by omega)
      refine stopsAt_of_none ?_
      obtain ⟨c, t, ht, hws, hb⟩ := elemsText_valueHead x xs
      rcases strictPrefix_cons.1 (ht ▸ hq) with rfl | ⟨q', rfl, hq'⟩
      · rfl
      · rw [readValue_arr ⟨c, q', rfl, hws, hb⟩, hnone]
        rfl
  | .obj ms, n + 1, p, h, hn => stopsAt_of_none (readValue_obj_strictPrefix h hn)
termination_by _ n => (n, 1)

/-- An object cut short is not a value at all: its brace is missing. -/
theorem readValue_obj_strictPrefix : ∀ {ms : List (PyStr × Json)} {n : ℕ} {p : PyStr},
    StrictPrefix p (dumps (.obj ms)) → 2 * p.length < n → readValue n p = none
  | [], n + 1, p, h, _ => by
    rcases strictPrefix_cons.1 (show StrictPrefix p [cp '\x7b', cp '\x7d'] from h) with
      rfl | ⟨q, rfl, hq⟩
    · rfl
    · rcases strictPrefix_cons.1 hq with rfl | ⟨q', rfl, hq'⟩
      · rfl
      · exact absurd hq' not_strictPrefix_nil
  | (k, v) :: ms, n + 1, p, h, hn => by
    rw [dumps_obj] at h
    rcases strictPrefix_cons.1 h with rfl | ⟨q, rfl, hq⟩
    · rfl
    · simp only [List.length_cons] at hn
      have hnone := readMembers_strictPrefix (n := n) hq (by omega)
      rcases strictPrefix_cons.1 hq with rfl | ⟨q', rfl, hq'⟩
      · rfl
      · rw [readValue_obj, hnone]
        rfl
termination_by _ n => (n, 0)

/-- Elements cut short do not come to their bracket. -/
theorem readElems_strictPrefix : ∀ {x : Json} {xs : List Json} {n : ℕ} {p : PyStr},
    StrictPrefix p (elemsText x xs) → 2 * p.length + 1 < n → readElems n p = none
  | x, [], n + 1, p, h, hn => by
    rw [elemsText, dumpsElems] at h
    rcases strictPrefix_append h with h | ⟨q, rfl, hq⟩
    · exact readElems_cut (readValue_strictPrefix h (by omega))
    · rcases strictPrefix_cons.1 hq with rfl | ⟨q', rfl, hq'⟩
      · exact readElems_cut (stopsAt_dumps safeEnd_nil (by omega))
      · exact absurd hq' not_strictPrefix_nil
  | x, y :: ys, n + 1, p, h, hn => by
    rw [elemsText, dumpsElems_cons] at h
    rcases strictPrefix_append h with h | ⟨q, rfl, hq⟩
    · exact readElems_cut (readValue_strictPrefix h (by omega))
    have hstops := stopsAt_dumps (v := x) (n := n) ((safeEnd_comma _).strictPrefix hq) (by omega)
    rcases strictPrefix_cons.1 hq with rfl | ⟨q₁, rfl, hq₁⟩
    · exact readElems_cut hstops
    rcases readElems_stopsAt hstops with hnone | ⟨v, hval⟩
    · exact hnone
    -- the comma is there: what is missing is in the elements after it
    have hlen := skipWs_length q₁
    simp only [List.length_append, List.length_cons] at hn
    have hrest := readElems_strictPrefix (n := n)
      (skipWs_strictPrefix (elemsText_valueHead y ys) hq₁) (by omega)
    rw [readElems, hval]
    simp only [skipWs_cons (show isWs (cp ',') = false by decide), hrest]
    rfl
termination_by _ _ n => (n, 0)

/-- Nor do members cut short come to their brace. -/
theorem readMembers_strictPrefix : ∀ {k : PyStr} {v : Json} {ms : List (PyStr × Json)} {n : ℕ}
    {p : PyStr}, StrictPrefix p (membersText k v ms) → 2 * p.length + 1 < n →
      readMembers n p = none
  | k, v, ms, n + 1, p, h, hn => by
    rw [membersText] at h
    rcases strictPrefix_cons.1 h with rfl | ⟨q, rfl, hq⟩
    · rfl
    rcases strictPrefix_append hq with hkey | ⟨q₀, rfl, hq₀⟩
    · rw [readMembers, if_pos rfl, readUnits_strictPrefix (flatMap_units_spelt k) hkey]
    rcases strictPrefix_cons.1 hq₀ with rfl | ⟨q₁, rfl, hq₁⟩
    · rw [readMembers, if_pos rfl, readUnits_quoteBody (flatMap_units_spelt k)]
      rfl
    -- key and colon are there
    have hlen := skipWs_length q₁
    simp only [List.length_append, List.length_cons] at hn
    rcases strictPrefix_append (skipWs_strictPrefix ((dumps_valueHead v).append _) hq₁) with
      hq₂ | ⟨q₂, hskip, hq₂⟩
    · exact readMembers_cut (flatMap_units_spelt k) (readValue_strictPrefix hq₂ (by omega))
    have hstops := stopsAt_dumps (v := v) (n := n) ((safeEnd_dumpsMembers ms).strictPrefix hq₂)
      (by rw [← hskip]; omega)
    rw [← hskip] at hstops
    match ms, hq₂ with
    | [], hq₂ =>
      rw [dumpsMembers] at hq₂
      rcases strictPrefix_cons.1 hq₂ with rfl | ⟨q₃, rfl, hq₃⟩
      · exact readMembers_cut (flatMap_units_spelt k) hstops
      · exact absurd hq₃ not_strictPrefix_nil
    | (k', v') :: ms, hq₂ =>
      rw [dumpsMembers_cons] at hq₂
      rcases strictPrefix_cons.1 hq₂ with rfl | ⟨q₃, rfl, hq₃⟩
      · exact readMembers_cut (flatMap_units_spelt k) hstops
      rcases readMembers_stopsAt (flatMap_units_spelt k) hstops with hnone | ⟨w, hval⟩
      · exact hnone
      have hlen₃ := skipWs_length q₃
      have hle := congrArg List.length hskip
      simp only [List.length_append, List.length_cons] at hle
      have hrest := readMembers_strictPrefix (n := n)
        (skipWs_strictPrefix (membersText_valueHead k' v' ms) hq₃) (by omega)
      rw [readMembers_key (flatMap_units_spelt k), hval]
      simp only [skipWs_cons (show isWs (cp ',') = false by decide), hrest]
      rfl
termination_by _ _ _ n => (n, 0)

end

/-- **A JSON object cut short is not JSON**: so a partial answer is never taken for a whole
one. -/
theorem read_strictPrefix {ms : List (PyStr × Json)} {p : PyStr}
    (h : StrictPrefix p (dumps (.obj ms))) : read p = none := by
  have hskip : skipWs p = p := by
    obtain ⟨c, t, ht, hws, -⟩ := dumps_valueHead (.obj ms)
    rcases strictPrefix_cons.1 (ht ▸ h) with rfl | ⟨q, rfl, -⟩
    · rfl
    · exact skipWs_cons hws q
  rw [read, hskip, readValue_obj_strictPrefix h (by omega)]

end Json
end Pidprobe
