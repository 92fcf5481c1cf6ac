/-
# What comes back from a written JSON text

`read_dumps`: the reader returns a written value up to `reread`, which replaces
every string by the characters its text denotes.  On a value whose objects
repeat no key and whose strings split no surrogate pair, `reread` is the
identity (`reread_eq_self`).

It is about values without floats, whose text is the interpreter's.
-/

import Pidprobe.Lib.JsonStrings

namespace Pidprobe
namespace Json

/-! ## Numbers -/

/-- Digits without a leading zero, unless the zero is all there is. -/
def DigitText (ds : PyStr) : Prop :=
  (∀ c ∈ ds, isDigit c = true) ∧ ∀ t, ds = cp '0' :: t → t = []

/-- What may follow a number: nothing that would prolong it, be it a digit, a point or an
exponent. -/
def NumberEnd (r : PyStr) : Prop :=
  ∀ c t, r = c :: t → isDigit c = false ∧ c ≠ cp '.' ∧ c ≠ cp 'e' ∧ c ≠ cp 'E'

theorem numberEnd_nil : NumberEnd [] := fun _ _ h => by simp at h

theorem numberEnd_cons {c : CodePoint} (t : PyStr)
    (h : isDigit c = false ∧ c ≠ cp '.' ∧ c ≠ cp 'e' ∧ c ≠ cp 'E') : NumberEnd (c :: t) := by
  rintro d u hd
  obtain ⟨rfl, rfl⟩ := List.cons.inj hd
  exact h

theorem isDigit_digit : ∀ n < 10, isDigit (digit n) = true := by decide

theorem digit_sub : ∀ n < 10, (digit n).val - 48 = n := by decide

theorem digit_eq_zero : ∀ n < 10, digit n = cp '0' → n = 0 := by decide

theorem decimal_ne_nil (n : ℕ) : decimal n ≠ [] := by
  unfold decimal
  split_ifs with h
  · simp
  · simpa using Nat.digits_ne_nil_iff_ne_zero.2 h

/-- The decimal text of a number has no leading zero. -/
theorem decimal_digitText (n : ℕ) : DigitText (decimal n) := by
  unfold decimal
  split_ifs with h
  · refine ⟨by simp only [List.forall_mem_singleton]; decide, fun t ht => ?_⟩
    exact (List.cons.inj ht).2.symm
  · refine ⟨fun c hc => ?_, fun t ht => ?_⟩
    · obtain ⟨d, hd, rfl⟩ := List.mem_map.1 (List.mem_reverse.1 hc)
      exact isDigit_digit d (Nat.digits_lt_base (by norm_num) hd)
    · have hne : Nat.digits 10 n ≠ [] := Nat.digits_ne_nil_iff_ne_zero.2 h
      have hlast := Nat.getLast_digit_ne_zero 10 h
      have hlt := Nat.digits_lt_base (b := 10) (by norm_num) (List.getLast_mem hne)
      rw [← List.dropLast_append_getLast hne, List.map_append, List.reverse_append,
        List.map_singleton, List.reverse_singleton, List.singleton_append] at ht
      exact absurd (digit_eq_zero _ hlt (List.cons.inj ht).1) hlast

theorem ofDigits_append (ds : PyStr) (c : CodePoint) :
    ofDigits (ds ++ [c]) = 10 * ofDigits ds + (c.val - 48) := by
  simp [ofDigits]

theorem ofDigits_map_reverse {l : List ℕ} (h : ∀ d ∈ l, d < 10) :
    ofDigits (l.map digit).reverse = Nat.ofDigits 10 l := by
  induction l with
  | nil => rfl
  | cons d l ih =>
    have hd := h d (List.mem_cons_self ..)
    rw [List.map_cons, List.reverse_cons, ofDigits_append,
      ih fun e he => h e (List.mem_cons_of_mem _ he), digit_sub d hd, Nat.ofDigits_cons,
      Nat.add_comm]

/-- A number is read back from its digits. -/
theorem ofDigits_decimal (n : ℕ) : ofDigits (decimal n) = n := by
  unfold decimal
  split_ifs with h
  · subst h; rfl
  · rw [ofDigits_map_reverse fun d hd => Nat.digits_lt_base (by norm_num) hd, Nat.ofDigits_digits]

/-- Digits are taken up to the end of the number. -/
theorem takeWhile_isDigit {ds r : PyStr} (h : ∀ c ∈ ds, isDigit c = true) (hr : NumberEnd r) :
    (ds ++ r).takeWhile isDigit = ds ∧ (ds ++ r).dropWhile isDigit = r := by
  rw [List.takeWhile_append_of_pos h, List.dropWhile_append_of_pos h]
  cases r with
  | nil => simp
  | cons c t => simp [(hr c t rfl).1]

/-- They are all of them the integer part. -/
theorem intPart_digitText {ds r : PyStr} (h : DigitText ds) (hne : ds ≠ []) (hr : NumberEnd r) :
    intPart (ds ++ r) = (ds, r) := by
  obtain ⟨c, t, rfl⟩ := List.exists_cons_of_ne_nil hne
  rw [List.cons_append, intPart]
  split_ifs with hc
  · subst hc
    obtain rfl := h.2 t rfl
    rfl
  · rw [← List.cons_append, (takeWhile_isDigit h.1 hr).1, (takeWhile_isDigit h.1 hr).2]

theorem fracPart_numberEnd {r : PyStr} (hr : NumberEnd r) : fracPart r = ([], r) := by
  cases r with
  | nil => rfl
  | cons c t => rw [fracPart, if_neg fun h => (hr c t rfl).2.1 h.1]

theorem expPart_numberEnd {r : PyStr} (hr : NumberEnd r) : expPart r = ([], r) := by
  cases r with
  | nil => rfl
  | cons c t =>
    rw [expPart, if_neg fun h => h.1.elim (hr c t rfl).2.2.1 (hr c t rfl).2.2.2]

theorem minus_not_digit : isDigit (cp '-') = false := by decide

section
variable [FloatText]

/-- A text of digits is read as an `int`. -/
theorem readNumber_digits {ds r : PyStr} (h : DigitText ds) (hne : ds ≠ []) (hr : NumberEnd r) :
    readNumber (ds ++ r) = some (.int (ofDigits ds), r) := by
  have hs : signPart (ds ++ r) = ([], ds ++ r) := by
    obtain ⟨c, t, rfl⟩ := List.exists_cons_of_ne_nil hne
    rw [List.cons_append, signPart, if_neg]
    rintro rfl
    exact absurd (h.1 _ (List.mem_cons_self ..)) (by simp [minus_not_digit])
  simp only [readNumber, hs, intPart_digitText h hne hr, fracPart_numberEnd hr,
    expPart_numberEnd hr, if_neg hne, and_self, if_true]

/-- So it is behind a minus sign, as the negative number. -/
theorem readNumber_minus_digits {ds r : PyStr} (h : DigitText ds) (hne : ds ≠ [])
    (hr : NumberEnd r) :
    readNumber (cp '-' :: (ds ++ r)) = some (.int (-ofDigits ds), r) := by
  have hs : signPart (cp '-' :: (ds ++ r)) = ([cp '-'], ds ++ r) := by rw [signPart, if_pos rfl]
  simp only [readNumber, hs, intPart_digitText h hne hr, fracPart_numberEnd hr,
    expPart_numberEnd hr, if_neg hne, and_self, if_true, List.cons_ne_nil, if_false]

/-- **An `int` is read back**, whatever follows that ends a number. -/
theorem readNumber_intText (n : ℤ) {r : PyStr} (hr : NumberEnd r) :
    readNumber (intText n ++ r) = some (.int n, r) := by
  cases n with
  | ofNat n =>
    rw [intText, readNumber_digits (decimal_digitText n) (decimal_ne_nil n) hr, ofDigits_decimal]
    rfl
  | negSucc n =>
    rw [intText, List.cons_append,
      readNumber_minus_digits (decimal_digitText _) (decimal_ne_nil _) hr, ofDigits_decimal]
    rfl

end

/-! ## Values -/

mutual

/-- No float occurs in a value, at any depth: then nothing depends on how floats are
written. -/
def FloatFree : Json → Prop
  | .float _ => False
  | .arr xs => FloatFreeElems xs
  | .obj ms => FloatFreeMembers ms
  | _ => True

/-- `FloatFree` of the elements of an array. -/
def FloatFreeElems : List Json → Prop
  | [] => True
  | x :: xs => FloatFree x ∧ FloatFreeElems xs

/-- And of the members of an object. -/
def FloatFreeMembers : List (PyStr × Json) → Prop
  | [] => True
  | (_, v) :: ms => FloatFree v ∧ FloatFreeMembers ms

end

mutual

/-- The value a written value is read as: pairs of surrogates are fused, in keys too, and
the last member of a key wins. -/
def reread : Json → Json
  | .null => .null
  | .bool b => .bool b
  | .int n => .int n
  | .float x => .float x
  | .str s => .str (rereadStr s)
  | .arr xs => .arr (rereadElems xs)
  | .obj ms => .obj (Dict.ofPairs (rereadMembers ms))

/-- The elements of an array as they are read. -/
def rereadElems : List Json → List Json
  | [] => []
  | x :: xs => reread x :: rereadElems xs

/-- The members of an object as they are read, repeated keys included. -/
def rereadMembers : List (PyStr × Json) → List (PyStr × Json)
  | [] => []
  | (k, v) :: ms => (rereadStr k, reread v) :: rereadMembers ms

end

@[simp] theorem reread_null : reread .null = .null := rfl

@[simp] theorem reread_bool (b : Bool) : reread (.bool b) = .bool b := rfl

@[simp] theorem reread_int (n : ℤ) : reread (.int n) = .int n := rfl

@[simp] theorem reread_float (x : PyFloat) : reread (.float x) = .float x := rfl

@[simp] theorem reread_str (s : PyStr) : reread (.str s) = .str (rereadStr s) := rfl

/-- Only `null` is read as `null`. -/
theorem reread_eq_null {v : Json} : v.reread = .null ↔ v = .null := by
  cases v <;> simp [reread]

theorem rereadElems_eq_map (xs : List Json) : rereadElems xs = xs.map reread := by
  induction xs with
  | nil => rfl
  | cons x xs ih => rw [rereadElems, ih, List.map_cons]

theorem rereadMembers_eq_map (ms : List (PyStr × Json)) :
    rereadMembers ms = ms.map fun kv => (rereadStr kv.1, kv.2.reread) := by
  induction ms with
  | nil => rfl
  | cons kv ms ih =>
    obtain ⟨k, v⟩ := kv
    rw [rereadMembers, ih, List.map_cons]

/-- A member under an ASCII key is read back under that key, and no other is: fusing makes
no ASCII text. -/
theorem get?_reread {key : PyStr} (hkey : ∀ c ∈ key, IsAscii c) {ms : List (PyStr × Json)}
    (hms : Dict.NodupKeys ms) :
    Dict.get? key (Dict.ofPairs (rereadMembers ms)) = (Dict.get? key ms).map reread := by
  have hself : Dict.get? key ms = (ms.reverse.find? fun kv => kv.1 = key).map Prod.snd := by
    rw [← Dict.get?_ofPairs, Dict.ofPairs_of_nodupKeys hms]
  rw [Dict.get?_ofPairs, rereadMembers_eq_map, ← List.map_reverse, List.find?_map, hself]
  simp only [Function.comp_def, rereadStr_eq_ascii hkey, Option.map_map]

/-- What a value's text starts with: no white space, and no closing bracket. -/
def ValueHead (t : PyStr) : Prop := ∃ c r, t = c :: r ∧ isWs c = false ∧ c ≠ cp ']'

theorem ValueHead.append {t : PyStr} (h : ValueHead t) (r : PyStr) : ValueHead (t ++ r) := by
  obtain ⟨c, u, rfl, hc⟩ := h
  exact ⟨c, u ++ r, rfl, hc⟩

/-- A number starts no other value, and is no white space. -/
theorem numberChar_valueHead {c : CodePoint} (h : isNumberChar c = true) :
    isWs c = false ∧ c ≠ cp ']' ∧ c ≠ cp '"' ∧ c ≠ cp '[' ∧ c ≠ cp '\x7b' ∧ c ≠ cp 'n' ∧
      c ≠ cp 't' ∧ c ≠ cp 'f' := by
  have hne : ∀ d : CodePoint, isNumberChar d = false → c ≠ d := fun d hd he => by
    rw [he, hd] at h
    exact absurd h (by simp)
  refine ⟨?_, hne _ (by decide), hne _ (by decide), hne _ (by decide), hne _ (by decide),
    hne _ (by decide), hne _ (by decide), hne _ (by decide)⟩
  rw [isWs, decide_eq_false_iff_not]
  simp only [not_or]
  exact ⟨hne _ (by decide), hne _ (by decide), hne _ (by decide), hne _ (by decide)⟩

/-- A text of number characters, and at least one. -/
def NumberText (t : PyStr) : Prop := t ≠ [] ∧ ∀ c ∈ t, isNumberChar c = true

theorem NumberText.valueHead {t : PyStr} (h : NumberText t) : ValueHead t := by
  obtain ⟨c, r, rfl⟩ := List.exists_cons_of_ne_nil h.1
  have hc := numberChar_valueHead (h.2 c (List.mem_cons_self ..))
  exact ⟨c, r, rfl, hc.1, hc.2.1⟩

theorem intText_numberText (n : ℤ) : NumberText (intText n) := by
  refine ⟨?_, intText_number n⟩
  cases n with
  | ofNat n => exact decimal_ne_nil n
  | negSucc n => exact List.cons_ne_nil _ _

section
variable [FloatText]

theorem repr_numberText (q : ℚ) : NumberText (FloatText.repr q) :=
  ⟨FloatText.repr_ne_nil q, FloatText.repr_number q⟩

omit [FloatText] in
theorem negZero_numberText : NumberText (py "-0.0") :=
  ⟨by decide, List.all_eq_true.1 (by decide)⟩

theorem floatText_valueHead (x : PyFloat) : ValueHead (floatText x) := by
  cases x with
  | finite q => exact (repr_numberText q).valueHead
  | negZero => exact negZero_numberText.valueHead
  | inf => exact ⟨cp 'I', py "nfinity", rfl, by decide, by decide⟩
  | negInf => exact ⟨cp '-', py "Infinity", rfl, by decide, by decide⟩
  | nan => exact ⟨cp 'N', py "aN", rfl, by decide, by decide⟩

theorem dumps_valueHead (v : Json) : ValueHead (dumps v) := by
  cases v with
  | null => exact ⟨cp 'n', py "ull", rfl, by decide, by decide⟩
  | bool b =>
    cases b with
    | true => exact ⟨cp 't', py "rue", rfl, by decide, by decide⟩
    | false => exact ⟨cp 'f', py "alse", rfl, by decide, by decide⟩
  | int n => exact (intText_numberText n).valueHead
  | float x => exact floatText_valueHead x
  | str s => exact ⟨cp '"', _, rfl, by decide, by decide⟩
  | arr xs =>
    cases xs with
    | nil => exact ⟨cp '[', [cp ']'], rfl, by decide, by decide⟩
    | cons x xs => exact ⟨cp '[', _, by rw [dumps], by decide, by decide⟩
  | obj ms =>
    cases ms with
    | nil => exact ⟨cp '\x7b', [cp '\x7d'], rfl, by decide, by decide⟩
    | cons m ms => exact ⟨cp '\x7b', _, by rw [dumps], by decide, by decide⟩

/-- A text that starts with a number's characters is read as a number. -/
theorem readValue_numberText {n : ℕ} {t : PyStr} (h : NumberText t) (r : PyStr) :
    readValue (n + 1) (t ++ r) = readNumber (t ++ r) := by
  obtain ⟨c, u, rfl⟩ := List.exists_cons_of_ne_nil h.1
  have hc := (numberChar_valueHead (h.2 c (List.mem_cons_self ..))).2.2
  rw [List.cons_append, readValue, if_neg hc.1, if_neg hc.2.1, if_neg hc.2.2.1,
    if_neg hc.2.2.2.1, if_neg hc.2.2.2.2.1, if_neg hc.2.2.2.2.2]

/-! ### The texts of arrays and objects -/

/-- The elements of an array and its closing bracket, behind the opening one. -/
def elemsText (x : Json) (xs : List Json) : PyStr := dumps x ++ dumpsElems xs

/-- The members of an object and its closing brace, behind the opening one. -/
def membersText (k : PyStr) (v : Json) (ms : List (PyStr × Json)) : PyStr :=
  cp '"' :: (quoteBody (k.flatMap units) ++ cp ':' :: cp ' ' :: (dumps v ++ dumpsMembers ms))

theorem dumps_arr (x : Json) (xs : List Json) :
    dumps (.arr (x :: xs)) = cp '[' :: elemsText x xs := by rw [dumps, elemsText]

theorem dumpsElems_cons (x : Json) (xs : List Json) :
    dumpsElems (x :: xs) = cp ',' :: cp ' ' :: elemsText x xs := by
  rw [dumpsElems, elemsText]
  rfl

theorem quote_append (k : PyStr) (v : Json) (ms : List (PyStr × Json)) :
    quote k ++ py ": " ++ dumps v ++ dumpsMembers ms = membersText k v ms := by
  simp only [quote, membersText, List.append_assoc, List.cons_append]
  rfl

theorem dumps_obj (k : PyStr) (v : Json) (ms : List (PyStr × Json)) :
    dumps (.obj ((k, v) :: ms)) = cp '\x7b' :: membersText k v ms := by
  rw [dumps, quote_append]

theorem dumpsMembers_cons (k : PyStr) (v : Json) (ms : List (PyStr × Json)) :
    dumpsMembers ((k, v) :: ms) = cp ',' :: cp ' ' :: membersText k v ms := by
  rw [dumpsMembers, ← quote_append]
  simp only [List.append_assoc]
  rfl

omit [FloatText] in
/-- In front of a value there is nothing to skip. -/
theorem skipWs_valueHead {t : PyStr} (h : ValueHead t) : skipWs t = t := by
  obtain ⟨c, r, rfl, hc, -⟩ := h
  exact skipWs_cons hc r

theorem elemsText_valueHead (x : Json) (xs : List Json) : ValueHead (elemsText x xs) :=
  (dumps_valueHead x).append _

theorem membersText_valueHead (k : PyStr) (v : Json) (ms : List (PyStr × Json)) :
    ValueHead (membersText k v ms) := ⟨cp '"', _, rfl, by decide, by decide⟩

omit [FloatText] in
theorem numberEnd_comma (t : PyStr) : NumberEnd (cp ',' :: t) := numberEnd_cons t (by decide)

omit [FloatText] in
theorem numberEnd_bracket (t : PyStr) : NumberEnd (cp ']' :: t) := numberEnd_cons t (by decide)

omit [FloatText] in
theorem numberEnd_brace (t : PyStr) : NumberEnd (cp '\x7d' :: t) := numberEnd_cons t (by decide)

/-! ### One step of the reader -/

/-- An array with an element in it is read through its elements. -/
theorem readValue_arr {n : ℕ} {t : PyStr} (h : ValueHead t) :
    readValue (n + 1) (cp '[' :: t) = (readElems n t).map fun p => (.arr p.1, p.2) := by
  obtain ⟨c, r, rfl, hc, hb⟩ := h
  rw [readValue, if_neg (by decide), if_pos rfl, skipWs_cons hc]
  exact if_neg hb

/-- And an object with a member in it through its members. -/
theorem readValue_obj {n : ℕ} {t : PyStr} :
    readValue (n + 1) (cp '\x7b' :: cp '"' :: t) =
      (readMembers n (cp '"' :: t)).map fun p => (.obj (Dict.ofPairs p.1), p.2) := by
  rw [readValue, if_neg (by decide), if_neg (by decide), if_pos rfl, skipWs_cons (by decide)]
  exact if_neg (by decide)

/-- The last element stands in front of the bracket. -/
theorem readElems_bracket {n : ℕ} {t r : PyStr} {v : Json}
    (h : readValue n t = some (v, cp ']' :: r)) : readElems (n + 1) t = some ([v], r) := by
  rw [readElems, h]
  simp only [skipWs_cons (show isWs (cp ']') = false by decide), if_true]

/-- An element in front of a comma has others behind it. -/
theorem readElems_comma {n : ℕ} {t r : PyStr} {v : Json}
    (h : readValue n t = some (v, cp ',' :: cp ' ' :: r)) (hr : ValueHead r) :
    readElems (n + 1) t = (readElems n r).map fun p => (v :: p.1, p.2) := by
  rw [readElems, h]
  simp only [skipWs_cons (show isWs (cp ',') = false by decide), skipWs_space,
    skipWs_valueHead hr]
  rw [if_neg (by decide), if_pos trivial]

/-- A member's key and colon are taken off the front, whatever the value behind them. -/
theorem readMembers_key {n : ℕ} {us : List StrUnit} {t : PyStr} (hus : ∀ u ∈ us, u.Spelt) :
    readMembers (n + 1) (cp '"' :: (quoteBody us ++ cp ':' :: t)) =
      match readValue n (skipWs t) with
      | none => none
      | some (v, r) =>
        match skipWs r with
        | [] => none
        | c :: r =>
          if c = cp '\x7d' then some ([(fuse us, v)], r)
          else if c = cp ',' then
            (readMembers n (skipWs r)).map fun p => ((fuse us, v) :: p.1, p.2)
          else none := by
  rw [readMembers, if_pos rfl, readUnits_quoteBody hus]
  simp only [skipWs_cons (show isWs (cp ':') = false by decide)]
  exact if_pos trivial

/-! ### The round trip -/

mutual

/-- **What a written value is read as**, with whatever behind it ends a number, and enough
fuel. -/
theorem readValue_dumps : ∀ {v : Json} {n : ℕ} {r : PyStr}, FloatFree v → NumberEnd r →
    2 * (dumps v ++ r).length < n → readValue n (dumps v ++ r) = some (reread v, r)
  | .null, n + 1, r, _, _, _ => by
    rw [dumps, show py "null" ++ r = cp 'n' :: (py "ull" ++ r) from rfl, readValue,
      if_neg (by decide), if_neg (by decide), if_neg (by decide), if_pos rfl, expect_append]
    rfl
  | .bool true, n + 1, r, _, _, _ => by
    rw [dumps, show py "true" ++ r = cp 't' :: (py "rue" ++ r) from rfl, readValue,
      if_neg (by decide), if_neg (by decide), if_neg (by decide), if_neg (by decide), if_pos rfl,
      expect_append]
    rfl
  | .bool false, n + 1, r, _, _, _ => by
    rw [dumps, show py "false" ++ r = cp 'f' :: (py "alse" ++ r) from rfl, readValue,
      if_neg (by decide), if_neg (by decide), if_neg (by decide), if_neg (by decide),
      if_neg (by decide), if_pos rfl, expect_append]
    rfl
  | .int i, n + 1, r, _, hr, _ => by
    rw [dumps, reread, readValue_numberText (intText_numberText i), readNumber_intText i hr]
  | .str s, n + 1, r, _, _, _ => by
    rw [dumps, quote, List.cons_append, readValue, if_pos rfl,
      readUnits_quoteBody (flatMap_units_spelt s)]
    rfl
  | .arr [], n + 1, r, _, _, _ => by
    rw [dumps, show py "[]" ++ r = cp '[' :: cp ']' :: r from rfl, readValue,
      if_neg (by decide), if_pos rfl, skipWs_cons (by decide)]
    rfl
  | .arr (x :: xs), n + 1, r, hv, hr, hn => by
    rw [dumps_arr, List.cons_append] at hn ⊢
    simp only [List.length_cons] at hn
    rw [readValue_arr ((elemsText_valueHead x xs).append r),
      readElems_dumps hv.1 hv.2 (by omega)]
    rfl
  | .obj [], n + 1, r, _, _, _ => by
    rw [dumps, show py "\x7b\x7d" ++ r = cp '\x7b' :: cp '\x7d' :: r from rfl, readValue,
      if_neg (by decide), if_neg (by decide), if_pos rfl, skipWs_cons (by decide)]
    rfl
  | .obj ((k, v) :: ms), n + 1, r, hv, hr, hn => by
    rw [dumps_obj, List.cons_append] at hn ⊢
    simp only [List.length_cons] at hn
    have h := readMembers_dumps (n := n) (k := k) (r := r) hv.1 hv.2 (by omega)
    rw [membersText, List.cons_append] at h ⊢
    rw [readValue_obj, h]
    rfl

/-- So are the elements of an array, up to its bracket. -/
theorem readElems_dumps : ∀ {x : Json} {xs : List Json} {n : ℕ} {r : PyStr},
    FloatFree x → FloatFreeElems xs → 2 * (elemsText x xs ++ r).length + 1 < n →
      readElems n (elemsText x xs ++ r) = some (reread x :: rereadElems xs, r)
  | x, [], n + 1, r, hx, _, hn => by
    rw [elemsText, dumpsElems, List.append_assoc, List.singleton_append] at hn ⊢
    exact readElems_bracket (readValue_dumps hx (numberEnd_bracket r) (by omega))
  | x, y :: ys, n + 1, r, hx, hxs, hn => by
    rw [elemsText, dumpsElems_cons, List.append_assoc, List.cons_append, List.cons_append] at hn ⊢
    rw [readElems_comma (readValue_dumps hx (numberEnd_comma _) (by omega))
      ((elemsText_valueHead y ys).append r)]
    simp only [List.length_append, List.length_cons] at hn
    rw [readElems_dumps hxs.1 hxs.2 (by simp only [List.length_append]; omega)]
    rfl

/-- And the members of an object, up to its brace. -/
theorem readMembers_dumps : ∀ {k : PyStr} {v : Json} {ms : List (PyStr × Json)} {n : ℕ} {r : PyStr},
    FloatFree v → FloatFreeMembers ms → 2 * (membersText k v ms ++ r).length + 1 < n →
      readMembers n (membersText k v ms ++ r) =
        some ((rereadStr k, reread v) :: rereadMembers ms, r)
  | k, v, [], n + 1, r, hv, _, hn => by
    rw [membersText, dumpsMembers] at hn ⊢
    simp only [List.cons_append, List.append_assoc, List.nil_append] at hn ⊢
    simp only [List.length_append, List.length_cons] at hn
    rw [readMembers_key (flatMap_units_spelt k), skipWs_space,
      skipWs_valueHead ((dumps_valueHead v).append _),
      readValue_dumps hv (numberEnd_brace r)
        (by simp only [List.length_append, List.length_cons]; omega)]
    simp only [skipWs_cons (show isWs (cp '\x7d') = false by decide), if_true]
    rfl
  | k, v, (k', v') :: ms, n + 1, r, hv, hms, hn => by
    rw [membersText, dumpsMembers_cons] at hn ⊢
    simp only [List.cons_append, List.append_assoc] at hn ⊢
    simp only [List.length_append, List.length_cons] at hn
    rw [readMembers_key (flatMap_units_spelt k), skipWs_space,
      skipWs_valueHead ((dumps_valueHead v).append _),
      readValue_dumps hv (numberEnd_comma _)
        (by simp only [List.length_append, List.length_cons]; omega)]
    simp only [skipWs_cons (show isWs (cp ',') = false by decide), skipWs_space,
      skipWs_valueHead ((membersText_valueHead k' v' ms).append r)]
    rw [if_neg (by decide), if_pos trivial,
      readMembers_dumps hms.1 hms.2 (by simp only [List.length_append]; omega)]
    rfl

end

theorem skipWs_dumps (v : Json) : skipWs (dumps v) = dumps v :=
  skipWs_valueHead (dumps_valueHead v)

/-- **A written value is read back** as the value its text denotes. -/
theorem read_dumps {v : Json} (hv : FloatFree v) : read (dumps v) = some (reread v) := by
  have h := readValue_dumps (n := 2 * (dumps v).length + 1) hv numberEnd_nil (by simp)
  rw [List.append_nil] at h
  rw [read, skipWs_dumps, h]
  rfl

end

/-! ### Where nothing is lost -/

mutual

/-- No object repeats a key, as in every value Python holds: a `dict` has one value for a
key. -/
def UniqueKeys : Json → Prop
  | .arr xs => UniqueKeysElems xs
  | .obj ms => Dict.NodupKeys ms ∧ UniqueKeysMembers ms
  | _ => True

/-- `UniqueKeys` of the elements of an array. -/
def UniqueKeysElems : List Json → Prop
  | [] => True
  | x :: xs => UniqueKeys x ∧ UniqueKeysElems xs

/-- And of the members of an object. -/
def UniqueKeysMembers : List (PyStr × Json) → Prop
  | [] => True
  | (_, v) :: ms => UniqueKeys v ∧ UniqueKeysMembers ms

end

mutual

/-- No string splits a surrogate pair over two characters, be it a value or a key. -/
def NoSplitPairs : Json → Prop
  | .str s => NoSplitPair s
  | .arr xs => NoSplitPairsElems xs
  | .obj ms => NoSplitPairsMembers ms
  | _ => True

/-- `NoSplitPairs` of the elements of an array. -/
def NoSplitPairsElems : List Json → Prop
  | [] => True
  | x :: xs => NoSplitPairs x ∧ NoSplitPairsElems xs

/-- And of the members of an object, whose keys are strings. -/
def NoSplitPairsMembers : List (PyStr × Json) → Prop
  | [] => True
  | (k, v) :: ms => NoSplitPair k ∧ NoSplitPairs v ∧ NoSplitPairsMembers ms

end

mutual

/-- **A value without repeated keys and split pairs is read as itself.** -/
theorem reread_eq_self : ∀ {v : Json}, UniqueKeys v → NoSplitPairs v → reread v = v
  | .null, _, _ => rfl
  | .bool _, _, _ => rfl
  | .int _, _, _ => rfl
  | .float _, _, _ => rfl
  | .str _, _, h => congrArg Json.str (fuse_units h)
  | .arr _, hu, h => congrArg Json.arr (rereadElems_eq_self hu h)
  | .obj _, hu, h => by
      rw [reread, rereadMembers_eq_self hu.2 h, Dict.ofPairs_of_nodupKeys hu.1]

theorem rereadElems_eq_self : ∀ {xs : List Json}, UniqueKeysElems xs → NoSplitPairsElems xs →
    rereadElems xs = xs
  | [], _, _ => rfl
  | _ :: _, hu, h => by rw [rereadElems, reread_eq_self hu.1 h.1, rereadElems_eq_self hu.2 h.2]

theorem rereadMembers_eq_self : ∀ {ms : List (PyStr × Json)}, UniqueKeysMembers ms →
    NoSplitPairsMembers ms → rereadMembers ms = ms
  | [], _, _ => rfl
  | (_, _) :: _, hu, h => by
      rw [rereadMembers, show rereadStr _ = _ from fuse_units h.1, reread_eq_self hu.1 h.2.1,
        rereadMembers_eq_self hu.2 h.2.2]

end

end Json
end Pidprobe
