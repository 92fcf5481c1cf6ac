/-
# A grammar-exact JSON reader

`read` accepts exactly the texts of the JSON grammar, white space included, and
builds the value Python would: the last member of a repeated key wins, and two
`\uXXXX` escapes that form a surrogate pair are one character (`fuse`).  The names
`NaN` and `Infinity`, which Python's reader takes as well, are not in the grammar.

`readValue` recurses on fuel, two units for each character it may have to open
a container at.  `readValue_fuel` says that the fuel `read` gives is enough: with
any larger amount it answers the same, so `read` rejects a text only because
the grammar does.
-/

import Pidprobe.Lib.Json

namespace Pidprobe
namespace Json

/-! ## Tokens -/

/-- The white space of JSON, which is less than Python's. -/
def isWs (c : CodePoint) : Bool := c = cp ' ' ∨ c = cp '\t' ∨ c = cp '\n' ∨ c = cp '\r'

def skipWs (t : PyStr) : PyStr := t.dropWhile isWs

/-- What follows `word` at the front of a text that begins with it. -/
def expect : PyStr → PyStr → Option PyStr
  | [], t => some t
  | _ :: _, [] => none
  | w :: word, c :: t => if c = w then expect word t else none

/-- The value of a hexadecimal digit, in either case. -/
def hexValue (c : CodePoint) : Option ℕ :=
  if 48 ≤ c.val ∧ c.val ≤ 57 then some (c.val - 48)
  else if 97 ≤ c.val ∧ c.val ≤ 102 then some (c.val - 87)
  else if 65 ≤ c.val ∧ c.val ≤ 70 then some (c.val - 55)
  else none

/-- Four hexadecimal digits, the most significant one first. -/
def hex4 (a b c d : CodePoint) : Option (Fin 0x10000) := do
  let a ← hexValue a
  let b ← hexValue b
  let c ← hexValue c
  let d ← hexValue d
  return Fin.ofNat 0x10000 (a * 4096 + b * 256 + c * 16 + d)

/-- The character of a one-letter escape; the slash has one too. -/
def unescape (e : CodePoint) : Option CodePoint :=
  if e = cp '"' ∨ e = cp '\\' ∨ e = cp '/' then some e
  else if e = cp 'n' then some (cp '\n')
  else if e = cp 'r' then some (cp '\r')
  else if e = cp 't' then some (cp '\t')
  else if e = cp 'f' then some (Utf8.code 0x0C)
  else if e = cp 'b' then some (Utf8.code 0x08)
  else none

/-- The units of a string up to its closing quote, and what follows it; a control character
is none. -/
def readUnits : PyStr → Option (List StrUnit × PyStr)
  | [] => none
  | c :: t =>
    if c = cp '"' then some ([], t)
    else if c = cp '\\' then
      match t with
      | [] => none
      | e :: t =>
        if e = cp 'u' then
          match t with
          | h₃ :: h₂ :: h₁ :: h₀ :: t =>
            match hex4 h₃ h₂ h₁ h₀ with
            | some n => (readUnits t).map fun p => (.escape n :: p.1, p.2)
            | none => none
          | _ => none
        else
          match unescape e with
          | some d => (readUnits t).map fun p => (.plain d :: p.1, p.2)
          | none => none
    else if c.val < 0x20 then none
    else (readUnits t).map fun p => (.plain c :: p.1, p.2)

/-- A high surrogate, the first half of a pair. -/
def isHigh (n : ℕ) : Bool := 0xD800 ≤ n ∧ n ≤ 0xDBFF

/-- A low surrogate, the second half of a pair. -/
def isLow (n : ℕ) : Bool := 0xDC00 ≤ n ∧ n ≤ 0xDFFF

/-- The characters of a string's units: two escapes that are a surrogate pair
are one character. -/
def fuse : List StrUnit → PyStr
  | [] => []
  | .plain c :: us => c :: fuse us
  | .escape h :: .escape l :: us =>
    if isHigh h && isLow l then
      Utf8.code (0x10000 + (h - 0xD800) * 1024 + (l - 0xDC00)) :: fuse us
    else Utf8.code h :: fuse (.escape l :: us)
  | .escape n :: us => Utf8.code n :: fuse us

/-! ## Numbers -/

def isDigit (c : CodePoint) : Bool := 48 ≤ c.val ∧ c.val ≤ 57

/-- The value of a text of digits. -/
def ofDigits (ds : PyStr) : ℕ := ds.foldl (fun n c => 10 * n + (c.val - 48)) 0

/-- `-?`, and what follows it. -/
def signPart : PyStr → PyStr × PyStr
  | [] => ([], [])
  | c :: t => if c = cp '-' then ([c], t) else ([], c :: t)

/-- `0|[1-9][0-9]*`, or nothing: a number does not go on behind a leading zero. -/
def intPart : PyStr → PyStr × PyStr
  | [] => ([], [])
  | c :: t =>
    if c = cp '0' then ([c], t) else ((c :: t).takeWhile isDigit, (c :: t).dropWhile isDigit)

/-- `(\.[0-9]+)?`: a point without a digit is left where it is. -/
def fracPart : PyStr → PyStr × PyStr
  | [] => ([], [])
  | c :: t =>
    if c = cp '.' ∧ t.takeWhile isDigit ≠ [] then
      (c :: t.takeWhile isDigit, t.dropWhile isDigit)
    else ([], c :: t)

/-- `[-+]?`. -/
def expSign : PyStr → PyStr × PyStr
  | [] => ([], [])
  | c :: t => if c = cp '-' ∨ c = cp '+' then ([c], t) else ([], c :: t)

/-- `([eE][-+]?[0-9]+)?`: an `e` without a digit is left where it is. -/
def expPart : PyStr → PyStr × PyStr
  | [] => ([], [])
  | c :: t =>
    if (c = cp 'e' ∨ c = cp 'E') ∧ (expSign t).2.takeWhile isDigit ≠ [] then
      (c :: (expSign t).1 ++ (expSign t).2.takeWhile isDigit, (expSign t).2.dropWhile isDigit)
    else ([], c :: t)

/-- A number: an `int` where it has neither fraction nor exponent, and a `float` else. -/
def readNumber [FloatText] (t : PyStr) : Option (Json × PyStr) :=
  let sign := signPart t
  let int := intPart sign.2
  let frac := fracPart int.2
  let exp := expPart frac.2
  if int.1 = [] then none
  else if frac.1 = [] ∧ exp.1 = [] then
    some (.int (if sign.1 = [] then ofDigits int.1 else -ofDigits int.1), int.2)
  else some (.float (FloatText.read (sign.1 ++ int.1 ++ frac.1 ++ exp.1)), exp.2)

/-! ## Values -/

mutual

/-- A value at the front of a text, and what follows it. The number is fuel, of which two
units a character are enough. -/
def readValue [FloatText] : ℕ → PyStr → Option (Json × PyStr)
  | 0, _ => none
  | _ + 1, [] => none
  | n + 1, c :: t =>
    if c = cp '"' then (readUnits t).map fun p => (.str (fuse p.1), p.2)
    else if c = cp '[' then
      match skipWs t with
      | [] => none
      | d :: r =>
        if d = cp ']' then some (.arr [], r)
        else (readElems n (d :: r)).map fun p => (.arr p.1, p.2)
    else if c = cp '{' then
      match skipWs t with
      | [] => none
      | d :: r =>
        if d = cp '}' then some (.obj [], r)
        else (readMembers n (d :: r)).map fun p => (.obj (Dict.ofPairs p.1), p.2)
    else if c = cp 'n' then (expect (py "ull") t).map fun r => (.null, r)
    else if c = cp 't' then (expect (py "rue") t).map fun r => (.bool true, r)
    else if c = cp 'f' then (expect (py "alse") t).map fun r => (.bool false, r)
    else readNumber (c :: t)

/-- The elements of a non-empty array, and what follows its bracket. -/
def readElems [FloatText] : ℕ → PyStr → Option (List Json × PyStr)
  | 0, _ => none
  | n + 1, t =>
    match readValue n t with
    | none => none
    | some (v, r) =>
      match skipWs r with
      | [] => none
      | c :: r =>
        if c = cp ']' then some ([v], r)
        else if c = cp ',' then (readElems n (skipWs r)).map fun p => (v :: p.1, p.2)
        else none

/-- The members of a non-empty object, and what follows its brace. -/
def readMembers [FloatText] : ℕ → PyStr → Option (List (PyStr × Json) × PyStr)
  | 0, _ => none
  | _ + 1, [] => none
  | n + 1, q :: t =>
    if q = cp '"' then
      match readUnits t with
      | none => none
      | some (us, r) =>
        match skipWs r with
        | [] => none
        | c :: r =>
          if c = cp ':' then
            match readValue n (skipWs r) with
            | none => none
            | some (v, r) =>
              match skipWs r with
              | [] => none
              | c :: r =>
                if c = cp '}' then some ([(fuse us, v)], r)
                else if c = cp ',' then
                  (readMembers n (skipWs r)).map fun p => ((fuse us, v) :: p.1, p.2)
                else none
          else none
    else none

end

/-- The value a text denotes: white space may stand around it, and nothing else. -/
def read [FloatText] (t : PyStr) : Option Json :=
  match readValue (2 * t.length + 1) (skipWs t) with
  | none => none
  | some (v, r) => if skipWs r = [] then some v else none

/-- `json.loads`, without the names beyond the grammar; `message` is the text of the
`JSONDecodeError` it raises. -/
def loads [FloatText] (message : PyStr → PyStr) (t : PyStr) : Except PyStr Json :=
  match read t with
  | some v => .ok v
  | none => .error (message t)

/-- The sign and the integer part of a number text, which are what an `int` is made of. -/
def readDigits (t : PyStr) : Bool × ℕ :=
  ((signPart t).1 ≠ [], ofDigits (intPart (signPart t).2).1)

/-- `float` restricted to the whole values below `10 ^ 16`, whose `repr` is
their integer text and `.0`. -/
@[reducible] def wholeFloats : FloatText where
  repr q := intText q.floor ++ py ".0"
  read t := .finite (match readDigits t with
    | (true, n) => -n
    | (false, n) => n)
  repr_ne_nil q := by simp [py]
  repr_number q := by
    rw [List.forall_mem_append]
    refine ⟨intText_number _, ?_⟩
    show ∀ c ∈ [cp '.', cp '0'], _
    rw [List.forall_mem_cons, List.forall_mem_singleton]
    decide

/-! ## The fuel is enough -/

theorem skipWs_length (t : PyStr) : (skipWs t).length ≤ t.length :=
  (List.dropWhile_suffix isWs).length_le

theorem expect_length : ∀ {w t r : PyStr}, expect w t = some r → r.length ≤ t.length
  | [], _, _, h => by obtain rfl := Option.some.inj h; exact le_rfl
  | _ :: _, [], _, h => by simp [expect] at h
  | w :: word, c :: t, r, h => by
      rw [expect] at h
      split_ifs at h
      exact (expect_length h).trans (Nat.le_succ _)

/-- Reading a string uses up its closing quote at least. -/
theorem readUnits_length {t : PyStr} {p : List StrUnit × PyStr} (h : readUnits t = some p) :
    p.2.length < t.length := by
  fun_induction readUnits t generalizing p with
  | case1 | case3 | case5 | case6 | case8 | case9 => simp at h
  | case2 => obtain rfl := Option.some.inj h; simp
  | case4 | case7 | case10 =>
    rename_i ih
    obtain ⟨q, hq, rfl⟩ := Option.map_eq_some_iff.1 h
    have := ih hq
    simp only [List.length_cons]
    omega

/-- No part of a number loses a character of the text. -/
theorem signPart_append (t : PyStr) : (signPart t).1 ++ (signPart t).2 = t := by
  cases t with
  | nil => rfl
  | cons c t => rw [signPart]; split_ifs <;> rfl

theorem intPart_append (t : PyStr) : (intPart t).1 ++ (intPart t).2 = t := by
  cases t with
  | nil => rfl
  | cons c t =>
    rw [intPart]
    split_ifs
    · rfl
    · exact List.takeWhile_append_dropWhile

theorem fracPart_append (t : PyStr) : (fracPart t).1 ++ (fracPart t).2 = t := by
  cases t with
  | nil => rfl
  | cons c t =>
    rw [fracPart]
    split_ifs
    · exact congrArg (c :: ·) List.takeWhile_append_dropWhile
    · rfl

theorem expSign_append (t : PyStr) : (expSign t).1 ++ (expSign t).2 = t := by
  cases t with
  | nil => rfl
  | cons c t => rw [expSign]; split_ifs <;> rfl

theorem expPart_append (t : PyStr) : (expPart t).1 ++ (expPart t).2 = t := by
  cases t with
  | nil => rfl
  | cons c t =>
    rw [expPart]
    split_ifs
    · simp only [List.cons_append, List.append_assoc, List.takeWhile_append_dropWhile,
        expSign_append]
    · rfl

/-- Reading a number uses up a digit at least. -/
theorem readNumber_length [FloatText] {t : PyStr} {p : Json × PyStr}
    (h : readNumber t = some p) : p.2.length < t.length := by
  have h₁ := congrArg List.length (signPart_append t)
  have h₂ := congrArg List.length (intPart_append (signPart t).2)
  have h₃ := congrArg List.length (fracPart_append (intPart (signPart t).2).2)
  have h₄ := congrArg List.length (expPart_append (fracPart (intPart (signPart t).2).2).2)
  simp only [List.length_append] at h₁ h₂ h₃ h₄
  simp only [readNumber] at h
  split_ifs at h with hi <;> obtain rfl := Option.some.inj h
  all_goals
    have := List.length_pos_iff.2 hi
    simp only
    omega

mutual

/-- Reading a value uses up a character at least. -/
theorem readValue_length [FloatText] : ∀ {n : ℕ} {t : PyStr} {p : Json × PyStr},
    readValue n t = some p → p.2.length < t.length
  | 0, _, _, h => by simp [readValue] at h
  | _ + 1, [], _, h => by simp [readValue] at h
  | n + 1, c :: t, p, h => by
    have hs := skipWs_length t
    rw [readValue] at h
    split_ifs at h
    · obtain ⟨q, hq, rfl⟩ := Option.map_eq_some_iff.1 h
      exact (readUnits_length hq).trans (Nat.lt_succ_self _)
    · cases ht : skipWs t with
      | nil => simp [ht] at h
      | cons d r =>
        simp only [ht, List.length_cons] at h hs ⊢
        split_ifs at h
        · obtain rfl := Option.some.inj h
          simp only
          omega
        · obtain ⟨q, hq, rfl⟩ := Option.map_eq_some_iff.1 h
          have := readElems_length hq
          simp only [List.length_cons] at this ⊢
          omega
    · cases ht : skipWs t with
      | nil => simp [ht] at h
      | cons d r =>
        simp only [ht, List.length_cons] at h hs ⊢
        split_ifs at h
        · obtain rfl := Option.some.inj h
          simp only
          omega
        · obtain ⟨q, hq, rfl⟩ := Option.map_eq_some_iff.1 h
          have := readMembers_length hq
          simp only [List.length_cons] at this ⊢
          omega
    all_goals first
      | exact readNumber_length h
      | obtain ⟨q, hq, rfl⟩ := Option.map_eq_some_iff.1 h
        exact Nat.lt_succ_of_le (expect_length hq)

theorem readElems_length [FloatText] : ∀ {n : ℕ} {t : PyStr} {p : List Json × PyStr},
    readElems n t = some p → p.2.length < t.length
  | 0, _, _, h => by simp [readElems] at h
  | n + 1, t, p, h => by
    rw [readElems] at h
    cases hv : readValue n t with
    | none => simp [hv] at h
    | some q =>
      obtain ⟨v, r⟩ := q
      have h₁ : r.length < t.length := readValue_length hv
      have h₂ := skipWs_length r
      cases hr : skipWs r with
      | nil => simp [hv, hr] at h
      | cons c r' =>
        have h₃ := skipWs_length r'
        simp only [hv, hr, List.length_cons] at h h₂
        split_ifs at h
        · obtain rfl := Option.some.inj h
          simp only
          omega
        · obtain ⟨q, hq, rfl⟩ := Option.map_eq_some_iff.1 h
          have h₄ := readElems_length hq
          simp only
          omega

theorem readMembers_length [FloatText] : ∀ {n : ℕ} {t : PyStr} {p : List (PyStr × Json) × PyStr},
    readMembers n t = some p → p.2.length < t.length
  | 0, _, _, h => by simp [readMembers] at h
  | _ + 1, [], _, h => by simp [readMembers] at h
  | n + 1, q :: t, p, h => by
    rw [readMembers] at h
    split_ifs at h
    cases hu : readUnits t with
    | none => simp [hu] at h
    | some u =>
      obtain ⟨us, r⟩ := u
      have h₁ : r.length < t.length := readUnits_length hu
      have h₂ := skipWs_length r
      cases hr : skipWs r with
      | nil => simp [hu, hr] at h
      | cons c r₁ =>
        have h₃ := skipWs_length r₁
        simp only [hu, hr, List.length_cons] at h h₂
        split_ifs at h
        cases hv : readValue n (skipWs r₁) with
        | none => simp [hv] at h
        | some w =>
          obtain ⟨v, r₂⟩ := w
          have h₄ : r₂.length < (skipWs r₁).length := readValue_length hv
          have h₅ := skipWs_length r₂
          cases hr₂ : skipWs r₂ with
          | nil => simp [hv, hr₂] at h
          | cons c r₃ =>
            have h₆ := skipWs_length r₃
            simp only [hv, hr₂, List.length_cons] at h h₅ ⊢
            split_ifs at h
            · obtain rfl := Option.some.inj h
              simp only
              omega
            · obtain ⟨q, hq, rfl⟩ := Option.map_eq_some_iff.1 h
              have h₇ := readMembers_length hq
              simp only
              omega

end

mutual

/-- **More fuel changes nothing** once there are two units a character: one for the value,
and one for the step to the next. -/
theorem readValue_fuel [FloatText] : ∀ {n m : ℕ} {t : PyStr},
    2 * t.length < n → n ≤ m → readValue n t = readValue m t
  | _ + 1, _ + 1, [], _, _ => rfl
  | n + 1, m + 1, c :: t, hn, hm => by
    have hs := skipWs_length t
    simp only [List.length_cons] at hn
    rw [readValue, readValue]
    cases ht : skipWs t with
    | nil => rfl
    | cons d r =>
      simp only [ht, List.length_cons] at hs
      have he : readElems n (d :: r) = readElems m (d :: r) :=
        readElems_fuel (by simp only [List.length_cons]; omega) (by omega)
      have hm : readMembers n (d :: r) = readMembers m (d :: r) :=
        readMembers_fuel (by simp only [List.length_cons]; omega) (by omega)
      simp only [he, hm]

/-- The same, of the elements of an array, with one unit more for the first of them. -/
theorem readElems_fuel [FloatText] : ∀ {n m : ℕ} {t : PyStr},
    2 * t.length + 1 < n → n ≤ m → readElems n t = readElems m t
  | n + 1, m + 1, t, hn, hm => by
    rw [readElems, readElems, ← readValue_fuel (n := n) (m := m) (by omega) (by omega)]
    cases hv : readValue n t with
    | none => rfl
    | some q =>
      obtain ⟨v, r⟩ := q
      have h₁ : r.length < t.length := readValue_length hv
      have h₂ := skipWs_length r
      cases hr : skipWs r with
      | nil => simp only [hr]
      | cons c r' =>
        have h₃ := skipWs_length r'
        simp only [hr, List.length_cons] at h₂
        have he : readElems n (skipWs r') = readElems m (skipWs r') :=
          readElems_fuel (by omega) (by omega)
        simp only [hr, he]

/-- The same, of the members of an object. -/
theorem readMembers_fuel [FloatText] : ∀ {n m : ℕ} {t : PyStr},
    2 * t.length + 1 < n → n ≤ m → readMembers n t = readMembers m t
  | _ + 1, _ + 1, [], _, _ => rfl
  | n + 1, m + 1, q :: t, hn, hm => by
    simp only [List.length_cons] at hn
    rw [readMembers, readMembers]
    cases hu : readUnits t with
    | none => rfl
    | some u =>
      obtain ⟨us, r⟩ := u
      have h₁ : r.length < t.length := readUnits_length hu
      have h₂ := skipWs_length r
      cases hr : skipWs r with
      | nil => simp only [hr]
      | cons c r₁ =>
        have h₃ := skipWs_length r₁
        simp only [hr, List.length_cons] at h₂
        have hv : readValue n (skipWs r₁) = readValue m (skipWs r₁) :=
          readValue_fuel (by omega) (by omega)
        simp only [hr, ← hv]
        cases hv : readValue n (skipWs r₁) with
        | none => rfl
        | some w =>
          obtain ⟨v, r₂⟩ := w
          have h₄ : r₂.length < (skipWs r₁).length := readValue_length hv
          have h₅ := skipWs_length r₂
          cases hr₂ : skipWs r₂ with
          | nil => simp only [hr₂]
          | cons c r₃ =>
            have h₆ := skipWs_length r₃
            simp only [hr₂, List.length_cons] at h₅
            have he : readMembers n (skipWs r₃) = readMembers m (skipWs r₃) :=
              readMembers_fuel (by omega) (by omega)
            simp only [hr₂, he]

end

end Json
end Pidprobe
