/-
# UTF-8

`str.encode("utf-8")` and `bytes.decode("utf-8")` in their strict mode: the
encoder refuses surrogates, the decoder refuses every byte sequence that is not
the shortest form of a scalar value.  `decode_encode` is the round trip,
`encode_ascii` says that ASCII text is its own encoding, one byte a character, and
`encode_eq_none` that nothing but a surrogate is refused.
-/

import Pidprobe.Lib.Text

namespace Pidprobe

/-- A byte. -/
abbrev Byte := Fin 256

namespace Utf8

/-- The code points UTF-16 reserves for its pairs, which UTF-8 has no bytes for. -/
def IsSurrogate (c : CodePoint) : Prop := 0xD800 ≤ c.val ∧ c.val ≤ 0xDFFF

instance (c : CodePoint) : Decidable (IsSurrogate c) := inferInstanceAs (Decidable (_ ∧ _))

/-- A byte from its value, of which it takes the last eight bits. -/
def byte (n : ℕ) : Byte := Fin.ofNat 256 n

/-- A code point from its value. -/
def code (n : ℕ) : CodePoint := Fin.ofNat 0x110000 n

theorem byte_val {n : ℕ} (h : n < 256) : (byte n).val = n := Nat.mod_eq_of_lt h

theorem code_val (c : CodePoint) : code c.val = c := Fin.ext (Nat.mod_eq_of_lt c.isLt)

/-- The encoding of one code point, of one byte to four; surrogates have none. -/
def encodeChar (c : CodePoint) : Option (List Byte) :=
  let n := c.val
  if n < 0x80 then some [byte n]
  else if n < 0x800 then some [byte (0xC0 + n / 64), byte (0x80 + n % 64)]
  else if IsSurrogate c then none
  else if n < 0x10000 then
    some [byte (0xE0 + n / 4096), byte (0x80 + n / 64 % 64), byte (0x80 + n % 64)]
  else
    some [byte (0xF0 + n / 262144), byte (0x80 + n / 4096 % 64), byte (0x80 + n / 64 % 64),
      byte (0x80 + n % 64)]

/-- `text.encode("utf-8")`; `none` is `UnicodeEncodeError`. -/
def encode : PyStr → Option (List Byte)
  | [] => some []
  | c :: s => do
    let head ← encodeChar c
    let tail ← encode s
    return head ++ tail

/-- A continuation byte `10xxxxxx`, which begins no character. -/
def isTail (b : Byte) : Bool := 0x80 ≤ b.val ∧ b.val ≤ 0xBF

/-- The second byte a lead byte of a three-byte form allows: no overlong form
after `E0`, no surrogate after `ED`. -/
def isSecond₃ (a b : Byte) : Bool :=
  isTail b && !(a.val = 0xE0 && b.val < 0xA0) && !(a.val = 0xED && 0x9F < b.val)

/-- The second byte a lead byte of a four-byte form allows: no overlong form
after `F0`, nothing above `U+10FFFF` after `F4`. -/
def isSecond₄ (a b : Byte) : Bool :=
  isTail b && !(a.val = 0xF0 && b.val < 0x90) && !(a.val = 0xF4 && 0x8F < b.val)

/-- `data.decode("utf-8")`; `none` is `UnicodeDecodeError`. -/
def decode : List Byte → Option PyStr
  | [] => some []
  | a :: t =>
    if a.val < 0x80 then (decode t).map (code a.val :: ·)
    else if 0xC2 ≤ a.val ∧ a.val ≤ 0xDF then
      match t with
      | b :: t =>
        if isTail b then (decode t).map (code ((a.val - 0xC0) * 64 + (b.val - 0x80)) :: ·)
        else none
      | [] => none
    else if 0xE0 ≤ a.val ∧ a.val ≤ 0xEF then
      match t with
      | b :: c :: t =>
        if isSecond₃ a b && isTail c then
          (decode t).map
            (code ((a.val - 0xE0) * 4096 + (b.val - 0x80) * 64 + (c.val - 0x80)) :: ·)
        else none
      | _ => none
    else if 0xF0 ≤ a.val ∧ a.val ≤ 0xF4 then
      match t with
      | b :: c :: d :: t =>
        if isSecond₄ a b && isTail c && isTail d then
          (decode t).map (code ((a.val - 0xF0) * 262144 + (b.val - 0x80) * 4096 +
            (c.val - 0x80) * 64 + (d.val - 0x80)) :: ·)
        else none
      | _ => none
    else none

/-- Decoding takes one encoded code point off the front, and goes on behind it. -/
theorem decode_encodeChar {c : CodePoint} {bs : List Byte} (h : encodeChar c = some bs)
    (t : List Byte) : decode (bs ++ t) = (decode t).map (c :: ·) := by
  have hc := c.isLt
  unfold encodeChar at h
  simp only at h
  split_ifs at h with h₁ h₂ hs h₃ <;> obtain rfl := Option.some.inj h
  · have ha := byte_val (n := c.val) (by omega)
    rw [List.singleton_append, decode.eq_def]
    simp only [ha]
    rw [if_pos h₁, code_val]
  · have ha := byte_val (n := 0xC0 + c.val / 64) (by omega)
    have hb := byte_val (n := 0x80 + c.val % 64) (by omega)
    simp only [List.cons_append, List.nil_append]
    rw [decode.eq_def]
    simp only [isTail, ha, hb]
    rw [if_neg (by omega), if_pos (by omega)]
    rw [if_pos (by simp; omega),
      show (0xC0 + c.val / 64 - 0xC0) * 64 + (0x80 + c.val % 64 - 0x80) = c.val by omega, code_val]
  · have ha := byte_val (n := 0xE0 + c.val / 4096) (by omega)
    have hb := byte_val (n := 0x80 + c.val / 64 % 64) (by omega)
    have hd := byte_val (n := 0x80 + c.val % 64) (by omega)
    have hs' : ¬(0xD800 ≤ c.val ∧ c.val ≤ 0xDFFF) := hs
    simp only [List.cons_append, List.nil_append]
    rw [decode.eq_def]
    simp only [isSecond₃, isTail, ha, hb, hd]
    rw [if_neg (by omega), if_neg (by omega), if_pos (by omega)]
    rw [if_pos (by simp; omega),
      show (0xE0 + c.val / 4096 - 0xE0) * 4096 + (0x80 + c.val / 64 % 64 - 0x80) * 64 +
        (0x80 + c.val % 64 - 0x80) = c.val by omega, code_val]
  · have ha := byte_val (n := 0xF0 + c.val / 262144) (by omega)
    have hb := byte_val (n := 0x80 + c.val / 4096 % 64) (by omega)
    have hd := byte_val (n := 0x80 + c.val / 64 % 64) (by omega)
    have he := byte_val (n := 0x80 + c.val % 64) (by omega)
    simp only [List.cons_append, List.nil_append]
    rw [decode.eq_def]
    simp only [isSecond₄, isTail, ha, hb, hd, he]
    rw [if_neg (by omega), if_neg (by omega), if_neg (by omega), if_pos (by omega)]
    rw [if_pos (by simp; omega),
      show (0xF0 + c.val / 262144 - 0xF0) * 262144 + (0x80 + c.val / 4096 % 64 - 0x80) * 4096 +
        (0x80 + c.val / 64 % 64 - 0x80) * 64 + (0x80 + c.val % 64 - 0x80) = c.val by omega,
      code_val]

/-- **What was encoded is decoded**, whatever text it was. -/
theorem decode_encode {s : PyStr} {bs : List Byte} (h : encode s = some bs) :
    decode bs = some s := by
  induction s generalizing bs with
  | nil => obtain rfl := Option.some.inj h; rfl
  | cons c s ih =>
    simp only [encode, Option.bind_eq_bind, Option.bind_eq_some_iff] at h
    obtain ⟨head, hc, tail, hs, h⟩ := h
    obtain rfl := Option.some.inj h
    rw [decode_encodeChar hc, ih hs, Option.map_some]

/-- Only the empty sequence decodes to the empty text: every character takes a byte. -/
theorem decode_eq_nil {bytes : List Byte} : decode bytes = some [] ↔ bytes = [] := by
  refine ⟨fun h => ?_, fun h => h ▸ rfl⟩
  unfold decode at h
  split at h
  · rfl
  · split_ifs at h
    · simp at h
    all_goals
      split at h
      · split_ifs at h
        simp at h
      · cases h

/-- ASCII text is encoded one byte a character. -/
theorem encode_ascii {s : PyStr} (h : ∀ c ∈ s, IsAscii c) :
    encode s = some (s.map fun c => byte c.val) := by
  induction s with
  | nil => rfl
  | cons c s ih =>
    have hc : c.val < 0x80 := h c (List.mem_cons_self ..)
    rw [encode, ih fun d hd => h d (List.mem_cons_of_mem _ hd), encodeChar]
    simp [hc]

/-- The parts of a text are encoded one by one. -/
theorem encode_append {s t : PyStr} {bs cs : List Byte} (hs : encode s = some bs)
    (ht : encode t = some cs) : encode (s ++ t) = some (bs ++ cs) := by
  induction s generalizing bs with
  | nil =>
    obtain rfl := Option.some.inj hs
    exact ht
  | cons c s ih =>
    obtain ⟨head, hhead, hs⟩ := Option.bind_eq_some_iff.1 hs
    obtain ⟨tail, htail, hs⟩ := Option.bind_eq_some_iff.1 hs
    obtain rfl := Option.some.inj hs
    rw [List.cons_append, encode, hhead, ih htail, List.append_assoc]
    rfl

/-- A code point has no encoding where it is a surrogate. -/
theorem encodeChar_eq_none {c : CodePoint} : encodeChar c = none ↔ IsSurrogate c := by
  unfold encodeChar
  dsimp only
  split_ifs with h₁ h₂ h₃ h₄
  · exact iff_of_false (by simp) (by unfold IsSurrogate; omega)
  · exact iff_of_false (by simp) (by unfold IsSurrogate; omega)
  · exact iff_of_true rfl h₃
  · exact iff_of_false (by simp) h₃
  · exact iff_of_false (by simp) h₃

/-- **Only surrogates have no encoding**: one of them is enough. -/
theorem encode_eq_none {s : PyStr} : encode s = none ↔ ∃ c ∈ s, IsSurrogate c := by
  induction s with
  | nil => simp [encode]
  | cons c s ih =>
    rw [List.exists_mem_cons_iff, ← ih, ← encodeChar_eq_none, encode]
    rcases encodeChar c with _ | head
    · simp
    · rcases encode s with _ | tail <;> simp

end Utf8
end Pidprobe
