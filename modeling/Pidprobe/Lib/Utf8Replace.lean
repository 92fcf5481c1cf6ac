/-
# Lossy decoding

`bytes.decode("utf-8", errors="replace")`: the longest part of a malformed
sequence that begins a well-formed one becomes one `U+FFFD`.  On what the strict
decoder takes the two agree (`decodeReplace_of_decode`), and an ASCII text comes
from its own bytes only (`decodeReplace_eq_ascii`): neither a malformed sequence
nor a longer form decodes to an ASCII character.
-/

import Pidprobe.Lib.Utf8

namespace Pidprobe
namespace Utf8

/-- `U+FFFD`, which stands for what is no text. -/
def replacement : CodePoint := code 0xFFFD

/-- `data.decode("utf-8", errors="replace")`. -/
def decodeReplace : List Byte → PyStr
  | [] => []
  | a :: t =>
    if a.val < 0x80 then code a.val :: decodeReplace t
    else if 0xC2 ≤ a.val ∧ a.val ≤ 0xDF then
      match t with
      | b :: t₁ =>
        if isTail b then
          code ((a.val - 0xC0) * 64 + (b.val - 0x80)) :: decodeReplace t₁
        else replacement :: decodeReplace (b :: t₁)
      | [] => [replacement]
    else if 0xE0 ≤ a.val ∧ a.val ≤ 0xEF then
      match t with
      | b :: t₁ =>
        if isSecond₃ a b then
          match t₁ with
          | c :: t₂ =>
            if isTail c then
              code ((a.val - 0xE0) * 4096 + (b.val - 0x80) * 64 + (c.val - 0x80)) ::
                decodeReplace t₂
            else replacement :: decodeReplace (c :: t₂)
          | [] => [replacement]
        else replacement :: decodeReplace (b :: t₁)
      | [] => [replacement]
    else if 0xF0 ≤ a.val ∧ a.val ≤ 0xF4 then
      match t with
      | b :: t₁ =>
        if isSecond₄ a b then
          match t₁ with
          | c :: t₂ =>
            if isTail c then
              match t₂ with
              | d :: t₃ =>
                if isTail d then
                  code ((a.val - 0xF0) * 262144 + (b.val - 0x80) * 4096 + (c.val - 0x80) * 64 +
                    (d.val - 0x80)) :: decodeReplace t₃
                else replacement :: decodeReplace (d :: t₃)
              | [] => [replacement]
            else replacement :: decodeReplace (c :: t₂)
          | [] => [replacement]
        else replacement :: decodeReplace (b :: t₁)
      | [] => [replacement]
    else replacement :: decodeReplace t

/-- An ASCII byte stands for itself, wherever a character may begin. -/
theorem decodeReplace_cons_ascii {a : Byte} (h : a.val < 0x80) (t : List Byte) :
    decodeReplace (a :: t) = code a.val :: decodeReplace t := by
  rw [decodeReplace.eq_def]
  exact if_pos h

theorem not_isAscii_replacement : ¬IsAscii replacement := by decide

theorem not_isAscii_code {n : ℕ} (h : 0x80 ≤ n) (h' : n < 0x110000) : ¬IsAscii (code n) := by
  have hval : (code n).val = n := Nat.mod_eq_of_lt h'
  rw [IsAscii, hval]
  omega

/-- What another byte begins, well formed or not, starts with no ASCII character. -/
theorem decodeReplace_cons_other {a : Byte} (h : 0x80 ≤ a.val) (t : List Byte) :
    ∃ c s, ¬IsAscii c ∧ decodeReplace (a :: t) = c :: s := by
  have hlost : ∀ s, ∃ c s', ¬IsAscii c ∧ replacement :: s = c :: s' := fun s =>
    ⟨_, _, not_isAscii_replacement, rfl⟩
  have hchar : ∀ n s, 0x80 ≤ n → n < 0x110000 → ∃ c s', ¬IsAscii c ∧ code n :: s = c :: s' :=
    fun n s hn hn' => ⟨_, _, not_isAscii_code hn hn', rfl⟩
  generalize hbytes : a :: t = bytes
  fun_cases decodeReplace bytes with
  | case1 => cases hbytes
  | case2 => obtain ⟨rfl, rfl⟩ := List.cons.inj hbytes; omega
  | case3 a h₁ h₂ b t hb =>
    -- two bytes, from `C2`
    simp only [isTail, decide_eq_true_eq] at hb
    exact hchar _ _ (by omega) (by omega)
  | case6 a h₁ h₂ h₃ b hb c t hc =>
    -- three bytes: after `E0` the second is at least `A0`
    simp [isSecond₃, isTail] at hb hc
    exact hchar _ _ (by omega) (by omega)
  | case11 a h₁ h₂ h₃ h₄ b hb c hc d t hd =>
    -- four bytes: after `F0` the second is at least `90`, after `F4` at most `8F`
    simp [isSecond₄, isTail] at hb hc hd
    exact hchar _ _ (by omega) (by omega)
  | _ => exact hlost _

/-- **ASCII text is decoded from its own bytes only**: no byte that is no text is taken for
it. -/
theorem decodeReplace_eq_ascii {bytes : List Byte} {s : PyStr} (h : ∀ c ∈ s, IsAscii c) :
    decodeReplace bytes = s ↔ bytes = s.map fun c => byte c.val := by
  induction bytes generalizing s with
  | nil => cases s <;> simp [decodeReplace]
  | cons a t ih =>
    cases s with
    | nil =>
      rcases lt_or_ge a.val 0x80 with ha | ha
      · simp [decodeReplace_cons_ascii ha]
      · obtain ⟨c, s', -, heq⟩ := decodeReplace_cons_other ha t
        simp [heq]
    | cons c s =>
      obtain ⟨hc, hs⟩ := List.forall_mem_cons.1 h
      have hc' : c.val < 0x80 := hc
      have hbyte : (byte c.val).val = c.val := byte_val (by omega)
      rcases lt_or_ge a.val 0x80 with ha | ha
      · have hhead : code a.val = c ↔ a = byte c.val := by
          have hval : (code a.val).val = a.val := Nat.mod_eq_of_lt (by omega)
          rw [Fin.ext_iff, Fin.ext_iff, hval, hbyte]
        rw [decodeReplace_cons_ascii ha, List.map_cons, List.cons.injEq, List.cons.injEq, hhead,
          ih hs]
      · obtain ⟨d, s', hd, heq⟩ := decodeReplace_cons_other ha t
        rw [heq]
        constructor
        · intro h
          exact absurd ((List.cons.inj h).1 ▸ hc) hd
        · intro h
          have hval : a.val = c.val := ((List.cons.inj h).1 ▸ hbyte)
          omega

/-- **Where the strict decoder succeeds, nothing is replaced.** -/
theorem decodeReplace_of_decode {bytes : List Byte} {s : PyStr} (h : decode bytes = some s) :
    decodeReplace bytes = s := by
  fun_induction decode bytes generalizing s with
  | case1 => exact Option.some.inj h
  | case2 a t h₁ ih =>
    obtain ⟨s, hs, rfl⟩ := Option.map_eq_some_iff.1 h
    rw [decodeReplace_cons_ascii h₁, ih hs]
  | case3 a h₁ h₂ b t hb ih =>
    obtain ⟨s, hs, rfl⟩ := Option.map_eq_some_iff.1 h
    rw [decodeReplace.eq_def]
    simp only
    rw [if_neg h₁, if_pos h₂, if_pos hb, ih hs]
  | case6 a h₁ h₂ h₃ b c t hbc ih =>
    obtain ⟨hb, hc⟩ := Bool.and_eq_true_iff.1 hbc
    obtain ⟨s, hs, rfl⟩ := Option.map_eq_some_iff.1 h
    rw [decodeReplace.eq_def]
    simp only
    rw [if_neg h₁, if_neg h₂, if_pos h₃, if_pos hb, if_pos hc, ih hs]
  | case9 a h₁ h₂ h₃ h₄ b c d t hbcd ih =>
    obtain ⟨hbc, hd⟩ := Bool.and_eq_true_iff.1 hbcd
    obtain ⟨hb, hc⟩ := Bool.and_eq_true_iff.1 hbc
    obtain ⟨s, hs, rfl⟩ := Option.map_eq_some_iff.1 h
    rw [decodeReplace.eq_def]
    simp only
    rw [if_neg h₁, if_neg h₂, if_neg h₃, if_pos h₄, if_pos hb, if_pos hc, if_pos hd, ih hs]
  | _ => cases h

/-- An ASCII byte of an encoding is an ASCII character of the text: longer encodings hold
none. -/
theorem mem_of_mem_encode {s : PyStr} {bytes : List Byte} (h : encode s = some bytes)
    {c : CodePoint} (hc : IsAscii c) (hmem : byte c.val ∈ bytes) : c ∈ s := by
  induction s generalizing bytes with
  | nil =>
    obtain rfl := Option.some.inj h
    cases hmem
  | cons d s ih =>
    simp only [encode, Option.bind_eq_bind, Option.bind_eq_some_iff] at h
    obtain ⟨head, hd, tail, hs, h⟩ := h
    obtain rfl := Option.some.inj h
    rcases List.mem_append.1 hmem with hmem | hmem
    · have hhead : c = d := by
        have hlt := d.isLt
        have hascii : c.val < 0x80 := hc
        refine Fin.ext ?_
        unfold encodeChar at hd
        simp only at hd
        -- only the one-byte form has a byte below `80`
        split_ifs at hd <;> obtain rfl := Option.some.inj hd <;>
          simp only [List.mem_cons, List.not_mem_nil, or_false, Fin.ext_iff, byte,
            Fin.val_ofNat] at hmem <;>
          omega
      exact hhead ▸ List.mem_cons_self ..
    · exact List.mem_cons_of_mem _ (ih hs hmem)

end Utf8
end Pidprobe
