/-
# Reading twice

`json.loads(json.dumps(value))` loses two things: a repeated key keeps its last
value, and the two halves of a surrogate pair become one character.  What was read
once has neither left, so a value that is passed on as JSON again and again is the
same from the first reader on (`reread_reread`).
-/

import Pidprobe.Lib.JsonLayout

namespace Pidprobe
namespace Json

/-! ## Strings -/

/-- A unit the writer produces: a plain character is an ASCII one, and all others are
escaped. -/
def StrUnit.Written : StrUnit → Prop
  | .plain c => IsAscii c
  | .escape _ => True

theorem units_written (c : CodePoint) : ∀ u ∈ units c, u.Written := by
  have hshort : ∀ c e : CodePoint, shortEscape c = some e → IsAscii c := by
    intro c e h
    unfold shortEscape at h
    split_ifs at h <;> first | (subst c; decide) | (rw [IsAscii]; omega)
  intro u hu
  unfold units at hu
  split_ifs at hu with hplain
  · obtain rfl := List.mem_singleton.1 hu
    rcases hplain with h | h
    · obtain ⟨e, he⟩ := Option.isSome_iff_exists.1 h
      exact hshort c e he
    · show c.val < 0x80
      omega
  · obtain rfl := List.mem_singleton.1 hu
    trivial
  · rcases List.mem_cons.1 hu with rfl | hu
    · trivial
    · obtain rfl := List.mem_singleton.1 hu
      trivial

theorem val_code {n : ℕ} (h : n < 0x110000) : (Utf8.code n).val = n := by
  rw [Utf8.code, Fin.val_ofNat, Nat.mod_eq_of_lt h]

/-- A text that starts with a low surrogate was written as one. -/
theorem lowHead_of_fuse {us : List StrUnit} (hus : ∀ u ∈ us, u.Written) {c : CodePoint}
    {t : PyStr} (h : fuse us = c :: t) (hc : isLow c.val = true) : LowHead us := by
  match us, hus, h with
  | .plain d :: us, hus, h =>
    obtain ⟨rfl, -⟩ := List.cons_eq_cons.1 h
    have hascii : d.val < 0x80 := hus _ (List.mem_cons_self ..)
    simp only [isLow, decide_eq_true_eq] at hc
    omega
  | [.escape n], _, h =>
    obtain ⟨rfl, -⟩ := List.cons_eq_cons.1 h
    rwa [val_code (by omega)] at hc
  | .escape n :: .plain d :: us, _, h =>
    obtain ⟨rfl, -⟩ := List.cons_eq_cons.1 h
    rwa [val_code (by omega)] at hc
  | .escape n :: .escape l :: us, _, h =>
    have hn := n.isLt
    have hl := l.isLt
    rw [fuse] at h
    split_ifs at h with hpair
    · obtain ⟨rfl, -⟩ := List.cons_eq_cons.1 h
      simp only [isHigh, isLow, Bool.and_eq_true, decide_eq_true_eq] at hpair hc
      rw [val_code (by omega)] at hc
      omega
    · obtain ⟨rfl, -⟩ := List.cons_eq_cons.1 h
      rwa [val_code (by omega)] at hc

/-- No pair is left split: whatever is written as two halves is read as one character. -/
theorem noSplitPair_fuse : ∀ {us : List StrUnit}, (∀ u ∈ us, u.Written) → NoSplitPair (fuse us)
  | [], _ => List.isChain_nil
  | .plain d :: us, hus => by
    have hascii : d.val < 0x80 := hus _ (List.mem_cons_self ..)
    rw [fuse]
    refine List.isChain_cons.2 ⟨fun c _ hpair => ?_, noSplitPair_fuse fun u hu =>
      hus u (List.mem_cons_of_mem _ hu)⟩
    simp only [isHigh, decide_eq_true_eq] at hpair
    omega
  | [.escape n], _ => List.isChain_singleton _
  | .escape n :: .plain d :: us, hus => by
    have hrest : ∀ u ∈ .plain d :: us, StrUnit.Written u := fun u hu =>
      hus u (List.mem_cons_of_mem _ hu)
    refine List.isChain_cons.2 ⟨fun c hc hpair => ?_, noSplitPair_fuse hrest⟩
    obtain ⟨t, ht⟩ := List.head?_eq_some_iff.1 hc
    exact lowHead_of_fuse hrest ht hpair.2
  | .escape n :: .escape l :: us, hus => by
    have hn := n.isLt
    have hl := l.isLt
    have hrest : ∀ u ∈ .escape l :: us, StrUnit.Written u := fun u hu =>
      hus u (List.mem_cons_of_mem _ hu)
    rw [fuse]
    split_ifs with hfused
    · refine List.isChain_cons.2 ⟨fun c _ hpair => ?_, noSplitPair_fuse fun u hu =>
        hrest u (List.mem_cons_of_mem _ hu)⟩
      simp only [isHigh, isLow, Bool.and_eq_true, decide_eq_true_eq] at hfused hpair
      rw [val_code (by omega)] at hpair
      omega
    · refine List.isChain_cons.2 ⟨fun c hc hpair => hfused ?_, noSplitPair_fuse hrest⟩
      obtain ⟨t, ht⟩ := List.head?_eq_some_iff.1 hc
      rw [val_code (by omega)] at hpair
      exact Bool.and_eq_true_iff.2 ⟨hpair.1, lowHead_of_fuse hrest ht hpair.2⟩

/-- So no text that was read has a pair in two halves. -/
theorem noSplitPair_rereadStr (s : PyStr) : NoSplitPair (rereadStr s) :=
  noSplitPair_fuse fun u hu => by
    obtain ⟨c, -, hc⟩ := List.mem_flatMap.1 hu
    exact units_written c u hc

/-- Reading it a second time changes nothing. -/
@[simp] theorem rereadStr_rereadStr (s : PyStr) : rereadStr (rereadStr s) = rereadStr s :=
  fuse_units (noSplitPair_rereadStr s)

/-! ## Values -/

theorem uniqueKeysElems_iff {xs : List Json} : UniqueKeysElems xs ↔ ∀ x ∈ xs, UniqueKeys x := by
  induction xs with
  | nil => simp [UniqueKeysElems]
  | cons x xs ih => rw [UniqueKeysElems, ih, List.forall_mem_cons]

theorem uniqueKeysMembers_iff {ms : List (PyStr × Json)} :
    UniqueKeysMembers ms ↔ ∀ kv ∈ ms, UniqueKeys kv.2 := by
  induction ms with
  | nil => simp [UniqueKeysMembers]
  | cons kv ms ih => rw [UniqueKeysMembers, ih, List.forall_mem_cons]

theorem noSplitPairsElems_iff {xs : List Json} :
    NoSplitPairsElems xs ↔ ∀ x ∈ xs, NoSplitPairs x := by
  induction xs with
  | nil => simp [NoSplitPairsElems]
  | cons x xs ih => rw [NoSplitPairsElems, ih, List.forall_mem_cons]

theorem noSplitPairsMembers_iff {ms : List (PyStr × Json)} :
    NoSplitPairsMembers ms ↔ ∀ kv ∈ ms, NoSplitPair kv.1 ∧ NoSplitPairs kv.2 := by
  induction ms with
  | nil => simp [NoSplitPairsMembers]
  | cons kv ms ih => rw [NoSplitPairsMembers, ih, List.forall_mem_cons, and_assoc]

mutual

/-- What was read repeats no key, in any object of it. -/
theorem uniqueKeys_reread : ∀ v : Json, UniqueKeys v.reread
  | .null | .bool _ | .int _ | .float _ | .str _ => trivial
  | .arr xs => uniqueKeysElems_iff.2 (uniqueKeys_rereadElems xs)
  | .obj ms =>
    ⟨Dict.nodupKeys_nil.foldl_set _, uniqueKeysMembers_iff.2 fun _ hkv =>
      uniqueKeys_rereadMembers ms _ (Dict.mem_ofPairs hkv)⟩

theorem uniqueKeys_rereadElems : ∀ xs : List Json, ∀ x ∈ rereadElems xs, UniqueKeys x
  | [] => List.forall_mem_nil _
  | x :: xs => List.forall_mem_cons.2 ⟨uniqueKeys_reread x, uniqueKeys_rereadElems xs⟩

theorem uniqueKeys_rereadMembers : ∀ ms : List (PyStr × Json), ∀ kv ∈ rereadMembers ms,
    UniqueKeys kv.2
  | [] => List.forall_mem_nil _
  | (_, v) :: ms => List.forall_mem_cons.2 ⟨uniqueKeys_reread v, uniqueKeys_rereadMembers ms⟩

end

mutual

/-- Nor does it split a pair, in any text or key of it. -/
theorem noSplitPairs_reread : ∀ v : Json, NoSplitPairs v.reread
  | .null | .bool _ | .int _ | .float _ => trivial
  | .str s => noSplitPair_rereadStr s
  | .arr xs => noSplitPairsElems_iff.2 (noSplitPairs_rereadElems xs)
  | .obj ms => noSplitPairsMembers_iff.2 fun _ hkv =>
    noSplitPairs_rereadMembers ms _ (Dict.mem_ofPairs hkv)

theorem noSplitPairs_rereadElems : ∀ xs : List Json, ∀ x ∈ rereadElems xs, NoSplitPairs x
  | [] => List.forall_mem_nil _
  | x :: xs => List.forall_mem_cons.2 ⟨noSplitPairs_reread x, noSplitPairs_rereadElems xs⟩

theorem noSplitPairs_rereadMembers : ∀ ms : List (PyStr × Json), ∀ kv ∈ rereadMembers ms,
    NoSplitPair kv.1 ∧ NoSplitPairs kv.2
  | [] => List.forall_mem_nil _
  | (k, v) :: ms => List.forall_mem_cons.2 ⟨⟨noSplitPair_rereadStr k, noSplitPairs_reread v⟩,
      noSplitPairs_rereadMembers ms⟩

end

/-- **A second reader sees what the first one saw.** -/
@[simp] theorem reread_reread (v : Json) : v.reread.reread = v.reread :=
  reread_eq_self (uniqueKeys_reread v) (noSplitPairs_reread v)

/-! ## Floats -/

section

variable [FloatText]

theorem readsBackElems_iff {xs : List Json} : ReadsBackElems xs ↔ ∀ x ∈ xs, ReadsBack x := by
  induction xs with
  | nil => simp [ReadsBackElems]
  | cons x xs ih => rw [ReadsBackElems, ih, List.forall_mem_cons]

theorem readsBackMembers_iff {ms : List (PyStr × Json)} :
    ReadsBackMembers ms ↔ ∀ kv ∈ ms, ReadsBack kv.2 := by
  induction ms with
  | nil => simp [ReadsBackMembers]
  | cons kv ms ih => rw [ReadsBackMembers, ih, List.forall_mem_cons]

mutual

/-- The floats of what was read are those that were written, so they are read back once
more. -/
theorem readsBack_reread : ∀ {v : Json}, ReadsBack v → ReadsBack v.reread
  | .null, _ | .bool _, _ | .int _, _ | .str _, _ => trivial
  | .float _, h => h
  | .arr _, h => readsBackElems_iff.2 (readsBack_rereadElems h)
  | .obj _, h => readsBackMembers_iff.2 fun _ hkv =>
    readsBack_rereadMembers h _ (Dict.mem_ofPairs hkv)

theorem readsBack_rereadElems : ∀ {xs : List Json}, ReadsBackElems xs →
    ∀ x ∈ rereadElems xs, ReadsBack x
  | [], _ => List.forall_mem_nil _
  | _ :: _, h => List.forall_mem_cons.2 ⟨readsBack_reread h.1, readsBack_rereadElems h.2⟩

theorem readsBack_rereadMembers : ∀ {ms : List (PyStr × Json)}, ReadsBackMembers ms →
    ∀ kv ∈ rereadMembers ms, ReadsBack kv.2
  | [], _ => List.forall_mem_nil _
  | (_, _) :: _, h => List.forall_mem_cons.2 ⟨readsBack_reread h.1, readsBack_rereadMembers h.2⟩

end

end

/-! ### Whole floats -/

/-- The fraction `.0`, and what may follow a number. -/
theorem fracPart_zero {r : PyStr} (hr : NumberEnd r) :
    fracPart (cp '.' :: cp '0' :: r) = ([cp '.', cp '0'], r) := by
  have hzero : ∀ c ∈ [cp '0'], isDigit c = true := List.forall_mem_singleton.2 rfl
  obtain ⟨htake, hdrop⟩ := takeWhile_isDigit hzero hr
  rw [List.singleton_append] at htake hdrop
  rw [fracPart, htake, hdrop, if_pos ⟨rfl, List.cons_ne_nil _ _⟩]

/-- Digits before a point: no sign, and all of them the integer part. -/
theorem parts_digitText_point {ds : PyStr} (h : DigitText ds) (hne : ds ≠ []) (t : PyStr) :
    signPart (ds ++ cp '.' :: t) = ([], ds ++ cp '.' :: t) ∧
      intPart (ds ++ cp '.' :: t) = (ds, cp '.' :: t) := by
  have hpoint : ¬isDigit (cp '.') = true := by decide
  obtain ⟨c, u, rfl⟩ := List.exists_cons_of_ne_nil hne
  rw [List.cons_append, signPart, intPart]
  refine ⟨if_neg ?_, ?_⟩
  · rintro rfl
    exact absurd (h.1 _ (List.mem_cons_self ..)) (by decide)
  split_ifs with hc
  · subst hc
    obtain rfl := h.2 u rfl
    rfl
  · rw [← List.cons_append, List.takeWhile_append_of_pos h.1, List.dropWhile_append_of_pos h.1,
      List.takeWhile_cons_of_neg hpoint, List.dropWhile_cons_of_neg hpoint, List.append_nil]

/-- Whole floats are read back, with the texts `wholeFloats` has for them. -/
theorem floatReadsBack_whole (n : ℕ) :
    letI := wholeFloats
    FloatReadsBack (.finite n) := by
  let _ := wholeFloats
  have hrepr : ∀ r, floatText (.finite n) ++ r = decimal n ++ cp '.' :: cp '0' :: r := by
    intro r
    have hfloor : floatText (.finite n) = decimal n ++ [cp '.', cp '0'] := by
      show intText (n : ℚ).floor ++ py ".0" = _
      rw [← Int.cast_natCast, Rat.floor_intCast]
      rfl
    rw [hfloor, List.append_assoc]
    rfl
  refine ⟨repr_numberText n, fun r hr => ?_⟩
  obtain ⟨hsign, hint⟩ := parts_digitText_point (decimal_digitText n) (decimal_ne_nil n)
    (cp '0' :: r)
  have hread : FloatText.read ([] ++ decimal n ++ [cp '.', cp '0'] ++ []) = .finite n := by
    obtain ⟨hsign, hint⟩ := parts_digitText_point (decimal_digitText n) (decimal_ne_nil n) [cp '0']
    show PyFloat.finite _ = _
    simp only [List.nil_append, List.append_nil, readDigits, hsign, hint, ofDigits_decimal]
    rfl
  rw [hrepr]
  simp only [readNumber, hsign, hint, fracPart_zero hr, expPart_numberEnd hr, decimal_ne_nil,
    List.cons_ne_nil, false_and, if_false, hread]

end Json
end Pidprobe
