/-
# Which spellings of a name are secret

`is_secret_name` lower-cases a name, drops what is not alphanumeric and looks for
a pattern anywhere in the rest.  So characters that are not alphanumeric and the
case of ASCII letters do not change its verdict, and what stands around a secret
name does not hide it (`secret_spellings`).

Lower-casing is no map of characters, because of the final sigma; no pattern has
one, so the two small sigmas can be taken for one (`isSecretName_iff`).
-/

import Pidprobe.Lib.CaseMapping
import Pidprobe.SafeRepr

namespace Pidprobe
namespace SafeRepr

/-! ## The verdict, character by character -/

/-- A pattern is found where it is found after the two small sigmas are taken for
one. -/
theorem contains_map_foldSigma {pattern text : PyStr} (h : ∀ c ∈ pattern, IsAscii c) :
    contains pattern (text.map foldSigma) = contains pattern text := by
  have hid : ∀ s : PyStr, s.map foldSigma = pattern ↔ s = pattern := by
    intro s
    induction pattern generalizing s with
    | nil => exact List.map_eq_nil_iff
    | cons c pattern ih =>
      obtain ⟨hc, hp⟩ := List.forall_mem_cons.1 h
      cases s with
      | nil => simp
      | cons d s => rw [List.map_cons, List.cons.injEq, List.cons.injEq, foldSigma_ascii hc, ih hp]
  rw [contains, contains, decide_eq_decide]
  constructor
  · rintro ⟨before, after, heq⟩
    obtain ⟨front, s, rfl, hfront, -⟩ := List.map_eq_append_iff.1 heq.symm
    obtain ⟨b, p, rfl, -, hp⟩ := List.map_eq_append_iff.1 hfront
    exact ⟨b, s, by rw [(hid p).1 hp]⟩
  · rintro ⟨before, after, rfl⟩
    refine ⟨before.map foldSigma, after.map foldSigma, ?_⟩
    rw [List.map_append, List.map_append, (hid pattern).2 rfl]

/-- The patterns are ASCII, so lower-casing leaves them alone. -/
theorem ascii_secretNamePatterns : ∀ pattern ∈ secretNamePatterns, ∀ c ∈ pattern, IsAscii c := by
  intro pattern hp
  simp only [secretNamePatterns, List.mem_cons, List.not_mem_nil, or_false] at hp
  rcases hp with rfl | rfl | rfl | rfl | rfl | rfl | rfl | rfl | rfl | rfl | rfl <;>
    exact ascii_py (by decide)

section

variable [Unicode] [CaseMapping]

/-- A name is secret where a pattern is found in what its characters contribute, character
by character. -/
theorem isSecretName_iff {name : PyStr} :
    isSecretName name = true ↔
      ∃ pattern ∈ secretNamePatterns, pattern <:+: name.flatMap CaseMapping.contribution := by
  rw [isSecretName, isSecretLowered, List.any_eq_true, ← CaseMapping.filter_lower]
  refine exists_congr fun pattern => and_congr_right fun hp => ?_
  rw [← contains_map_foldSigma (ascii_secretNamePatterns pattern hp), contains, decide_eq_true_eq]

/-! ## Spellings -/

omit [CaseMapping] in
/-- One edit of how a name is spelt. Separators come and go, and ASCII letters change their
case; no letter or digit is added. -/
inductive Respells : PyStr → PyStr → Prop
  /-- A character that is not alphanumeric is inserted. -/
  | insert {c : CodePoint} (h : Unicode.isalnum c = false) (before after : PyStr) :
    Respells (before ++ after) (before ++ c :: after)
  /-- A character that is not alphanumeric is removed. -/
  | remove {c : CodePoint} (h : Unicode.isalnum c = false) (before after : PyStr) :
    Respells (before ++ c :: after) (before ++ after)
  /-- The case of an ASCII letter is changed. -/
  | recase {c d : CodePoint} (h : asciiLower c = asciiLower d) (before after : PyStr) :
    Respells (before ++ c :: after) (before ++ d :: after)

omit [CaseMapping] in
/-- One edit that may add to a name: another spelling, or any text in front of it and behind
it. -/
inductive Edits : PyStr → PyStr → Prop
  | respell {name name' : PyStr} (h : Respells name name') : Edits name name'
  | extend (before name after : PyStr) : Edits name (before ++ name ++ after)

/-- A name spelt otherwise contributes the same: what is inserted or removed contributes
nothing, and a letter the same in either case. -/
theorem Respells.flatMap_eq {name name' : PyStr} (h : Respells name name') :
    name.flatMap CaseMapping.contribution = name'.flatMap CaseMapping.contribution := by
  cases h with
  | insert h =>
    rw [List.flatMap_append, List.flatMap_append, List.flatMap_cons,
      CaseMapping.contribution_eq_nil h, List.nil_append]
  | remove h =>
    rw [List.flatMap_append, List.flatMap_append, List.flatMap_cons,
      CaseMapping.contribution_eq_nil h, List.nil_append]
  | recase h =>
    rw [List.flatMap_append, List.flatMap_append, List.flatMap_cons, List.flatMap_cons,
      CaseMapping.contribution_congr h]

/-- Names that differ in the case of their letters are secret together. -/
theorem Respells.isSecretName_eq {name name' : PyStr} (h : Respells name name') :
    isSecretName name = isSecretName name' := by
  rw [Bool.eq_iff_iff, isSecretName_iff, isSecretName_iff, h.flatMap_eq]

/-- What is added around a secret name does not hide it: the pattern is still found in the
middle. -/
theorem Edits.isSecretName {name name' : PyStr} (h : Edits name name')
    (hs : isSecretName name = true) : isSecretName name' = true := by
  cases h with
  | respell h => rw [← h.isSecretName_eq, hs]
  | extend before _ after =>
    obtain ⟨pattern, hp, hinfix⟩ := isSecretName_iff.1 hs
    refine isSecretName_iff.2 ⟨pattern, hp, hinfix.trans ?_⟩
    rw [List.flatMap_append, List.flatMap_append]
    exact List.infix_append _ _ _

/-- **Case and separators cannot defeat masking.**  Any number of edits of how a
name is spelt leave the verdict on it as it is, and a name obtained from a secret
one by such edits and by additions before and behind it is secret, so that its
value is masked. -/
theorem secret_spellings :
    (∀ name name' : PyStr, Relation.ReflTransGen Respells name name' →
      isSecretName name = isSecretName name') ∧
    ∀ name name' : PyStr, Relation.ReflTransGen Edits name name' → isSecretName name = true →
      isSecretName name' = true ∧ ∀ {ε α : Type} [PyException ε] [PyObject ε α] (value : α),
        safeReprNamed name' true value = .ok (.plain maskPlaceholder) := by
  constructor
  · intro name name' h
    induction h with
    | refl => rfl
    | tail _ hstep ih => rw [ih, hstep.isSecretName_eq]
  · intro name name' h hs
    have hs' : isSecretName name' = true := by
      induction h with
      | refl => exact hs
      | tail _ hstep ih => exact hstep.isSecretName ih
    refine ⟨hs', fun value => ?_⟩
    rw [safeReprNamed, if_pos ⟨rfl, hs'⟩]

end

/-- `my.To_kenΣ`, from `token`, by three edits, with a capital sigma at the end, whose lower
case depends on its place. -/
theorem secret_spellings_token :
    letI := Unicode.sigmas
    isSecretName (py "my." ++ py "To_ken" ++ [capitalSigma]) = true := by
  let _ := Unicode.sigmas
  let _ := CaseMapping.sigmas
  have hsep : Unicode.isalnum (cp '_') = false := by decide
  have hrecase : Edits (py "token") (py "Token") :=
    .respell (.recase (show asciiLower (cp 't') = asciiLower (cp 'T') by decide) [] (py "oken"))
  have hinsert : Edits (py "Token") (py "To_ken") := .respell (.insert hsep (py "To") (py "ken"))
  have hextend := Edits.extend (py "my.") (py "To_ken") [capitalSigma]
  have hchain := ((Relation.ReflTransGen.single hrecase).tail hinsert).tail hextend
  exact (secret_spellings.2 _ _ hchain (by decide)).1

end SafeRepr
end Pidprobe
