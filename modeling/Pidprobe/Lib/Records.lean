/-
# Records on a stream

A writer ends every record with a separator that no record holds.  `frame` is
what it writes, and `records` what a reader takes for whole records: everything
up to the last separator.  A stream may be cut anywhere, by a writer that is
interrupted or a reader that goes away: then the reader has a front of the
records and the beginning of the next (`front_of_cut`).

Within a record, a field ends at the first separator (`partition`).
-/

import Mathlib.Data.List.TakeWhile

namespace Pidprobe
namespace Records

variable {α : Type*} [DecidableEq α] {sep : α}

/-- The records one behind the other, each with the separator that ends it. -/
def frame (sep : α) (rs : List (List α)) : List α := rs.flatMap (· ++ [sep])

/-- The records that have come to their end: what stands behind the last separator is none
yet. -/
def records (sep : α) (t : List α) : List (List α) := (t.splitOn sep).dropLast

omit [DecidableEq α] in
@[simp] theorem frame_nil : frame sep [] = [] := rfl

omit [DecidableEq α] in
@[simp] theorem frame_cons (r : List α) (rs : List (List α)) :
    frame sep (r :: rs) = r ++ sep :: frame sep rs := by
  rw [frame, List.flatMap_cons, List.append_assoc]
  rfl

/-- Splitting at the separator gives the records back, and goes on with what stands behind
them. -/
theorem splitOn_frame {rs : List (List α)} (hrs : ∀ r ∈ rs, sep ∉ r) (t : List α) :
    (frame sep rs ++ t).splitOn sep = rs ++ t.splitOn sep := by
  induction rs with
  | nil => rfl
  | cons r rs ih =>
    obtain ⟨hr, hrs⟩ := List.forall_mem_cons.1 hrs
    rw [frame_cons, List.append_assoc, List.cons_append,
      List.splitOn_append_cons_self_of_not_mem hr, ih hrs, List.cons_append]

/-- **Whole records are read back**, and a last one without its end is not: `rest` is the
part of a record that has not come in full. -/
theorem records_frame {rs : List (List α)} (hrs : ∀ r ∈ rs, sep ∉ r) {rest : List α}
    (hrest : sep ∉ rest) : records sep (frame sep rs ++ rest) = rs := by
  rw [records, splitOn_frame hrs, List.splitOn_eq_singleton hrest]
  exact List.dropLast_concat ..

omit [DecidableEq α] in
/-- **Where a stream is cut.**  A prefix of framed records is a front of them, and
the beginning of the next. -/
theorem front_of_cut : ∀ {rs : List (List α)} {t : List α}, (∀ r ∈ rs, sep ∉ r) →
    t <+: frame sep rs → ∃ front rest, front <+: rs ∧ t = frame sep front ++ rest ∧ sep ∉ rest
  | [], t, _, h => ⟨[], [], List.nil_prefix, List.prefix_nil.1 h, by simp⟩
  | r :: rs, t, hrs, h => by
      obtain ⟨hr, hrs⟩ := List.forall_mem_cons.1 hrs
      have hline : r ++ [sep] <+: frame sep (r :: rs) := ⟨frame sep rs, by simp⟩
      rcases Nat.lt_or_ge r.length t.length with hlt | hge
      · -- the first record is whole
        obtain ⟨u, rfl⟩ := List.prefix_of_prefix_length_le hline h
          (by rw [List.length_append]; exact hlt)
        rw [frame_cons, List.append_assoc, List.singleton_append, List.prefix_append_right_inj,
          List.prefix_cons_inj] at h
        obtain ⟨front, rest, hfront, rfl, hrest⟩ := front_of_cut hrs h
        exact ⟨r :: front, rest, (List.prefix_cons_inj r).2 hfront, by simp, hrest⟩
      · have ht : t <+: r := by
          refine List.prefix_of_prefix_length_le h ?_ hge
          rw [frame_cons]
          exact List.prefix_append _ _
        exact ⟨[], t, List.nil_prefix, rfl, fun hsep => hr (ht.subset hsep)⟩

/-- What a reader takes for whole records of a stream that was cut is a front of
the records. -/
theorem records_of_cut {rs : List (List α)} {t : List α} (hrs : ∀ r ∈ rs, sep ∉ r)
    (h : t <+: frame sep rs) : records sep t <+: rs := by
  obtain ⟨front, rest, hfront, rfl, hrest⟩ := front_of_cut hrs h
  rwa [records_frame (fun r hr => hrs r (hfront.subset hr)) hrest]

/-- Each separator ends one record, also in a text that breaks off within the records. -/
theorem length_records {rs : List (List α)} {t : List α} (hrs : ∀ r ∈ rs, sep ∉ r)
    (h : t <+: frame sep rs) : (records sep t).length = t.count sep := by
  obtain ⟨front, rest, hfront, rfl, hrest⟩ := front_of_cut hrs h
  have hnot : ∀ r ∈ front, sep ∉ r := fun r hr => hrs r (hfront.subset hr)
  rw [records_frame hnot hrest, List.count_append, List.count_eq_zero.2 hrest, Nat.add_zero]
  clear hfront h
  induction front with
  | nil => rfl
  | cons r front ih =>
    obtain ⟨hr, hnot⟩ := List.forall_mem_cons.1 hnot
    rw [frame_cons, List.count_append, List.count_eq_zero.2 hr, List.count_cons_self, ← ih hnot,
      List.length_cons, Nat.zero_add]

/-! ## Fields -/

/-- `t.partition(sep)`, without the separator: where there is none, the second part is
empty. -/
def partition (sep : α) (t : List α) : List α × List α :=
  (t.takeWhile (· ≠ sep), (t.dropWhile (· ≠ sep)).drop 1)

/-- **A field without the separator in it is read back**, and the rest with it, separators
and all. -/
theorem partition_append {field : List α} (h : sep ∉ field) (rest : List α) :
    partition sep (field ++ sep :: rest) = (field, rest) := by
  have hfield : ∀ c ∈ field, decide (c ≠ sep) = true := fun c hc =>
    decide_eq_true fun he => h (he ▸ hc)
  rw [partition, List.takeWhile_append_of_pos hfield, List.dropWhile_append_of_pos hfield]
  simp

/-- Where there is no separator, all of it is the field, and no rest is left. -/
theorem partition_of_notMem {t : List α} (h : sep ∉ t) : partition sep t = (t, []) := by
  have hall : ∀ c ∈ t, decide (c ≠ sep) = true := fun c hc => decide_eq_true fun he => h (he ▸ hc)
  rw [partition, List.takeWhile_eq_self_iff.2 hall, List.dropWhile_eq_nil_iff.2 hall]
  rfl

/-- What a text is that begins with a field: the field alone, or the field, the separator
and anything. -/
theorem partition_fst_eq {t field : List α} (h : sep ∉ field) :
    (partition sep t).1 = field ↔ t = field ∨ field ++ [sep] <+: t := by
  constructor
  · intro hfst
    by_cases hsep : sep ∈ t
    · obtain ⟨s, u, rfl, hs⟩ := List.eq_append_cons_of_mem hsep
      rw [partition_append hs] at hfst
      subst hfst
      exact .inr ⟨u, by simp⟩
    · rw [partition_of_notMem hsep] at hfst
      exact .inl hfst
  · rintro (rfl | ⟨u, rfl⟩)
    · rw [partition_of_notMem h]
    · rw [List.append_assoc, List.singleton_append, partition_append h]

end Records
end Pidprobe
