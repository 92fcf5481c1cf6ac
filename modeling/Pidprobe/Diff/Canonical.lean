/-
# The canonical ranking

`_type_deltas` walks the union of two key views, a set whose order changes from
process to process, and `_counts_by_type` skips the rows it cannot read.  None of
this shows in `objects.types`: the rows are sorted by a key that no two of them
share, so the list is determined by its members, and these by the counts of the
well-formed rows (`ranking_canonical`).
-/

import Pidprobe.Diff

namespace Pidprobe
namespace Diff

/-! ## Well-formed rows -/

/-- The label and the count of a well-formed row of a ranking: an object with a text and an
integer. -/
def wellFormedRow : Json → Option (PyStr × ℤ)
  | .obj entry =>
    match member (py "type") entry, asInt (member (py "count") entry) with
    | .str label, some count => some (label, count)
    | _, _ => none
  | _ => none

/-- The well-formed rows of a ranking, in order. -/
def wellFormedRows (entries : List Json) : List (PyStr × ℤ) := entries.filterMap wellFormedRow

/-- A row that is not well-formed is skipped. -/
theorem addCount_eq (counts : List (PyStr × ℤ)) (v : Json) :
    addCount counts v =
      (wellFormedRow v).elim counts fun row => Dict.set row.1 row.2 counts := by
  cases v with
  | obj entry =>
    rw [addCount, wellFormedRow]
    generalize member (py "type") entry = label, asInt (member (py "count") entry) = count
    cases label <;> cases count <;> rfl
  | _ => rfl

/-- So the counts are a dictionary of the well-formed rows. -/
theorem foldl_addCount (entries : List Json) :
    entries.foldl addCount [] = Dict.ofPairs (wellFormedRows entries) := by
  rw [wellFormedRows, Dict.ofPairs_filterMap]
  simp only [← addCount_eq]

/-- The rows of an objects section: what iterating over `section.get("top") or ()`
yields. -/
def HasRows (ranking : List (PyStr × Json)) (entries : List Json) : Prop :=
  iterate ((member (py "top") ranking).orElse (.arr [])) = .ok entries

/-- Distinct labels are counted one by one. -/
theorem countsByType_of_nodupKeys {ranking : List (PyStr × Json)} {entries : List Json}
    (hrows : HasRows ranking entries) (hd : Dict.NodupKeys (wellFormedRows entries)) :
    countsByType ranking = .ok (wellFormedRows entries) := by
  rw [HasRows] at hrows
  rw [countsByType, hrows, ok_bind, foldl_addCount, Dict.ofPairs_of_nodupKeys hd]

/-! ## The order of the rows -/

/-- The strict order of decreasing delta, then increasing label, in which no two rows of a
delta are equal. -/
def TypeDelta.StrictlyPrecedes (x y : TypeDelta) : Prop :=
  y.delta < x.delta ∨ x.delta = y.delta ∧ x.type < y.type

/-- Of two rows one precedes the other. -/
theorem TypeDelta.Precedes.total (x y : TypeDelta) : x.Precedes y ∨ y.Precedes x := by
  rcases lt_trichotomy x.delta y.delta with h | h | h
  · exact .inr (.inl h)
  · exact (le_total x.type y.type).imp (fun ht => .inr ⟨h, ht⟩) fun ht => .inr ⟨h.symm, ht⟩
  · exact .inl (.inl h)

/-- The order of the rows is transitive, by the deltas and, among equal ones, by the
labels. -/
theorem TypeDelta.Precedes.trans {x y z : TypeDelta} (hxy : x.Precedes y) (hyz : y.Precedes z) :
    x.Precedes z := by
  rcases hxy with hxy | ⟨hxy, htxy⟩ <;> rcases hyz with hyz | ⟨hyz, htyz⟩
  · exact .inl (hyz.trans hxy)
  · exact .inl (hyz ▸ hxy)
  · exact .inl (hxy ▸ hyz)
  · exact .inr ⟨hxy.trans hyz, htxy.trans htyz⟩

/-- No row precedes itself strictly. -/
theorem TypeDelta.StrictlyPrecedes.irrefl (x : TypeDelta) : ¬x.StrictlyPrecedes x := by
  rintro (h | ⟨-, h⟩)
  · exact lt_irrefl _ h
  · exact lt_irrefl _ h

/-- Of two rows at most one precedes the other strictly. -/
theorem TypeDelta.StrictlyPrecedes.asymm {x y : TypeDelta} (hxy : x.StrictlyPrecedes y) :
    ¬y.StrictlyPrecedes x := by
  rintro (hyx | ⟨hyx, htyx⟩) <;> rcases hxy with hxy | ⟨hxy, htxy⟩
  · exact lt_asymm hxy hyx
  · exact absurd hxy hyx.ne
  · exact absurd hyx hxy.ne
  · exact lt_asymm htxy htyx

/-- Rows of distinct types are strictly ordered. -/
theorem TypeDelta.Precedes.strict {x y : TypeDelta} (h : x.Precedes y) (hne : x.type ≠ y.type) :
    x.StrictlyPrecedes y :=
  h.imp_right fun ⟨hd, ht⟩ => ⟨hd, lt_of_le_of_ne ht hne⟩

/-- `_type_deltas` when `before.keys() | after.keys()` is walked in this order. The order of
a set is not defined. -/
def typeDeltasIn (order : List PyStr) (before after : List (PyStr × ℤ)) : List TypeDelta :=
  ((order.map (typeDelta before after)).filter fun row =>
    row.delta ≠ 0).insertionSort TypeDelta.Precedes

/-- A walk through the union of the keys meets each of them once, and no other label. -/
structure IsUnion (order : List PyStr) (before after : List (PyStr × ℤ)) : Prop where
  nodup : order.Nodup
  mem : ∀ label, label ∈ order ↔ label ∈ before.map Prod.fst ∨ label ∈ after.map Prod.fst

/-- The order the code iterates in is one of the labels of both sides. -/
theorem isUnion_labels {before after : List (PyStr × ℤ)} (hb : Dict.NodupKeys before)
    (ha : Dict.NodupKeys after) : IsUnion (labels before after) before after :=
  ⟨nodup_labels hb ha, fun _ => mem_labels⟩

/-- A row is in the result where it is the delta of its type and changes something,
whatever order the labels are gone through in. -/
theorem mem_typeDeltasIn {order : List PyStr} {before after : List (PyStr × ℤ)}
    (h : IsUnion order before after) {row : TypeDelta} :
    row ∈ typeDeltasIn order before after ↔
      row = typeDelta before after row.type ∧ row.delta ≠ 0 := by
  rw [← mem_typeDeltas, typeDeltasIn, typeDeltas, List.mem_insertionSort, List.mem_insertionSort,
    List.mem_filter, List.mem_filter, List.mem_map, List.mem_map]
  simp only [h.mem, mem_labels]

/-- Whatever the walk, the rows are strictly ordered. -/
theorem pairwise_typeDeltasIn {order : List PyStr} {before after : List (PyStr × ℤ)}
    (h : IsUnion order before after) :
    (typeDeltasIn order before after).Pairwise TypeDelta.StrictlyPrecedes := by
  have htotal : Std.Total TypeDelta.Precedes := ⟨TypeDelta.Precedes.total⟩
  have htrans : IsTrans TypeDelta TypeDelta.Precedes := ⟨fun _ _ _ => TypeDelta.Precedes.trans⟩
  have hsorted := List.pairwise_insertionSort TypeDelta.Precedes
    ((order.map (typeDelta before after)).filter fun row => row.delta ≠ 0)
  have htypes : (typeDeltasIn order before after).Pairwise fun x y => x.type ≠ y.type := by
    rw [typeDeltasIn, (List.perm_insertionSort _ _).pairwise_iff Ne.symm]
    refine List.Pairwise.filter _ (List.pairwise_map.2 ?_)
    exact h.nodup
  exact (hsorted.and htypes).imp fun ⟨hp, hne⟩ => hp.strict hne

/-- A list in this strict order is determined by its members, so the walk cannot show. -/
theorem eq_of_strictlyPrecedes {rows rows' : List TypeDelta}
    (h : rows.Pairwise TypeDelta.StrictlyPrecedes)
    (h' : rows'.Pairwise TypeDelta.StrictlyPrecedes) (hmem : ∀ row, row ∈ rows ↔ row ∈ rows') :
    rows = rows' := by
  have hirrefl : Std.Irrefl TypeDelta.StrictlyPrecedes := ⟨TypeDelta.StrictlyPrecedes.irrefl⟩
  have hantisymm : Std.Antisymm TypeDelta.StrictlyPrecedes :=
    ⟨fun _ _ hxy hyx => absurd hyx hxy.asymm⟩
  exact h.eq_of_mem_iff h' hmem

/-- **Neither the walk nor the order of the rows shows**: two walks over rankings with the
same counts come to the same rows. -/
theorem typeDeltasIn_eq {order order' : List PyStr} {was now was' now' : List (PyStr × ℤ)}
    (h : IsUnion order was now) (h' : IsUnion order' was' now')
    (hwas : ∀ label, Dict.get? label was' = Dict.get? label was)
    (hnow : ∀ label, Dict.get? label now' = Dict.get? label now) :
    typeDeltasIn order' was' now' = typeDeltasIn order was now := by
  refine eq_of_strictlyPrecedes (pairwise_typeDeltasIn h') (pairwise_typeDeltasIn h) fun row => ?_
  have hrow : typeDelta was' now' row.type = typeDelta was now row.type := by
    rw [typeDelta, typeDelta, countOf, countOf, countOf, countOf, hwas, hnow]
  rw [mem_typeDeltasIn h', mem_typeDeltasIn h, hrow]

/-! ## The canonical list -/

/-- The rows say which labels of two rankings moved and how, each in one row, in
the strict order of decreasing delta, then increasing label. -/
structure RanksChanges (was now : List (PyStr × ℤ)) (types : List TypeDelta) : Prop where
  labels : ∀ label, (∃ row ∈ types, row.type = label) ↔ countOf was label ≠ countOf now label
  rows : ∀ row ∈ types, row.before = Dict.get? row.type was ∧ row.after = Dict.get? row.type now ∧
    row.delta = countOf now row.type - countOf was row.type
  distinct : (types.map TypeDelta.type).Nodup
  sorted : types.Pairwise TypeDelta.StrictlyPrecedes

/-- What `_type_deltas` returns is the canonical ranking of the changes. -/
theorem ranksChanges_typeDeltas {was now : List (PyStr × ℤ)} (hwas : Dict.NodupKeys was)
    (hnow : Dict.NodupKeys now) : RanksChanges was now (typeDeltas was now) where
  labels label := by
    constructor
    · rintro ⟨row, hrow, rfl⟩ heq
      obtain ⟨hrow, hne⟩ := mem_typeDeltas.1 hrow
      rw [hrow] at hne
      exact hne (sub_eq_zero.2 heq.symm)
    · intro hne
      exact ⟨typeDelta was now label, mem_typeDeltas.2 ⟨rfl, sub_ne_zero.2 hne.symm⟩, rfl⟩
  rows row hrow := by
    have hrow := (mem_typeDeltas.1 hrow).1
    exact ⟨congrArg TypeDelta.before hrow, congrArg TypeDelta.after hrow,
      congrArg TypeDelta.delta hrow⟩
  distinct := by
    refine List.Nodup.map_on (fun x hx y hy hxy => ?_) (nodup_typeDeltas hwas hnow)
    rw [(mem_typeDeltas.1 hx).1, (mem_typeDeltas.1 hy).1, hxy]
  sorted := pairwise_typeDeltasIn (isUnion_labels hwas hnow)

/-- The rows of the delta of two objects sections, where it returns. -/
def typesOf (before after : List (PyStr × Json)) : Except PyError (Option (List TypeDelta)) := do
  let delta ← objectsDelta (.obj before) (.obj after)
  .ok (delta.map ObjectsDelta.types)

/-- The rows of a delta depend on the well-formed rows of both sides alone. -/
theorem typesOf_eq {before after : List (PyStr × Json)} {entries entries' : List Json}
    (hb : HasRows before entries) (ha : HasRows after entries')
    (hdb : Dict.NodupKeys (wellFormedRows entries))
    (hda : Dict.NodupKeys (wellFormedRows entries')) :
    typesOf before after =
      .ok (some (typeDeltas (wellFormedRows entries) (wellFormedRows entries'))) := by
  rw [typesOf, objectsDelta, countsByType_of_nodupKeys hb hdb, ok_bind,
    countsByType_of_nodupKeys ha hda, ok_bind, ok_bind, Option.map_some]

/-- **The ranking is exact, and independent of every order.**  The delta of two
objects sections whose well-formed rows have distinct labels ranks the changes;
sections with the same well-formed rows in another order, whatever malformed rows
are between them, give the same list, and so does every walk through the union of
the keys. -/
theorem ranking_canonical {before after : List (PyStr × Json)} {entries entries' : List Json}
    (hb : HasRows before entries) (ha : HasRows after entries')
    (hdb : Dict.NodupKeys (wellFormedRows entries))
    (hda : Dict.NodupKeys (wellFormedRows entries')) :
    ∃ types, typesOf before after = .ok (some types) ∧
      RanksChanges (wellFormedRows entries) (wellFormedRows entries') types ∧
      ∀ other other' rows rows', HasRows other rows → HasRows other' rows' →
        (wellFormedRows rows).Perm (wellFormedRows entries) →
        (wellFormedRows rows').Perm (wellFormedRows entries') →
        typesOf other other' = .ok (some types) ∧
          ∀ order, IsUnion order (wellFormedRows rows) (wellFormedRows rows') →
            typeDeltasIn order (wellFormedRows rows) (wellFormedRows rows') = types := by
  refine ⟨_, typesOf_eq hb ha hdb hda, ranksChanges_typeDeltas hdb hda, ?_⟩
  intro other other' rows rows' ho ho' hp hp'
  have hdo : Dict.NodupKeys (wellFormedRows rows) := ((hp.map Prod.fst).nodup_iff).2 hdb
  have hdo' : Dict.NodupKeys (wellFormedRows rows') := ((hp'.map Prod.fst).nodup_iff).2 hda
  have hsame : ∀ order, IsUnion order (wellFormedRows rows) (wellFormedRows rows') →
      typeDeltasIn order (wellFormedRows rows) (wellFormedRows rows') =
        typeDeltas (wellFormedRows entries) (wellFormedRows entries') := by
    intro order horder
    exact typeDeltasIn_eq (isUnion_labels hdb hda) horder (Dict.get?_perm hdb hp)
      (Dict.get?_perm hda hp')
  refine ⟨?_, hsame⟩
  rw [typesOf_eq ho ho' hdo hdo', ← hsame _ (isUnion_labels hdo hdo')]
  rfl

/-- A row of a ranking. -/
def row (label : PyStr) (count : ℤ) : Json :=
  .obj [(py "type", .str label), (py "count", .int count)]

/-- An objects section with these rows. -/
def ranked (entries : List Json) : List (PyStr × Json) := [(py "top", .arr entries)]

/-- Two rows in the other order, a malformed one between them: the delta is the same. -/
theorem ranking_canonical_reordered :
    ∃ types, typesOf (ranked [row (py "list") 3, row (py "dict") 2])
        (ranked [row (py "dict") 5]) = .ok (some types) ∧
      typesOf (ranked [row (py "dict") 2, .null, row (py "list") 3])
        (ranked [row (py "dict") 5]) = .ok (some types) := by
  have hrows : ∀ entries, HasRows (ranked entries) entries := by
    intro entries
    rw [HasRows, ranked, member, Dict.get?, if_pos rfl, Option.getD_some, Json.orElse_arr]
    rfl
  obtain ⟨types, htypes, -, hsame⟩ := ranking_canonical
    (hrows [row (py "list") 3, row (py "dict") 2]) (hrows [row (py "dict") 5])
    (by decide) (by decide)
  refine ⟨types, htypes, ?_⟩
  exact (hsame _ _ _ _ (hrows [row (py "dict") 2, .null, row (py "list") 3])
    (hrows [row (py "dict") 5]) (by decide) (List.Perm.refl _)).1

end Diff
end Pidprobe
