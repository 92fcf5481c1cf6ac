/-
# Faithful or marked

With masking off, `safe_repr` of a value built from the containers and from
leaves that have a `repr` is that value's `repr`, or it says that something was
left out: each of the four bounds leaves its mark where it cuts, and a mark inside
an element is a mark of the whole (`faithful_or_marked`).  Within the bounds
nothing is cut.
-/

import Pidprobe.SafeRepr
import Pidprobe.Target.Tree

namespace Pidprobe
namespace SafeRepr

/-! ## Marks -/

/-- Something was left out of the text: it holds the dots of `ELISION`, which are the
beginning of `TRUNCATION_MARKER` too. -/
def Marked (text : PyStr) : Prop := elision <:+: text

/-- What is shown of a text: the text itself, or something marked; the text itself
where it fits. -/
def Shows (fits : Prop) (text shown : PyStr) : Prop :=
  (Marked shown ∨ shown = text) ∧ (fits → shown = text)

/-- A text that is shown in full is shown faithfully. -/
theorem shows_self {fits : Prop} (text : PyStr) : Shows fits text text :=
  ⟨.inr rfl, fun _ => rfl⟩

/-- A text with a mark of what is left out is shown faithfully where not everything fits.
-/
theorem shows_of_marked {fits : Prop} {text shown : PyStr} (hm : Marked shown) (hf : ¬fits) :
    Shows fits text shown := ⟨.inl hm, fun h => absurd h hf⟩

/-- A mark stays a mark behind another text. -/
theorem Marked.append_left {text : PyStr} (h : Marked text) (before : PyStr) :
    Marked (before ++ text) := h.trans (List.suffix_append before text).isInfix

/-- A mark stays a mark in front of another text. -/
theorem Marked.append_right {text : PyStr} (h : Marked text) (after : PyStr) :
    Marked (text ++ after) := h.trans (List.prefix_append text after).isInfix

/-- Parts show in what they are joined to. -/
theorem infix_join {sep part : PyStr} {parts : List PyStr} (h : part ∈ parts) :
    part <:+: join sep parts := by
  induction parts with
  | nil => cases h
  | cons head parts ih =>
    cases parts with
    | nil =>
      obtain rfl := List.mem_singleton.1 h
      rw [join, List.intercalate_singleton]
    | cons next parts =>
      rw [join, List.intercalate_cons_cons]
      rcases List.mem_cons.1 h with rfl | h
      · rw [List.append_assoc]
        exact (List.prefix_append _ _).isInfix
      · exact (ih h).trans (List.suffix_append _ _).isInfix

/-- A mark in one part is a mark in the whole. -/
theorem Marked.join {sep part : PyStr} {parts : List PyStr} (h : part ∈ parts)
    (hm : Marked part) : Marked (join sep parts) := hm.trans (infix_join h)

/-- What a length bound cuts off is marked. -/
theorem shows_bounded (text : PyStr) (limit : ℕ) :
    Shows (text.length ≤ limit) text (boundedStr text limit) := by
  unfold boundedStr
  split_ifs with h
  · have hmark : Marked truncationMarker := ⟨[], py "<truncated>", rfl⟩
    exact shows_of_marked (hmark.append_left _) (by omega)
  · exact shows_self text

/-- A bound on what is shown already. What is cut off here is marked, and a mark that was
cut off is replaced by the new one. -/
theorem Shows.bounded {fits : Prop} {text shown : PyStr} (h : Shows fits text shown) (limit : ℕ) :
    Shows (fits ∧ text.length ≤ limit) text (boundedStr shown limit) := by
  obtain ⟨hcut, hfit⟩ := shows_bounded shown limit
  refine ⟨?_, fun ⟨hf, hlen⟩ => ?_⟩
  · rcases hcut with hm | heq
    · exact .inl hm
    · rw [heq]
      exact h.1
  · rw [hfit (h.2 hf ▸ hlen), h.2 hf]

/-- A loop whose rounds show one text each: something it shows is marked, or it
shows all the texts. -/
theorem mapM_shows {ε α β : Type} {f : β → Except ε (Text α)} {fits : β → Prop} {xs : List β}
    {texts : List PyStr} (h : List.Forall₂ (fun x text =>
      ∃ shown, f x = .ok (.plain shown) ∧ Shows (fits x) text shown) xs texts) :
    ∃ shown, xs.mapM f = .ok (shown.map .plain) ∧ shown.length = texts.length ∧
      ((∃ part ∈ shown, Marked part) ∨ shown = texts) ∧ ((∀ x ∈ xs, fits x) → shown = texts) := by
  induction h with
  | nil => exact ⟨[], rfl, rfl, .inr rfl, fun _ => rfl⟩
  | cons hx _ ih =>
    obtain ⟨part, hpart, hmarked, hfits⟩ := hx
    obtain ⟨shown, hshown, hlength, hmarkeds, hfitss⟩ := ih
    refine ⟨part :: shown, ?_, congrArg Nat.succ hlength, ?_, fun hall => ?_⟩
    · rw [List.mapM_cons, hpart, ok_bind, hshown]
      rfl
    · rcases hmarked with hm | rfl
      · exact .inl ⟨part, List.mem_cons_self .., hm⟩
      · rcases hmarkeds with ⟨other, hother, hm⟩ | rfl
        · exact .inl ⟨other, List.mem_cons_of_mem _ hother, hm⟩
        · exact .inr rfl
    · obtain ⟨hx, hxs⟩ := List.forall_mem_cons.1 hall
      rw [hfits hx, hfitss hxs]

/-- The parts of a container between their brackets: a part that is marked marks the whole,
and otherwise all of them are shown. -/
theorem shows_joined {fits : Prop} {texts shown : List PyStr}
    (h : (∃ part ∈ shown, Marked part) ∨ shown = texts) (hf : fits → shown = texts)
    (before after : PyStr) :
    Shows fits (before ++ (join (py ", ") texts ++ after))
      (before ++ (join (py ", ") shown ++ after)) := by
  refine ⟨?_, fun hfits => by rw [hf hfits]⟩
  rcases h with ⟨part, hpart, hm⟩ | rfl
  · exact .inl (((Marked.join hpart hm).append_right _).append_left _)
  · exact .inr rfl

/-! ## Trees -/

section

variable [Unicode]

open PyObject

/-- The brackets of a container with elements, as `_render` passes them to
`_render_items`. -/
def style : Kind → PyStr × PyStr
  | .list => (py "[", py "]")
  | .tuple => (py "(", py ")")
  | .frozenset => (py "frozenset(\x7b", py "\x7d)")
  | .set => (py "\x7b", py "\x7d")

/-- The comma of a tuple with one element, which `repr` writes and which `_render_items` has
to add by itself. -/
def trailing (kind : Kind) (parts : List PyStr) : PyStr :=
  if kind = .tuple ∧ parts.length = 1 then py "," else []

/-- A value stays within the bounds: the `repr` of every leaf is short, and the
containers are small and nest no deeper than this. -/
def Fits : ℕ → Tree → Prop
  | _, .leaf _ outcome => ∀ text, outcome = .ok text → text.length ≤ maxStringChars
  | _, .str s => (reprStr s).length ≤ maxStringChars
  | 0, .seq _ _ => False
  | depth + 1, .seq _ xs => xs.length ≤ maxItems ∧ ∀ x ∈ xs, Fits depth x
  | 0, .dict _ => False
  | depth + 1, .dict items =>
    items.length ≤ maxItems ∧ ∀ item ∈ items, Fits depth item.1 ∧ Fits depth item.2

omit [Unicode] in
/-- The `repr` of a sequence that is not empty: its elements between its brackets, with
the comma of a tuple of one. -/
theorem repr_seq (kind : Kind) {texts : List PyStr} (h : texts ≠ []) :
    kind.repr texts =
      (style kind).1 ++ (join (py ", ") texts ++ (trailing kind texts ++ (style kind).2)) := by
  rcases texts with _ | ⟨text, _ | ⟨text', rest⟩⟩
  · exact absurd rfl h
  · have hcomma : py ",)" = py "," ++ py ")" := rfl
    cases kind <;> simp [Kind.repr, style, trailing, join, List.intercalate_singleton, hcomma]
  · cases kind <;> simp [Kind.repr, style, trailing]

/-- The built-in sequences and sets are rendered as containers of items. -/
theorem shapeOf_seq (kind : Kind) (xs : List Tree) :
    shapeOf (Tree.seq kind xs) = .ok (.items (style kind)) := by
  cases kind <;> rfl

omit [Unicode] in
/-- An iteration over a list takes what there is room for, and says whether there is more. -/
theorem takeFrom_nextOf (xs : List Tree) (room i : ℕ) :
    takeFrom (Tree.nextOf xs) room i =
      .ok ((xs.drop i).take room, decide (room < (xs.drop i).length)) := by
  induction room generalizing i with
  | zero =>
    unfold takeFrom Tree.nextOf
    rcases hx : xs[i]? with _ | x
    · rw [List.drop_eq_nil_of_le (List.getElem?_eq_none_iff.1 hx)]
      rfl
    · obtain ⟨hi, -⟩ := List.getElem?_eq_some_iff.1 hx
      simp [hi]
  | succ room ih =>
    unfold takeFrom
    rcases hx : xs[i]? with _ | x
    · rw [List.drop_eq_nil_of_le (List.getElem?_eq_none_iff.1 hx), Tree.nextOf, hx]
      rfl
    · obtain ⟨hi, rfl⟩ := List.getElem?_eq_some_iff.1 hx
      have hdrop : xs.drop i = xs[i] :: xs.drop (i + 1) := List.drop_eq_getElem_cons hi
      have hnext : Tree.nextOf xs i = .item xs[i] := by rw [Tree.nextOf, hx]
      rw [hnext]
      dsimp only
      rw [ih, hdrop, List.take_succ_cons, List.length_cons]
      simp only [ok_bind, Nat.add_lt_add_iff_right]

omit [Unicode] in
/-- Taking from a list yields its front, and says whether more is behind. -/
theorem take_nextOf (xs : List Tree) :
    take (Tree.nextOf xs) maxItems = .ok (xs.take maxItems, decide (maxItems < xs.length)) := by
  rw [take, takeFrom_nextOf, List.drop_zero]

/-- The `repr` of a value with elements is put together from theirs. -/
theorem reprElems_eq_ok {xs : List Tree} {texts : List PyStr} :
    Tree.reprElems xs = .ok texts ↔
      List.Forall₂ (fun x text => Tree.repr x = .ok text) xs texts := by
  rw [← mapM_eq_ok]
  suffices h : Tree.reprElems xs = xs.mapM Tree.repr by rw [h]
  induction xs with
  | nil => rfl
  | cons x xs ih =>
    rw [Tree.reprElems, List.mapM_cons, ih]
    rfl

/-- The text of an item, as `repr` of a dictionary writes it: the key, a colon, the value. -/
def reprItem (item : Tree × Tree) : Except ExcData PyStr := do
  let keyText ← Tree.repr item.1
  let itemText ← Tree.repr item.2
  .ok (keyText ++ py ": " ++ itemText)

/-- The texts of the items are those of each of them, in order. -/
theorem reprItems_eq_ok {items : List (Tree × Tree)} {texts : List PyStr} :
    Tree.reprItems items = .ok texts ↔
      List.Forall₂ (fun item text => reprItem item = .ok text) items texts := by
  rw [← mapM_eq_ok]
  suffices h : Tree.reprItems items = items.mapM reprItem by rw [h]
  induction items with
  | nil => rfl
  | cons item items ih =>
    obtain ⟨key, value⟩ := item
    rw [Tree.reprItems, List.mapM_cons, ih, reprItem]
    rcases Tree.repr key with e | keyText
    · rfl
    rcases Tree.repr value with e | itemText <;> rfl

/-! ## One level -/

/-- What a level shows of a value that has a `repr`: it does not raise, and shows that text,
or a marked part of it. -/
def ShowsTree (fits : Prop) (outcome : Except ExcData (Text Tree)) (text : PyStr) : Prop :=
  ∃ shown, outcome = .ok (.plain shown) ∧ Shows fits text shown

/-- A value that is shown by its `repr`. -/
theorem boundedRepr_shows {value : Tree} {text : PyStr} (h : Tree.repr value = .ok text)
    {fits : Prop} (hf : fits → text.length ≤ maxStringChars) :
    ShowsTree fits (boundedRepr value) text := by
  obtain ⟨hshows, hfits⟩ := shows_bounded text maxStringChars
  have hrepr : PyObject.repr value = .ok (.plain text) := congrArg (Except.map Text.plain) h
  refine ⟨boundedStr text maxStringChars, ?_, hshows, fun h => hfits (hf h)⟩
  rw [boundedRepr, hrepr]
  exact bounded_plain text maxStringChars

omit [Unicode] in
/-- The parts of a container, and the mark of those that are left out. The comma is there
exactly where `repr` has it, or a mark is. -/
theorem shows_parts (fits : Prop) {texts shown : List PyStr} {count : ℕ}
    (hcount : texts.length = count) (hlength : shown.length = (texts.take maxItems).length)
    (h : (∃ part ∈ shown, Marked part) ∨ shown = texts.take maxItems)
    (hf : fits → count ≤ maxItems ∧ shown = texts.take maxItems) (kind : Kind) :
    Shows fits ((style kind).1 ++ (join (py ", ") texts ++ (trailing kind texts ++ (style kind).2)))
      ((style kind).1 ++ (join (py ", ") (shown ++ if maxItems < count then [elision] else []) ++
        ((if kind = .tuple ∧ (shown ++ if maxItems < count then [elision] else []).length = 1 ∧
          ¬maxItems < count then py "," else []) ++ (style kind).2))) := by
  subst hcount
  by_cases hmore : maxItems < texts.length
  · have hmark : Marked elision := List.infix_refl _
    refine shows_of_marked ?_ fun hfits => absurd (hf hfits).1 (by omega)
    rw [if_pos hmore]
    exact ((Marked.join (List.mem_append_right _ (List.mem_singleton_self _)) hmark).append_right
      _).append_left _
  · have htake : texts.take maxItems = texts := List.take_of_length_le (by omega)
    rw [htake] at hlength h hf
    have hsame : trailing kind texts = if kind = .tuple ∧ shown.length = 1 ∧
        ¬maxItems < texts.length then py "," else [] := by
      rw [trailing, hlength]
      simp [hmore]
    rw [if_neg hmore, List.append_nil, hsame]
    exact shows_joined h (fun hfits => (hf hfits).2) _ _

omit [Unicode] in
/-- The parts of a container, and the ellipsis behind them. -/
theorem parts_plain (shown : List PyStr) (hasMore : Bool) :
    shown.map (Text.plain : PyStr → Text Tree) ++ (if hasMore then [.plain elision] else []) =
      (shown ++ if hasMore then [elision] else []).map .plain := by
  cases hasMore <;> simp

/-- A container at a spent depth is marked, and nothing that nests so deep fits. -/
theorem renderItems_none_shows {fits : Prop} (value : Tree) (text : PyStr)
    (style : PyStr × PyStr) (hf : ¬fits) :
    ShowsTree fits (renderItems none value style) text := by
  have hmark : Marked elision := List.infix_refl _
  exact ⟨_, rfl, shows_of_marked ((hmark.append_left _).append_right _) hf⟩

/-- At a spent depth a dictionary is a mark, and then not everything fits. -/
theorem renderMapping_none_shows {fits : Prop} (value : Tree) (text : PyStr) (hf : ¬fits) :
    ShowsTree fits (renderMapping false none value) text := by
  have hmark : Marked elision := List.infix_refl _
  exact ⟨_, rfl, shows_of_marked ((hmark.append_left _).append_right _) hf⟩

/-- What the level below shows of the values it is given. This is the induction hypothesis
of the rendering. -/
def ShowsBelow (depth : ℕ) (render : Tree → Except ExcData (Text Tree)) : Prop :=
  ∀ (x : Tree) (text : PyStr), Tree.repr x = .ok text → ShowsTree (Fits depth x) (render x) text

/-- The comma is added to a tuple of one element that is shown in full. -/
theorem isSingleton_seq (kind : Kind) (xs : List Tree) (parts : List (Text Tree))
    (hasMore : Bool) :
    isSingleton (Tree.seq kind xs) parts hasMore =
      .ok (decide (kind = .tuple ∧ parts.length = 1 ∧ hasMore = false)) := by
  cases kind <;> simp [isSingleton, PyObject.isinstance, Kind.builtin]

/-- The elements of a container are shown one level below, and the container is shown with
them. -/
theorem renderItems_some_shows {depth : ℕ} {render : Tree → Except ExcData (Text Tree)}
    (hr : ShowsBelow depth render) {kind : Kind} {xs : List Tree} {text : PyStr}
    (h : Tree.repr (.seq kind xs) = .ok text) :
    ShowsTree (Fits (depth + 1) (.seq kind xs))
      (renderItems (some render) (.seq kind xs) (style kind)) text := by
  have htake : take (PyObject.next (Tree.seq kind xs)) maxItems =
      .ok (xs.take maxItems, decide (maxItems < xs.length)) := take_nextOf xs
  obtain ⟨texts, htexts, rfl⟩ :
      ∃ texts, Tree.reprElems xs = .ok texts ∧ kind.repr texts = text := by
    rw [Tree.repr] at h
    rcases hx : Tree.reprElems xs with e | texts <;> rw [hx] at h
    · cases h
    · exact ⟨texts, rfl, Except.ok.inj h⟩
  have helems := reprElems_eq_ok.1 htexts
  have hlength : texts.length = xs.length := helems.length_eq.symm
  by_cases hxs : xs = []
  · -- no elements: the `repr` of the empty container
    subst hxs
    obtain rfl : texts = [] := List.length_eq_zero_iff.1 hlength
    rw [renderItems, htake]
    exact boundedRepr_shows h fun _ => by cases kind <;> decide
  · have hshown := (List.forall₂_take maxItems helems).imp fun x text hx => hr x text hx
    obtain ⟨shown, hmap, hcount, hmarked, hall⟩ := mapM_shows hshown
    have hparts := shows_parts (Fits (depth + 1) (.seq kind xs)) hlength hcount hmarked
      (fun hfits => ⟨hfits.1, hall fun x hx => hfits.2 x (List.mem_of_mem_take hx)⟩) kind
    have htexts : texts ≠ [] := fun hnil =>
      hxs (List.length_eq_zero_iff.1 (by simp [← hlength, hnil]))
    rw [← repr_seq kind htexts] at hparts
    refine ⟨_, ?_, hparts⟩
    have hempty : ¬((xs.take maxItems).isEmpty ∧ decide (maxItems < xs.length) = false) := by
      rintro ⟨hnil, -⟩
      rcases List.take_eq_nil_iff.1 (List.isEmpty_iff.1 hnil) with hzero | hnil
      · cases hzero
      · exact hxs hnil
    rw [renderItems, htake]
    dsimp only
    rw [if_neg hempty, hmap, ok_bind, parts_plain, Text.joined_plain, ok_bind, isSingleton_seq,
      ok_bind]
    simp only [decide_eq_true_eq, decide_eq_false_iff_not, List.append_assoc, List.length_map]

/-- What `items()` yields for an item: a tuple of the key and the value. -/
def entryOf (item : Tree × Tree) : Tree := .seq .tuple [item.1, item.2]

/-- An item with masking off. -/
theorem renderEntry_shows {depth : ℕ} {render : Tree → Except ExcData (Text Tree)}
    (hr : ShowsBelow depth render) {item : Tree × Tree} {text : PyStr}
    (h : reprItem item = .ok text) :
    ShowsTree (Fits depth item.1 ∧ Fits depth item.2) (renderEntry false render (entryOf item))
      text := by
  rw [reprItem] at h
  rcases hkey : Tree.repr item.1 with e | keyText <;> rw [hkey] at h
  · cases h
  rcases hvalue : Tree.repr item.2 with e | valueText <;> rw [hvalue] at h
  · cases h
  obtain rfl := Except.ok.inj h
  obtain ⟨shownKey, hrenderKey, hmarkedKey, hfitsKey⟩ := hr _ _ hkey
  obtain ⟨shownValue, hrenderValue, hmarkedValue, hfitsValue⟩ := hr _ _ hvalue
  refine ⟨shownKey ++ py ": " ++ shownValue, ?_, ?_, ?_⟩
  · show renderPair false render item.1 item.2 = _
    rw [renderPair, hrenderKey]
    show (render item.2 >>= _) = _
    rw [hrenderValue]
    rfl
  · rcases hmarkedKey with hm | rfl
    · exact .inl ((hm.append_right _).append_right _)
    · rcases hmarkedValue with hm | rfl
      · exact .inl (hm.append_left _)
      · exact .inr rfl
  · rintro ⟨hk, hv⟩
    rw [hfitsKey hk, hfitsValue hv]

/-- The items of a mapping, with masking off: keys and values are shown one level below,
like elements. -/
theorem renderMapping_some_shows {depth : ℕ} {render : Tree → Except ExcData (Text Tree)}
    (hr : ShowsBelow depth render) {items : List (Tree × Tree)} {text : PyStr}
    (h : Tree.repr (.dict items) = .ok text) :
    ShowsTree (Fits (depth + 1) (.dict items)) (renderMapping false (some render) (.dict items))
      text := by
  have htake : take (PyObject.nextItem (Tree.dict items)) maxItems =
      .ok ((items.take maxItems).map entryOf, decide (maxItems < items.length)) := by
    rw [List.map_take]
    exact (take_nextOf (items.map entryOf)).trans (by rw [List.length_map])
  obtain ⟨texts, htexts, rfl⟩ : ∃ texts, Tree.reprItems items = .ok texts ∧
      py "\x7b" ++ join (py ", ") texts ++ py "\x7d" = text := by
    rw [Tree.repr] at h
    rcases hx : Tree.reprItems items with e | texts <;> rw [hx] at h
    · cases h
    · exact ⟨texts, rfl, Except.ok.inj h⟩
  have hitems := reprItems_eq_ok.1 htexts
  have hlength : texts.length = items.length := hitems.length_eq.symm
  by_cases hnil : items = []
  · subst hnil
    obtain rfl : texts = [] := List.length_eq_zero_iff.1 hlength
    rw [renderMapping, htake]
    exact boundedRepr_shows h fun _ => by decide
  · have hshown := (List.forall₂_take maxItems hitems).imp
      fun item text hx => renderEntry_shows hr hx
    obtain ⟨shown, hmap, hcount, hmarked, hall⟩ := mapM_shows hshown
    have hparts := shows_parts (Fits (depth + 1) (.dict items)) hlength hcount hmarked
      (fun hfits => ⟨hfits.1, hall fun item hx => hfits.2 item (List.mem_of_mem_take hx)⟩) .set
    refine ⟨_, ?_, hparts⟩
    have hempty : ¬(((items.take maxItems).map entryOf).isEmpty ∧
        decide (maxItems < items.length) = false) := by
      rintro ⟨hnone, -⟩
      rw [List.isEmpty_iff, List.map_eq_nil_iff] at hnone
      rcases List.take_eq_nil_iff.1 hnone with hzero | hnone
      · cases hzero
      · exact hnil hnone
    rw [renderMapping, htake]
    dsimp only
    rw [if_neg hempty, List.mapM_map, Function.comp_def, hmap, ok_bind, parts_plain,
      Text.joined_plain, ok_bind]
    simp [style]

/-! ## The whole -/

/-- Each depth shows a value that has a `repr`, by induction on the depth and with one case
for each kind of value. -/
theorem render_shows (depth : ℕ) : ShowsBelow depth (render (α := Tree) false depth) := by
  induction depth with
  | zero =>
    intro value text h
    cases value with
    | leaf typeName outcome => exact boundedRepr_shows h fun hfits => hfits text h
    | str s => exact boundedRepr_shows h fun hfits => Except.ok.inj h ▸ hfits
    | seq kind xs =>
      rw [render, renderValue_eq_shape, shapeOf_seq]
      exact renderItems_none_shows (.seq kind xs) _ _ id
    | dict items => exact renderMapping_none_shows (.dict items) _ id
  | succ depth ih =>
    intro value text h
    cases value with
    | leaf typeName outcome => exact boundedRepr_shows h fun hfits => hfits text h
    | str s => exact boundedRepr_shows h fun hfits => Except.ok.inj h ▸ hfits
    | seq kind xs =>
      rw [render, renderValue_eq_shape, shapeOf_seq]
      exact renderItems_some_shows ih h
    | dict items => exact renderMapping_some_shows ih h

/-- **Faithful or marked.**  With masking off, the rendering of a value whose
leaves have a `repr` is the value's `repr` where the value stays within the four
bounds, and whatever the bounds, it is the `repr` or it is marked. -/
theorem faithful_or_marked (value : Tree) (text : PyStr) (h : Tree.repr value = .ok text) :
    (Fits maxDepth value → text.length ≤ maxTotalChars →
        safeRepr false value = .ok (.plain text)) ∧
      ∃ shown, safeRepr false value = .ok (.plain shown) ∧
        (¬elision <:+: shown → shown = text) := by
  obtain ⟨shown, hrender, hshows⟩ := render_shows maxDepth value text h
  obtain ⟨hmarked, hfits⟩ := hshows.bounded maxTotalChars
  have hsafe : safeRepr false value = .ok (.plain (boundedStr shown maxTotalChars)) := by
    rw [safeRepr, hrender, ok_bind, bounded_plain]
  refine ⟨fun hfit hlen => by rw [hsafe, hfits ⟨hfit, hlen⟩], _, hsafe, fun hm => ?_⟩
  exact hmarked.resolve_left hm

end

/-- `(['a'],)`: two levels and the comma of a tuple of one, shown in full. -/
theorem faithful_or_marked_tuple :
    letI := Unicode.fullwidth
    safeRepr false (.seq .tuple [.seq .list [.str (py "a")]] : Tree) =
      .ok (.plain (py "(['a'],)")) := by
  let _ := Unicode.fullwidth
  have hrepr : Tree.repr (.seq .tuple [.seq .list [.str (py "a")]]) = .ok (py "(['a'],)") := by
    decide
  have hstr : Fits 1 (.str (py "a")) := show (reprStr (py "a")).length ≤ maxStringChars by decide
  have hlist : Fits 2 (.seq .list [.str (py "a")]) :=
    ⟨by decide, fun x hx => List.mem_singleton.1 hx ▸ hstr⟩
  have htuple : Fits maxDepth (.seq .tuple [.seq .list [.str (py "a")]]) :=
    ⟨by decide, fun x hx => List.mem_singleton.1 hx ▸ hlist⟩
  exact (faithful_or_marked _ _ hrepr).1 htuple (by decide)

end SafeRepr
end Pidprobe
