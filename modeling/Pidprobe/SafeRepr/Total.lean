/-
# Where rendering raises

`safe_repr` promises a text for every value.  It calls the value's own code all
along, and only the iteration and the `repr` sit inside a `try`, which lets
through what does not derive from `Exception`.  A class lookup, the unpacking of
an entry and the `lower` of a key sit outside.  So does everything done with a
text: `repr` may return an instance of a subclass of `str` and a metaclass may
answer for `__name__`, and it is their `__len__`, `__getitem__` and `__add__` that
measure, cut and concatenate.

`Reaches` says which values are rendered at which depth, from what the containers
above them yield; `Answers` says what one of them is asked outside a handler.
`safeRepr_returns_iff`: the rendering is a `str` exactly when every value it
reaches answers and its own text, where the value has one, can be bounded.
-/

import Pidprobe.SafeRepr
import Pidprobe.Target.Tree

namespace Pidprobe
namespace SafeRepr

section

variable [Unicode] {ε α : Type} [PyException ε] [PyObject ε α]

open PyObject

/-! ## What a value is asked -/

omit [Unicode] [PyException ε] in
/-- A call returns a `str`, of whatever class. Only then can `", ".join` take what it
returned. -/
def ReturnsStr (x : Except ε (Text α)) : Prop := ∃ text s, x = .ok text ∧ text.chars = .ok s

omit [Unicode] in
/-- What a call raises, where it raises, derives from `Exception`, and the report of
it can be put together from the names of the two types. -/
def Reported {β : Type} (value : α) (x : Except ε β) : Prop :=
  ∀ exc, x = .error exc →
    PyException.isException exc = true ∧ ∃ text, failure value exc = .ok text

omit [Unicode] in
/-- The `repr` of a value is reported where it raises, and can be measured and cut
where it returns. -/
def ReprAnswers (value : α) : Prop :=
  Reported value (repr value) ∧
    ∀ text, repr value = .ok text → ∃ cut, bounded text maxStringChars = .ok cut

omit [Unicode] in
/-- A value that is iterated over: what the iteration raises is reported, and where
it yields nothing, the `repr` answers. -/
def Iterates (value : α) (next : ℕ → Next ε α) : Prop :=
  Reported value (take next maxItems) ∧
    (take next maxItems = .ok ([], false) → ReprAnswers value)

omit [PyException ε] [Unicode] in
/-- The iteration a container of this shape is asked for: a mapping for its items, the
others for their elements. -/
def Shape.steps (value : α) : Shape → Option (ℕ → Next ε α)
  | .mapping => some (nextItem value)
  | .items _ => some (next value)
  | .other => none

/-- The text of a value that its renderer does not put together: what
`_bounded_repr` returns, or the report of an iteration that raised. -/
inductive OwnText : ℕ → α → Text α → Prop
  | repr {depth : ℕ} {value : α} {text : Text α} (hshape : shapeOf value = .ok .other)
    (h : boundedRepr value = .ok text) : OwnText depth value text
  | empty {depth : ℕ} {value : α} {text : Text α} {shape : Shape} {next : ℕ → Next ε α}
    (hshape : shapeOf value = .ok shape) (hsteps : shape.steps value = some next)
    (htake : take next maxItems = .ok ([], false)) (h : boundedRepr value = .ok text) :
    OwnText (depth + 1) value text
  | raised {depth : ℕ} {value : α} {text : Text α} {shape : Shape} {next : ℕ → Next ε α} {exc : ε}
    (hshape : shapeOf value = .ok shape) (hsteps : shape.steps value = some next)
    (htake : take next maxItems = .error exc) (hexc : PyException.isException exc = true)
    (h : failure value exc = .ok text) : OwnText (depth + 1) value text

/-- The two halves of an entry add up to a `str`: the text of the key and `": "`,
and then the mask or the text of the item. -/
def Joins (isMasked : Bool) (depth : ℕ) (key item : α) (isHidden : Bool) : Prop :=
  ∀ keyText, render isMasked depth key = .ok keyText →
    ∃ lead, keyText.add (.plain (py ": ")) = .ok lead ∧
      (isHidden = true → ReturnsStr (lead.add (.plain maskPlaceholder))) ∧
      (isHidden = false → ∀ itemText, render isMasked depth item = .ok itemText →
        ReturnsStr (lead.add itemText))

/-- The answers a value of a shape owes the renderer of a level that is not spent;
`depth` is that of the level below. -/
def AnswersShape (isMasked : Bool) (depth : ℕ) (value : α) : Shape → Prop
  | .mapping => Iterates value (nextItem value) ∧
      ∀ entries hasMore, take (nextItem value) maxItems = .ok (entries, hasMore) →
        ∀ entry ∈ entries, ∃ key item, unpack entry = .ok (key, item) ∧
          ∃ isHidden, hidesItem isMasked key = .ok isHidden ∧ Joins isMasked depth key item isHidden
  | .items _ => Iterates value (next value) ∧
      ∀ elems hasMore, take (next value) maxItems = .ok (elems, hasMore) →
        ((elems ≠ [] ∨ hasMore = true) → ∃ isTuple, isinstance value .tuple = .ok isTuple) ∧
          ∀ x ∈ elems, ∀ text, OwnText depth x text → ∃ s, text.chars = .ok s
  | .other => ReprAnswers value

/-- A value answers at a depth: its class can be looked up, and what its renderer
asks next is answered or reported.  A container at a spent depth is asked nothing
more. -/
def Answers (isMasked : Bool) : ℕ → α → Prop
  | 0, value => ∃ shape, shapeOf value = .ok shape ∧ (shape = .other → ReprAnswers value)
  | depth + 1, value => ∃ shape, shapeOf value = .ok shape ∧
      AnswersShape isMasked depth value shape

/-- The values a container has rendered one level below: elements, keys, and the items whose
keys do not hide them. -/
inductive Holds (isMasked : Bool) (value : α) : α → Prop
  | elem {style : PyStr × PyStr} {elems : List α} {hasMore : Bool} {x : α}
    (hshape : shapeOf value = .ok (.items style))
    (htake : take (next value) maxItems = .ok (elems, hasMore)) (hx : x ∈ elems) :
    Holds isMasked value x
  | key {entries : List α} {hasMore : Bool} {entry key item : α}
    (hshape : shapeOf value = .ok .mapping)
    (htake : take (nextItem value) maxItems = .ok (entries, hasMore)) (hentry : entry ∈ entries)
    (hunpack : unpack entry = .ok (key, item)) : Holds isMasked value key
  | item {entries : List α} {hasMore : Bool} {entry key item : α}
    (hshape : shapeOf value = .ok .mapping)
    (htake : take (nextItem value) maxItems = .ok (entries, hasMore)) (hentry : entry ∈ entries)
    (hunpack : unpack entry = .ok (key, item)) (hshown : hidesItem isMasked key = .ok false) :
    Holds isMasked value item

/-- Rendering a value at a depth reaches this value at that one: the calls of `_render`,
whichever container they come from. -/
inductive Reaches (isMasked : Bool) : ℕ → α → ℕ → α → Prop
  | here (depth : ℕ) (value : α) : Reaches isMasked depth value depth value
  | step {depth depth' : ℕ} {value x y : α} (h : Holds isMasked value x)
    (hr : Reaches isMasked depth x depth' y) : Reaches isMasked (depth + 1) value depth' y

/-! ## One level -/

omit [Unicode] in
/-- A handler for `Exception` returns the report, where the exception is one and the
report can be made. -/
theorem handled_eq_ok {value : α} {exc : ε} {text : Text α} :
    exceptException (.error exc) (failure value) = .ok text ↔
      PyException.isException exc = true ∧ failure value exc = .ok text := by
  by_cases h : PyException.isException exc = true <;> simp [exceptException, h]

omit [Unicode] in
/-- Whether a handler returns does not depend on what its report says, but on whether there
is one: an `Exception`, and names that can be added up. -/
theorem handled_ok {value : α} {exc : ε} :
    (∃ text, exceptException (.error exc) (failure value) = .ok text) ↔
      PyException.isException exc = true ∧ ∃ text, failure value exc = .ok text := by
  simp only [handled_eq_ok, exists_and_left]

omit [Unicode] in
/-- The bounded `repr` returns exactly where the `repr` answers: with a text that can be
cut, or with an exception that can be reported. -/
theorem boundedRepr_ok {value : α} :
    (∃ text, boundedRepr value = .ok text) ↔ ReprAnswers value := by
  unfold boundedRepr ReprAnswers Reported
  rcases repr value with exc | text
  · simp [handled_ok]
  · simp

omit [Unicode] [PyException ε] in
/-- Whether a container is a tuple of one is had where its class can be asked for. -/
theorem isSingleton_ok {value : α} {parts : List (Text α)} {hasMore : Bool} :
    (∃ b, isSingleton value parts hasMore = .ok b) ↔ ∃ b, isinstance value .tuple = .ok b := by
  unfold isSingleton
  rcases isinstance value .tuple with exc | _ | _ <;> simp

omit [Unicode] [PyException ε] in
/-- The parts of a container are joined where each of them is a `str`. -/
theorem joined_ok {sep : PyStr} {rendered : List (Text α)} {hasMore : Bool} :
    (∃ text, Text.joined sep (rendered ++ (if hasMore then [.plain elision] else [])) =
      .ok text) ↔ ∀ part ∈ rendered, ∃ s, part.chars = .ok s := by
  have hchars : (∃ parts, (rendered ++ (if hasMore then [Text.plain elision] else [])).mapM
      Text.chars = .ok parts) ↔ ∀ part ∈ rendered, ∃ s, part.chars = .ok s := by
    rw [mapM_ok]
    cases hasMore <;> simp [or_imp, forall_and]
  rw [← hchars]
  simp only [Text.joined, bind_eq_ok, Except.ok.injEq, exists_comm (α := PyStr), exists_and_left,
    exists_eq', and_true]

omit [Unicode] [PyException ε] in
/-- A round of a comprehension whose texts are all `str`: it returns, and can be joined,
where every element does. -/
theorem rendered_ok {f : α → Except ε (Text α)} {xs : List α} :
    (∃ rendered, xs.mapM f = .ok rendered ∧ ∀ part ∈ rendered, ∃ s, part.chars = .ok s) ↔
      ∀ x ∈ xs, ReturnsStr (f x) := by
  constructor
  · rintro ⟨rendered, hrendered, hparts⟩ x hx
    obtain ⟨part, hpart, hfx⟩ := exists_of_forall₂ (mapM_eq_ok.1 hrendered) hx
    obtain ⟨s, hs⟩ := hparts part hpart
    exact ⟨part, s, hfx, hs⟩
  · intro h
    obtain ⟨rendered, hrendered⟩ := forall₂_of_forall (R := fun x part => f x = .ok part ∧
      ∃ s, part.chars = .ok s) fun x hx => by
        obtain ⟨part, s, hfx, hs⟩ := h x hx
        exact ⟨part, hfx, s, hs⟩
    refine ⟨rendered, mapM_eq_ok.2 (hrendered.imp fun _ _ h => h.1), ?_⟩
    exact (forall_mem_of_forall₂ (P := fun _ => True) hrendered fun _ _ h =>
      iff_of_true h.2 trivial).2 fun _ _ => trivial

omit [Unicode] [PyException ε] [PyObject ε α] in
/-- Whether anything was yielded. -/
theorem yields_iff {elems : List α} {hasMore : Bool} :
    ¬(elems.isEmpty = true ∧ hasMore = false) ↔ elems ≠ [] ∨ hasMore = true := by
  rw [not_and_or, List.isEmpty_iff, Bool.not_eq_false]

omit [Unicode] in
/-- An iteration that yields something asks for no `repr`. -/
theorem iterates_of_yields {value : α} {next : ℕ → Next ε α} {elems : List α} {hasMore : Bool}
    (htake : take next maxItems = .ok (elems, hasMore)) (hyields : elems ≠ [] ∨ hasMore = true) :
    Iterates value next := by
  refine ⟨fun exc hexc => ?_, fun hnil => ?_⟩
  · rw [htake] at hexc
    cases hexc
  · rw [htake, Except.ok.injEq, Prod.mk.injEq] at hnil
    simp [hnil] at hyields

omit [Unicode] in
/-- An iteration that raises is answered for by its report. -/
theorem iterates_of_raises {value : α} {next : ℕ → Next ε α} {exc : ε}
    (htake : take next maxItems = .error exc) : Iterates value next ↔
      PyException.isException exc = true ∧ ∃ text, failure value exc = .ok text := by
  rw [Iterates, Reported, htake]
  constructor
  · rintro ⟨h, -⟩
    exact h exc rfl
  · intro h
    exact ⟨fun _ hexc => Except.error.inj hexc ▸ h, fun hnil => by cases hnil⟩

omit [Unicode] in
/-- One that yields nothing is answered for by the `repr`. -/
theorem iterates_of_nil {value : α} {next : ℕ → Next ε α}
    (htake : take next maxItems = .ok ([], false)) : Iterates value next ↔ ReprAnswers value := by
  refine ⟨fun h => h.2 htake, fun h => ⟨fun exc hexc => ?_, fun _ => h⟩⟩
  rw [htake] at hexc
  cases hexc

omit [Unicode] in
/-- A sequence or set is rendered where its iteration answers, and its elements are
rendered as `str`. -/
theorem renderItems_ok {render : α → Except ε (Text α)} {value : α} {style : PyStr × PyStr} :
    (∃ text, renderItems (some render) value style = .ok text) ↔
      Iterates value (next value) ∧
        ∀ elems hasMore, take (next value) maxItems = .ok (elems, hasMore) →
          ((elems ≠ [] ∨ hasMore = true) → ∃ isTuple, isinstance value .tuple = .ok isTuple) ∧
            ∀ x ∈ elems, ReturnsStr (render x) := by
  unfold renderItems
  rcases htake : take (next value) maxItems with exc | ⟨elems, hasMore⟩
  · dsimp only
    rw [handled_ok, iterates_of_raises htake]
    simp
  · dsimp only
    by_cases hempty : elems.isEmpty = true ∧ hasMore = false
    · obtain ⟨helems, rfl⟩ := hempty
      obtain rfl := List.isEmpty_iff.1 helems
      rw [if_pos ⟨rfl, rfl⟩, boundedRepr_ok, iterates_of_nil htake]
      simp
    · have hyields := yields_iff.1 hempty
      rw [if_neg hempty, and_iff_right (iterates_of_yields htake hyields)]
      constructor
      · rintro ⟨text, h⟩ _ _ heq
        obtain ⟨rfl, rfl⟩ := Prod.mk.inj (Except.ok.inj heq)
        obtain ⟨rendered, hrendered, h⟩ := bind_eq_ok.1 h
        obtain ⟨joined, hjoined, h⟩ := bind_eq_ok.1 h
        obtain ⟨isOne, hone, -⟩ := bind_eq_ok.1 h
        exact ⟨fun _ => isSingleton_ok.1 ⟨isOne, hone⟩,
          rendered_ok.1 ⟨rendered, hrendered, joined_ok.1 ⟨joined, hjoined⟩⟩⟩
      · intro h
        obtain ⟨htuple, helems⟩ := h elems hasMore rfl
        obtain ⟨rendered, hrendered, hparts⟩ := rendered_ok.2 helems
        obtain ⟨joined, hjoined⟩ := joined_ok.2 hparts
        obtain ⟨isOne, hone⟩ := isSingleton_ok.2 (htuple hyields)
        rw [hrendered, ok_bind, hjoined, ok_bind, hone, ok_bind]
        exact ⟨_, rfl⟩

/-- One entry of a mapping is rendered where it unpacks, its key is, and its item is unless
the key hides it. -/
theorem renderEntry_ok {isMasked : Bool} {depth : ℕ} {entry : α} :
    ReturnsStr (renderEntry isMasked (render isMasked depth) entry) ↔
      ∃ key item, unpack entry = .ok (key, item) ∧
        (∃ text, render isMasked depth key = .ok text) ∧
        ∃ isHidden, hidesItem isMasked key = .ok isHidden ∧ Joins isMasked depth key item isHidden ∧
          (isHidden = false → ∃ text, render isMasked depth item = .ok text) := by
  constructor
  · rintro ⟨text, s, h, hs⟩
    obtain ⟨⟨key, item⟩, hunpack, h⟩ := bind_eq_ok.1 h
    obtain ⟨keyText, hkey, h⟩ := bind_eq_ok.1 h
    obtain ⟨isHidden, hhidden, h⟩ := bind_eq_ok.1 h
    obtain ⟨lead, hlead, h⟩ := bind_eq_ok.1 h
    refine ⟨key, item, hunpack, ⟨keyText, hkey⟩, isHidden, hhidden, ?_, ?_⟩
    · intro keyText' hkey'
      obtain rfl := Except.ok.inj (hkey.symm.trans hkey')
      refine ⟨lead, hlead, ?_, ?_⟩
      · rintro rfl
        exact ⟨text, s, h, hs⟩
      · rintro rfl itemText hitem
        rw [if_neg Bool.false_ne_true, hitem] at h
        exact ⟨text, s, h, hs⟩
    · rintro rfl
      obtain ⟨itemText, hitem, -⟩ := bind_eq_ok.1 h
      exact ⟨itemText, hitem⟩
  · rintro ⟨key, item, hunpack, ⟨keyText, hkey⟩, isHidden, hhidden, hjoins, hitem⟩
    obtain ⟨lead, hlead, hmask, hshow⟩ := hjoins keyText hkey
    rw [renderEntry, hunpack, ok_bind]
    dsimp only
    rw [renderPair, hkey, ok_bind, hhidden, ok_bind, hlead, ok_bind]
    cases isHidden with
    | true => exact hmask rfl
    | false =>
      obtain ⟨itemText, hitem⟩ := hitem rfl
      rw [if_neg Bool.false_ne_true, hitem]
      exact hshow rfl itemText hitem

/-- A mapping is rendered where its iteration answers, and its entries are rendered
as `str`. -/
theorem renderMapping_ok {isMasked : Bool} {render : α → Except ε (Text α)} {value : α} :
    (∃ text, renderMapping isMasked (some render) value = .ok text) ↔
      Iterates value (nextItem value) ∧
        ∀ entries hasMore, take (nextItem value) maxItems = .ok (entries, hasMore) →
          ∀ entry ∈ entries, ReturnsStr (renderEntry isMasked render entry) := by
  unfold renderMapping
  rcases htake : take (nextItem value) maxItems with exc | ⟨entries, hasMore⟩
  · dsimp only
    rw [handled_ok, iterates_of_raises htake]
    simp
  · dsimp only
    by_cases hempty : entries.isEmpty = true ∧ hasMore = false
    · obtain ⟨hentries, rfl⟩ := hempty
      obtain rfl := List.isEmpty_iff.1 hentries
      rw [if_pos ⟨rfl, rfl⟩, boundedRepr_ok, iterates_of_nil htake]
      simp
    · rw [if_neg hempty, and_iff_right (iterates_of_yields htake (yields_iff.1 hempty))]
      constructor
      · rintro ⟨text, h⟩ _ _ heq
        obtain ⟨rfl, rfl⟩ := Prod.mk.inj (Except.ok.inj heq)
        obtain ⟨rendered, hrendered, h⟩ := bind_eq_ok.1 h
        obtain ⟨joined, hjoined, -⟩ := bind_eq_ok.1 h
        exact rendered_ok.1 ⟨rendered, hrendered, joined_ok.1 ⟨joined, hjoined⟩⟩
      · intro h
        obtain ⟨rendered, hrendered, hparts⟩ := rendered_ok.2 (h entries hasMore rfl)
        obtain ⟨joined, hjoined⟩ := joined_ok.2 hparts
        rw [hrendered, ok_bind, hjoined]
        exact ⟨_, rfl⟩

/-! ## Own texts -/

/-- A rendering is put together, and then it is a `str` of that class, or it is the
value's own text. -/
theorem plain_or_ownText {isMasked : Bool} {depth : ℕ} {value : α} {text : Text α}
    (h : render isMasked depth value = .ok text) :
    (∃ s, text = .plain s) ∨ OwnText depth value text := by
  cases depth with
  | zero =>
    rw [render, renderValue_eq_shape] at h
    obtain ⟨shape, hshape, h⟩ := bind_eq_ok.1 h
    cases shape with
    | other => exact .inr (.repr hshape h)
    | mapping => exact .inl ⟨_, (Except.ok.inj h).symm⟩
    | items style => exact .inl ⟨_, (Except.ok.inj h).symm⟩
  | succ depth =>
    rw [render, renderValue_eq_shape] at h
    obtain ⟨shape, hshape, h⟩ := bind_eq_ok.1 h
    cases shape with
    | other => exact .inr (.repr hshape h)
    | mapping =>
      rw [renderShape, renderMapping] at h
      rcases htake : take (nextItem value) maxItems with exc | ⟨entries, hasMore⟩
      · rw [htake] at h
        obtain ⟨hexc, hfailure⟩ := handled_eq_ok.1 h
        exact .inr (.raised hshape rfl htake hexc hfailure)
      · rw [htake] at h
        dsimp only at h
        by_cases hempty : entries.isEmpty = true ∧ hasMore = false
        · rw [if_pos hempty] at h
          obtain ⟨hentries, rfl⟩ := hempty
          obtain rfl := List.isEmpty_iff.1 hentries
          exact .inr (.empty hshape rfl htake h)
        · rw [if_neg hempty] at h
          obtain ⟨rendered, -, h⟩ := bind_eq_ok.1 h
          obtain ⟨joined, -, h⟩ := bind_eq_ok.1 h
          exact .inl ⟨_, (Except.ok.inj h).symm⟩
    | items style =>
      rw [renderShape, renderItems] at h
      rcases htake : take (next value) maxItems with exc | ⟨elems, hasMore⟩
      · rw [htake] at h
        obtain ⟨hexc, hfailure⟩ := handled_eq_ok.1 h
        exact .inr (.raised hshape rfl htake hexc hfailure)
      · rw [htake] at h
        dsimp only at h
        by_cases hempty : elems.isEmpty = true ∧ hasMore = false
        · rw [if_pos hempty] at h
          obtain ⟨helems, rfl⟩ := hempty
          obtain rfl := List.isEmpty_iff.1 helems
          exact .inr (.empty hshape rfl htake h)
        · rw [if_neg hempty] at h
          obtain ⟨rendered, -, h⟩ := bind_eq_ok.1 h
          obtain ⟨joined, -, h⟩ := bind_eq_ok.1 h
          obtain ⟨isOne, -, h⟩ := bind_eq_ok.1 h
          exact .inl ⟨_, (Except.ok.inj h).symm⟩

/-- The own text of a value is what it is rendered as. -/
theorem OwnText.render {depth : ℕ} {value : α} {text : Text α} (h : OwnText depth value text)
    (isMasked : Bool) : render isMasked depth value = .ok text := by
  cases h with
  | @repr depth _ _ hshape h =>
    cases depth <;> rw [SafeRepr.render, renderValue_eq_shape, hshape, ok_bind] <;> exact h
  | @empty _ _ _ shape _ hshape hsteps htake h =>
    rw [SafeRepr.render, renderValue_eq_shape, hshape, ok_bind]
    cases shape with
    | other => cases hsteps
    | mapping =>
      obtain rfl := Option.some.inj hsteps
      simp [renderShape, renderMapping, htake, h]
    | items style =>
      obtain rfl := Option.some.inj hsteps
      simp [renderShape, renderItems, htake, h]
  | @raised _ _ _ shape _ _ hshape hsteps htake hexc h =>
    rw [SafeRepr.render, renderValue_eq_shape, hshape, ok_bind]
    cases shape with
    | other => cases hsteps
    | mapping =>
      obtain rfl := Option.some.inj hsteps
      simp [renderShape, renderMapping, htake, exceptException, hexc, h]
    | items style =>
      obtain rfl := Option.some.inj hsteps
      simp [renderShape, renderItems, htake, exceptException, hexc, h]

/-! ## All levels -/

/-- A level that is spent shows its containers without looking into them; what is no
container is shown by its `repr` all the same. -/
theorem render_zero_ok {isMasked : Bool} {value : α} :
    (∃ text, render isMasked 0 value = .ok text) ↔ Answers isMasked 0 value := by
  rw [render, renderValue_eq_shape, Answers]
  rcases shapeOf value with exc | shape
  · simp
  · rw [ok_bind]
    cases shape with
    | other => simp [renderShape, boundedRepr_ok]
    | mapping => simp [renderShape, renderMapping]
    | items style => simp [renderShape, renderItems]

/-- An element is rendered as a `str` where it is rendered and its own text, if it
has one, is a `str`. -/
theorem returnsStr_render {isMasked : Bool} {depth : ℕ} {x : α} :
    ReturnsStr (render isMasked depth x) ↔ (∃ text, render isMasked depth x = .ok text) ∧
      ∀ text, OwnText depth x text → ∃ s, text.chars = .ok s := by
  constructor
  · rintro ⟨text, s, htext, hs⟩
    refine ⟨⟨text, htext⟩, fun own hown => ⟨s, ?_⟩⟩
    rwa [← Except.ok.inj (htext.symm.trans (hown.render isMasked))]
  · rintro ⟨⟨text, htext⟩, hown⟩
    rcases plain_or_ownText htext with ⟨s, rfl⟩ | h
    · exact ⟨_, s, htext, rfl⟩
    · obtain ⟨s, hs⟩ := hown text h
      exact ⟨text, s, htext, hs⟩

/-- A sequence or set: its elements are what it holds, as far as `_take` takes them, and it
is rendered where they are. -/
theorem renderItems_answers {isMasked : Bool} {depth : ℕ} {value : α} {style : PyStr × PyStr}
    (hshape : shapeOf value = .ok (.items style)) :
    (∃ text, renderItems (some (render isMasked depth)) value style = .ok text) ↔
      AnswersShape isMasked depth value (.items style) ∧
        ∀ x, Holds isMasked value x → ∃ text, render isMasked depth x = .ok text := by
  rw [renderItems_ok, AnswersShape, and_assoc]
  refine and_congr_right fun _ => ?_
  simp only [returnsStr_render]
  constructor
  · intro h
    refine ⟨fun elems hasMore htake => ?_, fun x hx => ?_⟩
    · exact ⟨(h elems hasMore htake).1, fun x hx => ((h elems hasMore htake).2 x hx).2⟩
    · cases hx with
      | elem hs htake hx => exact ((h _ _ htake).2 x hx).1
      | key hs => simp [hshape] at hs
      | item hs => simp [hshape] at hs
  · rintro ⟨hown, helems⟩ elems hasMore htake
    refine ⟨(hown elems hasMore htake).1, fun x hx => ?_⟩
    exact ⟨helems x (.elem hshape htake hx), (hown elems hasMore htake).2 x hx⟩

/-- A mapping: it holds the keys of its entries, and the items it does not hide. It is
rendered where all of these are. -/
theorem renderMapping_answers {isMasked : Bool} {depth : ℕ} {value : α}
    (hshape : shapeOf value = .ok .mapping) :
    (∃ text, renderMapping isMasked (some (render isMasked depth)) value = .ok text) ↔
      AnswersShape isMasked depth value .mapping ∧
        ∀ x, Holds isMasked value x → ∃ text, render isMasked depth x = .ok text := by
  rw [renderMapping_ok, AnswersShape, and_assoc]
  refine and_congr_right fun _ => ?_
  simp only [renderEntry_ok]
  constructor
  · intro h
    refine ⟨fun entries hasMore htake entry hentry => ?_, fun x hx => ?_⟩
    · obtain ⟨key, item, hunpack, -, isHidden, hhidden, hjoins, -⟩ :=
        h entries hasMore htake entry hentry
      exact ⟨key, item, hunpack, isHidden, hhidden, hjoins⟩
    · cases hx with
      | elem hs => simp [hshape] at hs
      | key hs htake hentry hunpack =>
        obtain ⟨key, item, hunpack', hkey, -⟩ := h _ _ htake _ hentry
        rw [hunpack', Except.ok.injEq, Prod.mk.injEq] at hunpack
        exact hunpack.1 ▸ hkey
      | item hs htake hentry hunpack hshown =>
        obtain ⟨key, item, hunpack', -, isHidden, hhidden, -, hitem⟩ := h _ _ htake _ hentry
        rw [hunpack', Except.ok.injEq, Prod.mk.injEq] at hunpack
        obtain ⟨rfl, rfl⟩ := hunpack
        rw [hhidden, Except.ok.injEq] at hshown
        exact hitem hshown
  · rintro ⟨hentries, hbelow⟩ entries hasMore htake entry hentry
    obtain ⟨key, item, hunpack, isHidden, hhidden, hjoins⟩ :=
      hentries entries hasMore htake entry hentry
    refine ⟨key, item, hunpack, hbelow _ (.key hshape htake hentry hunpack), isHidden,
      hhidden, hjoins, ?_⟩
    rintro rfl
    exact hbelow _ (.item hshape htake hentry hunpack hhidden)

/-- **A level of containers** is rendered where the value answers and every value
it holds is rendered below. -/
theorem render_succ_ok {isMasked : Bool} {depth : ℕ} {value : α} :
    (∃ text, render isMasked (depth + 1) value = .ok text) ↔
      Answers isMasked (depth + 1) value ∧
        ∀ x, Holds isMasked value x → ∃ text, render isMasked depth x = .ok text := by
  rw [render, renderValue_eq_shape, Answers]
  rcases hshape : shapeOf value with exc | shape
  · simp
  simp only [ok_bind, Except.ok.injEq, exists_eq_left']
  cases shape with
  | other =>
    -- it holds nothing
    rw [renderShape, boundedRepr_ok, AnswersShape, iff_self_and]
    intro _ x hx
    cases hx <;> simp_all
  | items style => exact renderItems_answers hshape
  | mapping => exact renderMapping_answers hshape

/-- The induction over the depth: a value is rendered exactly where every value that is
reached answers for itself. -/
theorem render_ok_iff {isMasked : Bool} {depth : ℕ} {value : α} :
    (∃ text, render isMasked depth value = .ok text) ↔
      ∀ depth' x, Reaches isMasked depth value depth' x → Answers isMasked depth' x := by
  induction depth generalizing value with
  | zero =>
    rw [render_zero_ok]
    constructor
    · intro h depth' x hx
      cases hx
      exact h
    · exact fun h => h _ _ (.here _ _)
  | succ depth ih =>
    simp only [render_succ_ok, ih]
    constructor
    · rintro ⟨hvalue, hbelow⟩ depth' x hx
      cases hx with
      | here => exact hvalue
      | step hholds hx => exact hbelow _ hholds depth' x hx
    · intro h
      exact ⟨h _ _ (.here _ _), fun x hx depth' y hy => h _ _ (.step hx hy)⟩

/-- **Where `safe_repr` returns a string.**  For every value and both masking modes
it does so exactly when every value the rendering reaches, at the depth it is
reached at, answers, and the value's own text, where it has one, is a `str` once it
is bounded. -/
theorem safeRepr_returns_iff (isMasked : Bool) (value : α) :
    (∃ text s, safeRepr isMasked value = .ok text ∧ text.chars = .ok s) ↔
      (∀ depth x, Reaches isMasked maxDepth value depth x → Answers isMasked depth x) ∧
        ∀ own, OwnText maxDepth value own → ReturnsStr (bounded own maxTotalChars) := by
  rw [← render_ok_iff]
  constructor
  · rintro ⟨text, s, h, hs⟩
    obtain ⟨rendered, hrendered, h⟩ := bind_eq_ok.1 h
    refine ⟨⟨rendered, hrendered⟩, fun own hown => ⟨text, s, ?_, hs⟩⟩
    rwa [← Except.ok.inj (hrendered.symm.trans (hown.render isMasked))]
  · rintro ⟨⟨rendered, hrendered⟩, hown⟩
    rw [safeRepr, hrendered, ok_bind]
    rcases plain_or_ownText hrendered with ⟨s, rfl⟩ | h
    · exact ⟨_, _, bounded_plain s _, rfl⟩
    · exact hown rendered h

end

/-- A subclass of `dict` whose `items()` yields the number 1, which cannot be unpacked into
a key and an item. -/
inductive OddDict
  | dict
  | one

instance : PyObject ExcData OddDict where
  isinstance value cls := .ok (match value with
    | .dict => cls = .dict
    | .one => false)
  typeName
    | .dict => .ok (.plain (py "OddDict"))
    | .one => .ok (.plain (py "int"))
  nameObject _ := .one
  repr
    | .dict => .ok (.plain (py "\x7b\x7d"))
    | .one => .ok (.plain (py "1"))
  str
    | .dict => .ok (py "\x7b\x7d")
    | .one => .ok (py "1")
  lower _ := .error (.plain (py "AttributeError") (py "lower"))
  next _ _ := .stop
  nextItem
    | .dict, 0 => .item .one
    | _, _ => .stop
  unpack _ := .error (.plain (py "TypeError") (py "cannot unpack non-iterable int object"))
  len
    | .dict => .ok 0
    | .one => .error (.plain (py "TypeError") (py "object of type 'int' has no len()"))
  head
    | .dict, _ => .error (.plain (py "KeyError") (py "slice(None, 200, None)"))
    | .one, _ => .error (.plain (py "TypeError") (py "'int' object is not subscriptable"))
  add _ _ := .error (.plain (py "TypeError") (py "unsupported operand type(s) for +"))
  radd _ _ := .error (.plain (py "TypeError") (py "can only concatenate str to str"))
  chars _ := .error (.plain (py "TypeError") (py "expected str instance"))
  dumps
    | .dict => .ok (.obj [])
    | .one => .ok (.int 1)

/-- Unpacking its entries is no part of the `try` around `items()`: the `TypeError` leaves
`safe_repr`. -/
theorem odd_items_not_rendered :
    letI := Unicode.fullwidth
    (¬∃ text s, safeRepr true OddDict.dict = .ok text ∧ text.chars = .ok s) ∧
      ¬∃ text s, safeRepr false OddDict.dict = .ok text ∧ text.chars = .ok s := by
  let _ := Unicode.fullwidth
  constructor <;>
    · rintro ⟨text, s, h, -⟩
      cases h

end SafeRepr
end Pidprobe
