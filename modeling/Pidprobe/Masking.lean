/-
# What masked rendering reveals

Two values that differ only in the items stored under secret string keys are
rendered alike by `safe_repr` with masking on, and two frames that differ only
in such items and in the locals bound to secret names have the same
`frame_locals`.

"Differ only in such items" is the largest relation whose members answer every
question `safe_repr` asks alike (`MaskedBisim`), so it covers values of any
depth and width, values that nest into themselves and iterations that fail.
`Tree.SameButSecrets` is the relation on values built from the containers and
leaves by finitely many steps.
-/

import Pidprobe.SafeRepr
import Pidprobe.Target.Tree

namespace Pidprobe
namespace SafeRepr

variable {ε α : Type}

/-! ## The relation -/

/-- Two steps of an iteration that end alike, with related items: both yield, both stop, or
both raise the same exception. -/
inductive NextRel (R : α → α → Prop) : Next ε α → Next ε α → Prop
  | item {a b : α} (h : R a b) : NextRel R (.item a) (.item b)
  | stop : NextRel R .stop .stop
  | raises (exc : ε) : NextRel R (.raises exc) (.raises exc)

section Relation

variable [Unicode] [PyObject ε α]

open PyObject

/-- A string key that `is_secret_name` accepts. A key of a subclass of `str` is taken by
what its own `lower` answers. -/
def SecretKey (key : α) : Prop :=
  isinstance key .str = .ok true ∧ ∃ t, lower key = .ok t ∧ isSecretLowered t = true

/-- Two items with related keys, whose values are related unless the key is a
secret one. -/
def PairRel (R : α → α → Prop) (p q : α × α) : Prop :=
  R p.1 q.1 ∧ (isinstance p.1 .str = .ok true → lower p.1 = lower q.1) ∧
    (SecretKey p.1 ∨ R p.2 q.2)

/-- `safe_repr` shows the `repr` of this value: it is no container, or an empty
one. -/
def ShowsRepr (a : α) : Prop :=
  (∀ cls, cls ≠ .str → isinstance a cls = .ok false) ∨
    (isinstance a .dict = .ok true ∧ nextItem a 0 = .stop) ∨
      isinstance a .dict = .ok false ∧ next a 0 = .stop

/-- Related values are of one shape: they have the same class, their elements
and items come one by one in the same order with the same failures, their
elements are related, their items have related keys, and the values of the
items are related unless the key is secret. -/
structure MaskedBisim (R : α → α → Prop) : Prop where
  isinstance_eq : ∀ {a b}, R a b → ∀ cls, isinstance a cls = isinstance b cls
  typeName_eq : ∀ {a b}, R a b → typeName a = typeName b
  repr_eq : ∀ {a b}, R a b → ShowsRepr a → repr a = repr b
  next_rel : ∀ {a b}, R a b → ∀ i, NextRel R (next a i) (next b i)
  nextItem_rel : ∀ {a b}, R a b → ∀ i,
    NextRel (fun x y => SameEnd (PairRel R) (unpack x) (unpack y)) (nextItem a i) (nextItem b i)

/-- Values that differ only in the items stored under secret string keys: they are related
by a bisimulation, so cycles are allowed. -/
def SameButSecrets (a b : α) : Prop := ∃ R : α → α → Prop, MaskedBisim R ∧ R a b

/-- Frames that differ only in such items and in locals bound to secret names. The names
themselves are the same. -/
def SameFrame (x y : Except ε (List (α × α))) : Prop :=
  SameEnd (List.Forall₂ fun p q => str p.1 = str q.1 ∧
    ((∃ name, str p.1 = .ok name ∧ isSecretName name = true) ∨ SameButSecrets p.2 q.2)) x y

end Relation

/-! ## One level -/

/-- Iterations that agree step by step yield as many items and end alike, with or without
more behind the limit. -/
theorem takeFrom_sameEnd {R : α → α → Prop} {f g : ℕ → Next ε α}
    (h : ∀ i, NextRel R (f i) (g i)) (room i : ℕ) :
    SameEnd (fun p q => List.Forall₂ R p.1 q.1 ∧ p.2 = q.2)
      (takeFrom f room i) (takeFrom g room i) := by
  induction room generalizing i with
  | zero =>
    unfold takeFrom
    generalize f i = x, g i = y, h i = hi
    cases hi with
    | item _ => exact .ok ⟨.nil, rfl⟩
    | stop => exact .ok ⟨.nil, rfl⟩
    | raises exc => exact .error exc
  | succ room ih =>
    unfold takeFrom
    generalize f i = x, g i = y, h i = hi
    cases hi with
    | stop => exact .ok ⟨.nil, rfl⟩
    | raises exc => exact .error exc
    | item hab =>
      dsimp only
      generalize takeFrom f room (i + 1) = x, takeFrom g room (i + 1) = y, ih (i + 1) = hrest
      cases hrest with
      | error e => exact .error e
      | ok hpq => exact .ok ⟨.cons hab hpq.1, hpq.2⟩

/-- A loop that returns nothing stopped at its first step. -/
theorem takeFrom_eq_nil {f : ℕ → Next ε α} {room i : ℕ} (h : takeFrom f room i = .ok ([], false)) :
    f i = .stop := by
  unfold takeFrom at h
  cases hf : f i with
  | stop => rfl
  | raises exc => simp [hf] at h
  | item b =>
    cases room with
    | zero => simp [hf] at h
    | succ room =>
      simp only [hf] at h
      obtain ⟨p, -, hp⟩ := bind_eq_ok.1 h
      simp at hp

section Render

variable [Unicode] [PyException ε] [PyObject ε α] {R : α → α → Prop}

open PyObject

/-- The report of a failure shows the names of two types, and related values have one type
name. -/
theorem failure_eq (hR : MaskedBisim R) {a b : α} (h : R a b) : failure a = failure b := by
  funext exc
  rw [failure, failure, hR.typeName_eq h]

/-- Where the `repr` of a value is shown, related values have the same one. That is what the
bisimulation asks of them. -/
theorem boundedRepr_eq (hR : MaskedBisim R) {a b : α} (h : R a b) (hs : ShowsRepr a) :
    boundedRepr a = boundedRepr b := by
  rw [boundedRepr, boundedRepr, hR.repr_eq h hs, failure_eq hR h]

/-- What the renderers of the level below agree on: related values have one rendering there,
which is the induction hypothesis. -/
def InnerAgree (R : α → α → Prop) (f : Option (α → Except ε (Text α))) : Prop :=
  ∀ render ∈ f, ∀ a b, R a b → render a = render b

/-- Related containers that are no dictionaries yield related elements, so they are
rendered alike. -/
theorem renderItems_eq (hR : MaskedBisim R) {inner : Option (α → Except ε (Text α))}
    (hi : InnerAgree R inner) {a b : α} (h : R a b) (hd : isinstance a .dict = .ok false)
    (style : PyStr × PyStr) : renderItems inner a style = renderItems inner b style := by
  cases inner with
  | none => rfl
  | some render =>
    have hrest := takeFrom_sameEnd (hR.next_rel h) maxItems 0
    have hnil : take (next a) maxItems = .ok ([], false) → boundedRepr a = boundedRepr b :=
      fun ht => boundedRepr_eq hR h (.inr (.inr ⟨hd, takeFrom_eq_nil ht⟩))
    simp only [renderItems, isSingleton, hR.isinstance_eq h, failure_eq hR h]
    unfold take at hnil ⊢
    generalize takeFrom (next a) maxItems 0 = x, takeFrom (next b) maxItems 0 = y at *
    cases hrest with
    | error exc => rfl
    | @ok p q hpq =>
      obtain ⟨items, hasMore⟩ := p
      obtain ⟨items', hasMore'⟩ := q
      obtain ⟨hitems, rfl⟩ : List.Forall₂ R items items' ∧ hasMore = hasMore' := hpq
      have hm := mapM_eq_of_forall₂ hitems (hi render rfl)
      cases hitems with
      | nil =>
        cases hasMore with
        | false => simpa using hnil rfl
        | true => rfl
      | cons hab hrest =>
        simp only [List.isEmpty_cons, Bool.false_eq_true, false_and, if_false, hm]

omit [PyException ε] in
/-- Whether an item is hidden depends on its key alone, and on that through its lower-case
text. -/
theorem hidesItem_eq (hR : MaskedBisim R) {k k' : α} (hk : R k k')
    (hl : isinstance k .str = .ok true → lower k = lower k') :
    hidesItem true k = hidesItem true k' := by
  unfold hidesItem
  rw [if_pos rfl, if_pos rfl, ← hR.isinstance_eq hk]
  rcases hs : isinstance k .str with exc | b
  · rfl
  · cases b with
    | false => rfl
    | true => rw [hl hs]

omit [PyException ε] in
/-- The value under a secret key is never looked at, with masking on. -/
theorem hidesItem_of_secretKey {k : α} (h : SecretKey k) : hidesItem true k = .ok true := by
  obtain ⟨hs, t, ht, hsec⟩ := h
  simp [hidesItem, hs, ht, hsec, Except.map]

omit [PyException ε] in
/-- Items that may differ in the value of a secret key only are rendered alike: the key is
shown, the value is not. -/
theorem renderEntry_eq (hR : MaskedBisim R) {render : α → Except ε (Text α)}
    (hi : ∀ a b, R a b → render a = render b) {x y : α}
    (h : SameEnd (PairRel R) (unpack x) (unpack y)) :
    renderEntry true render x = renderEntry true render y := by
  refine h.bind_eq fun p q ⟨hk, hl, hv⟩ => ?_
  show renderPair true render p.1 p.2 = renderPair true render q.1 q.2
  unfold renderPair
  rw [← hi _ _ hk, ← hidesItem_eq hR hk hl]
  rcases hv with hs | hv
  · rw [hidesItem_of_secretKey hs]
    rfl
  · rw [← hi _ _ hv]

/-- Related dictionaries are rendered alike: items under secret keys are the mask on both
sides, and the others are related. -/
theorem renderMapping_eq (hR : MaskedBisim R) {inner : Option (α → Except ε (Text α))}
    (hi : InnerAgree R inner) {a b : α} (h : R a b) (hd : isinstance a .dict = .ok true) :
    renderMapping true inner a = renderMapping true inner b := by
  cases inner with
  | none => rfl
  | some render =>
    have hrest := takeFrom_sameEnd (hR.nextItem_rel h) maxItems 0
    have hnil : take (nextItem a) maxItems = .ok ([], false) → boundedRepr a = boundedRepr b :=
      fun ht => boundedRepr_eq hR h (.inr (.inl ⟨hd, takeFrom_eq_nil ht⟩))
    simp only [renderMapping, failure_eq hR h]
    unfold take at hnil ⊢
    generalize takeFrom (nextItem a) maxItems 0 = x, takeFrom (nextItem b) maxItems 0 = y at *
    cases hrest with
    | error exc => rfl
    | @ok p q hpq =>
      obtain ⟨items, hasMore⟩ := p
      obtain ⟨items', hasMore'⟩ := q
      obtain ⟨hitems, hmore⟩ := hpq
      obtain rfl : hasMore = hasMore' := hmore
      have hm := mapM_eq_of_forall₂ hitems fun x y hxy => renderEntry_eq hR (hi render rfl) hxy
      cases hitems with
      | nil =>
        cases hasMore with
        | false => simpa using hnil rfl
        | true => rfl
      | cons hab hrest =>
        simp only [List.isEmpty_cons, Bool.false_eq_true, false_and, if_false, hm]

/-- One level renders related values alike when the level below does. -/
theorem renderValue_eq (hR : MaskedBisim R) {inner : Option (α → Except ε (Text α))}
    (hi : InnerAgree R inner) {a b : α} (h : R a b) :
    renderValue true inner a = renderValue true inner b := by
  unfold renderValue
  simp only [← hR.isinstance_eq h]
  rcases hd : isinstance a .dict with exc | _ | _
  · rfl
  swap
  · exact renderMapping_eq hR hi h hd
  have hitems := renderItems_eq hR hi h hd
  rcases hl : isinstance a .list with exc | _ | _
  · rfl
  swap
  · exact hitems _
  rcases ht : isinstance a .tuple with exc | _ | _
  · rfl
  swap
  · exact hitems _
  rcases hf : isinstance a .frozenset with exc | _ | _
  · rfl
  swap
  · exact hitems _
  rcases hs : isinstance a .set with exc | _ | _
  · rfl
  swap
  · exact hitems _
  refine boundedRepr_eq hR h (.inl fun cls hcls => ?_)
  cases cls <;> first | assumption | exact absurd rfl hcls

/-- The induction over the depth: related values have the same rendering, or raise the same
exception, at every one. -/
theorem render_eq (hR : MaskedBisim R) (depth : ℕ) {a b : α} (h : R a b) :
    render true depth a = render true depth b := by
  induction depth generalizing a b with
  | zero => exact renderValue_eq hR (fun _ hr => by cases hr) h
  | succ depth ih =>
    refine renderValue_eq hR (fun r hr x y hxy => ?_) h
    obtain rfl : render true depth = r := Option.some.inj hr
    exact ih hxy

/-- Values that differ only in secrets have the same rendering, at the whole depth. -/
theorem safeRepr_eq {a b : α} (h : SameButSecrets a b) : safeRepr true a = safeRepr true b := by
  obtain ⟨R, hR, h⟩ := h
  rw [safeRepr, safeRepr, render_eq hR maxDepth h]

/-- A local is rendered alike where its name is secret or its values are the
same but for secrets. -/
theorem renderLocal_eq {p q : α × α} (hname : str p.1 = str q.1)
    (hval : (∃ name, str p.1 = .ok name ∧ isSecretName name = true) ∨ SameButSecrets p.2 q.2) :
    renderLocal true p = renderLocal true q := by
  unfold renderLocal
  rw [← hname]
  rcases hval with ⟨name, hn, hs⟩ | hval
  · simp only [hn, ok_bind, safeReprNamed, hs, and_self, if_true]
  · unfold safeReprNamed
    rw [safeRepr_eq hval]

/-- Frames that differ only in secrets, by their names or by the keys inside, show the
same locals. -/
theorem frameLocals_eq {x y : Except ε (List (α × α))} (h : SameFrame x y) :
    frameLocals true x = frameLocals true y := by
  cases h with
  | error exc => rfl
  | ok h =>
    exact congrArg (· >>= _) (mapM_eq_of_forall₂ h fun p q hpq => renderLocal_eq hpq.1 hpq.2)

end Render

/-! ## Values built from containers and leaves -/

mutual

/-- Trees of one shape that differ only in the items under secret string keys, at any depth
of lists, sets, tuples and dictionaries. -/
inductive SameTree [Unicode] : Tree → Tree → Prop
  | leaf (typeName : PyStr) (outcome : Except ExcData PyStr) :
    SameTree (.leaf typeName outcome) (.leaf typeName outcome)
  | str (s : PyStr) : SameTree (.str s) (.str s)
  | seq (kind : Kind) {xs ys : List Tree} (h : SameElems xs ys) :
    SameTree (.seq kind xs) (.seq kind ys)
  | dict {xs ys : List (Tree × Tree)} (h : SameItems xs ys) : SameTree (.dict xs) (.dict ys)

/-- Elements that pairwise differ only so. -/
inductive SameElems [Unicode] : List Tree → List Tree → Prop
  | nil : SameElems [] []
  | cons {x y : Tree} {xs ys : List Tree} (h : SameTree x y) (hs : SameElems xs ys) :
    SameElems (x :: xs) (y :: ys)

/-- Items that pairwise differ only so, or in the value of a secret key. -/
inductive SameItems [Unicode] : List (Tree × Tree) → List (Tree × Tree) → Prop
  | nil : SameItems [] []
  | shown {k k' v v' : Tree} {ms ms' : List (Tree × Tree)} (hk : SameTree k k')
    (hv : SameTree v v') (hs : SameItems ms ms') : SameItems ((k, v) :: ms) ((k', v') :: ms')
  | secret {s : PyStr} (h : isSecretName s = true) (v v' : Tree) {ms ms' : List (Tree × Tree)}
    (hs : SameItems ms ms') : SameItems ((.str s, v) :: ms) ((.str s, v') :: ms')

end

section Tree

variable [Unicode]

/-- Lists of values with the same elements but for secrets, element by element. -/
theorem SameElems.forall₂ : ∀ {xs ys : List Tree}, SameElems xs ys → List.Forall₂ SameTree xs ys
  | _, _, .nil => .nil
  | _, _, .cons h hs => .cons h hs.forall₂

/-- Dictionaries with the same items but for secrets have the same keys but for secrets,
in order. -/
theorem SameItems.keys : ∀ {xs ys : List (Tree × Tree)}, SameItems xs ys →
    List.Forall₂ SameTree (xs.map Prod.fst) (ys.map Prod.fst)
  | _, _, .nil => .nil
  | _, _, .shown hk _ hs => .cons hk hs.keys
  | _, _, .secret _ _ _ hs => .cons (.str _) hs.keys

/-- The lower-case text of a key is the same on both sides, as a `str` has no secret
inside. -/
theorem SameTree.lower_eq {k k' : Tree} (h : SameTree k k') :
    PyObject.lower k = PyObject.lower k' := by
  cases h <;> rfl

/-- A `str` with a secret name is a secret key. -/
theorem secretKey_str {s : PyStr} (h : isSecretName s = true) : SecretKey (Tree.str s) :=
  ⟨rfl, _, rfl, h⟩

/-- The items as `items()` yields them. -/
theorem SameItems.pairs : ∀ {xs ys : List (Tree × Tree)}, SameItems xs ys →
    List.Forall₂ (fun x y => SameEnd (PairRel SameTree) (PyObject.unpack x) (PyObject.unpack y))
      (xs.map fun item => Tree.seq .tuple [item.1, item.2])
      (ys.map fun item => Tree.seq .tuple [item.1, item.2])
  | _, _, .nil => .nil
  | _, _, .shown hk hv hs => .cons (.ok ⟨hk, fun _ => hk.lower_eq, .inr hv⟩) hs.pairs
  | _, _, .secret h _ _ hs =>
    .cons (.ok ⟨.str _, fun _ => rfl, .inl (secretKey_str h)⟩) hs.pairs

omit [Unicode] in
/-- Lists of related elements are iterated alike. -/
theorem nextOf_rel {R : Tree → Tree → Prop} {xs ys : List Tree} (h : List.Forall₂ R xs ys)
    (i : ℕ) : NextRel R (Tree.nextOf xs i) (Tree.nextOf ys i) := by
  induction h generalizing i with
  | nil => exact .stop
  | cons hab _ ih =>
    cases i with
    | zero => exact .item hab
    | succ i => exact ih i

/-- Iterating two values that differ only in secrets yields values that do. -/
theorem SameTree.next_rel {a b : Tree} (h : SameTree a b) (i : ℕ) :
    NextRel SameTree (PyObject.next a i) (PyObject.next b i) := by
  cases h with
  | leaf => exact .raises _
  | str s =>
    refine nextOf_rel ?_ i
    exact List.forall₂_map_left_iff.2 (List.forall₂_map_right_iff.2
      (List.forall₂_same.2 fun c _ => .str [c]))
  | seq kind hs => exact nextOf_rel hs.forall₂ i
  | dict hs => exact nextOf_rel hs.keys i

/-- So does iterating over their items, pair by pair. -/
theorem SameTree.nextItem_rel {a b : Tree} (h : SameTree a b) (i : ℕ) :
    NextRel (fun x y => SameEnd (PairRel SameTree) (PyObject.unpack x) (PyObject.unpack y))
      (PyObject.nextItem a i) (PyObject.nextItem b i) := by
  cases h with
  | leaf => exact .raises _
  | str => exact .raises _
  | seq => exact .raises _
  | dict hs => exact nextOf_rel hs.pairs i

/-- A sequence with elements is never shown by its own `repr`. -/
theorem not_showsRepr_seq (kind : Kind) (x : Tree) (xs : List Tree) :
    ¬ShowsRepr (Tree.seq kind (x :: xs)) := by
  rintro (hs | ⟨hd, -⟩ | ⟨-, hn⟩)
  · have := hs kind.builtin (by cases kind <;> decide)
    simp [PyObject.isinstance] at this
  · cases kind <;> simp [PyObject.isinstance, Kind.builtin] at hd
  · cases hn

/-- A dictionary with items is never shown by its own `repr`. -/
theorem not_showsRepr_dict (m : Tree × Tree) (ms : List (Tree × Tree)) :
    ¬ShowsRepr (Tree.dict (m :: ms)) := by
  rintro (hs | ⟨-, hn⟩ | ⟨hd, -⟩)
  · have := hs .dict (by decide)
    simp [PyObject.isinstance] at this
  · cases hn
  · simp [PyObject.isinstance] at hd

/-- A container that shows its `repr` is empty, and so is a related one. -/
theorem SameTree.repr_eq {a b : Tree} (h : SameTree a b) (hs : ShowsRepr a) :
    PyObject.repr a = PyObject.repr b := by
  cases h with
  | leaf | str => rfl
  | seq kind hxy =>
    cases hxy with
    | nil => rfl
    | cons => exact absurd hs (not_showsRepr_seq _ _ _)
  | dict hxy =>
    cases hxy with
    | nil => rfl
    | shown | secret => exact absurd hs (not_showsRepr_dict _ _)

/-- Being the same but for secrets is a bisimulation for the masked renderer, on the trees
of the built-in types. -/
theorem sameTree_maskedBisim : MaskedBisim SameTree where
  isinstance_eq h cls := by cases h <;> rfl
  typeName_eq h := by cases h <;> rfl
  repr_eq := SameTree.repr_eq
  next_rel := SameTree.next_rel
  nextItem_rel := SameTree.nextItem_rel

/-- Trees of one shape are values that differ only in secret items. -/
theorem SameTree.sameButSecrets {a b : Tree} (h : SameTree a b) : SameButSecrets a b :=
  ⟨_, sameTree_maskedBisim, h⟩

/-- **Masked rendering is noninterference on structured values.**  Values that
differ only in the items under secret string keys are rendered alike, and frames
that differ only in such items and in locals bound to secret names have the same
`frame_locals`; trees of one shape that differ only in such items are values of
this kind, whatever their depth and width. -/
theorem masked_rendering_noninterference [PyException ε] [PyObject ε α] :
    (∀ a b : α, SameButSecrets a b → safeRepr true a = safeRepr true b) ∧
      (∀ x y : Except ε (List (α × α)), SameFrame x y → frameLocals true x = frameLocals true y) ∧
      ∀ a b : Tree, SameTree a b → SameButSecrets a b :=
  ⟨fun _ _ => safeRepr_eq, fun _ _ => frameLocals_eq, fun _ _ => SameTree.sameButSecrets⟩

/-- A dictionary as a login form would hold it: a user that is shown and a password that is
not. -/
def loginForm (password : PyStr) : Tree :=
  .dict [(.str (py "user"), .str (py "ada")), (.str (py "password"), .str password)]

end Tree

/-- Two login forms with different passwords, inside a list and as a local, and
two tokens as locals. -/
theorem masked_rendering_noninterference_login :
    letI := Unicode.fullwidth
    safeRepr true (Tree.seq .list [loginForm (py "hunter2")]) =
        safeRepr true (Tree.seq .list [loginForm (py "swordfish")]) ∧
      frameLocals true (.ok [(Tree.str (py "form"), loginForm (py "hunter2")),
          (Tree.str (py "api_token"), Tree.str (py "x1"))]) =
        frameLocals true (.ok [(Tree.str (py "form"), loginForm (py "swordfish")),
          (Tree.str (py "api_token"), Tree.dict [])]) := by
  let _ := Unicode.fullwidth
  have hsec : isSecretName (py "password") = true := by decide
  have hform : SameTree (loginForm (py "hunter2")) (loginForm (py "swordfish")) :=
    .dict (.shown (.str _) (.str _) (.secret hsec _ _ .nil))
  obtain ⟨hrepr, hframe, htree⟩ := masked_rendering_noninterference (ε := ExcData) (α := Tree)
  refine ⟨hrepr _ _ ?_, hframe _ _ ?_⟩
  · exact htree _ _ (.seq .list (.cons hform .nil))
  · exact .ok (.cons ⟨rfl, .inr (htree _ _ hform)⟩
      (.cons ⟨rfl, .inl ⟨_, rfl, by decide⟩⟩ .nil))

end SafeRepr
end Pidprobe
