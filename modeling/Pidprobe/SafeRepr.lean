/-
# Bounded, masking rendering

`_saferepr.py` below its injection marker: `safe_repr` renders a value of the
target within bounds on depth, element count and length, and
`safe_repr_named` replaces the value of a name that reads as a credential.

The source recurses on a depth that starts at `MAX_DEPTH`; `render` is that
recursion, and each renderer of one level takes the renderer of the level below
as `inner`, `none` standing for a spent depth.

A rendering is a `Text`: what `repr` returns, and what `__name__` is, may be an
object with methods of its own, and its `__len__` and `__add__` are called where
the source measures and concatenates.
-/

import Pidprobe.Target.Objects

namespace Pidprobe
namespace SafeRepr

/-- `MAX_DEPTH`, the container levels rendered before the nesting below them is elided. -/
def maxDepth : ℕ := 3

/-- `MAX_ITEMS`, the elements rendered per container before the rest is elided. -/
def maxItems : ℕ := 10

/-- `MAX_STRING_CHARS`, the characters kept from a single `repr()` before it is truncated. -/
def maxStringChars : ℕ := 200

/-- `MAX_TOTAL_CHARS`, the characters kept from one fully rendered value, however deeply it
nests. -/
def maxTotalChars : ℕ := 2000

/-- `MASK_PLACEHOLDER`. -/
def maskPlaceholder : PyStr := py "<masked>"

/-- `TRUNCATION_MARKER`. -/
def truncationMarker : PyStr := py "...<truncated>"

/-- `ELISION`. -/
def elision : PyStr := py "..."

/-- `SECRET_NAME_PATTERNS`, looked for in a name with its case and separators removed. The
list is greedy by design. -/
def secretNamePatterns : List PyStr :=
  [py "password", py "passwd", py "passphrase", py "pwd", py "secret", py "token", py "apikey",
    py "accesskey", py "privatekey", py "credential", py "authorization"]

variable [Unicode]

/-- The body of `is_secret_name` behind `name.lower()`: what is not alphanumeric is dropped,
then the patterns are looked for. -/
def isSecretLowered (lowered : PyStr) : Bool :=
  secretNamePatterns.any fun pattern => contains pattern (lowered.filter Unicode.isalnum)

/-- `is_secret_name`, for a name that is a plain `str`: `lower` is that of Unicode, final
sigma included. -/
def isSecretName (name : PyStr) : Bool := isSecretLowered (Unicode.lower name)

/-- `_bounded` of a `str`: what is longer than the limit is cut there, and marked behind the
cut. -/
def boundedStr (text : PyStr) (limit : ℕ) : PyStr :=
  if text.length > limit then text.take limit ++ truncationMarker else text

section Render

variable {ε α : Type} [PyException ε] [PyObject ε α]

open PyObject

omit [Unicode] [PyException ε] in
/-- `_bounded`. A text that `repr` returned may be of a subclass of `str`, whose `__len__`,
slices and `__add__` are the target's own. -/
def bounded (text : Text α) (limit : ℕ) : Except ε (Text α) := do
  let length ← text.len
  if length > limit then do
    let head ← text.head limit
    head.add (.plain truncationMarker)
  else .ok text

omit [Unicode] [PyException ε] in
/-- A text of the built-in class is cut as `_bounded` says, without an exception. -/
theorem bounded_plain (text : PyStr) (limit : ℕ) :
    bounded (.plain text : Text α) limit = .ok (.plain (boundedStr text limit)) := by
  unfold bounded boundedStr
  rw [Text.len_plain, ok_bind]
  split_ifs <;> rfl

omit [Unicode] in
/-- `type(exc).__name__`, which `_failure` evaluates outside any `try`. It may raise, and it
may be any object of the target. -/
def exceptionName (exc : ε) : Except ε (Text α) := do
  match ← PyException.typeName exc with
  | .plain name => .ok (.plain name)
  | .own _ => .ok (.own (nameObject exc))

omit [Unicode] in
/-- `_failure`, the report on a value that could not be rendered. The two names are added as
they are, and neither has to be a `str`. -/
def failure (value : α) (exc : ε) : Except ε (Text α) := do
  let name ← typeName value
  let text ← Text.add (.plain (py "<unrepresentable ")) name
  let text ← text.add (.plain (py ": "))
  let raised ← exceptionName exc
  let text ← text.add raised
  text.add (.plain (py ">"))

omit [Unicode] in
/-- `_bounded_repr`: an `Exception` of `repr` is reported, what else it raises passes, and
the cut is outside the `try`. -/
def boundedRepr (value : α) : Except ε (Text α) :=
  match repr value with
  | .ok text => bounded text maxStringChars
  | .error exc => exceptException (.error exc) (failure value)

/-- The loop of `_take` from step `i` on, `room` items before its limit. One item beyond the
limit is pulled, to know that there is more. -/
def takeFrom (next : ℕ → Next ε α) : ℕ → ℕ → Except ε (List α × Bool)
  | room, i =>
    match next i with
    | .stop => .ok ([], false)
    | .raises exc => .error exc
    | .item b =>
      match room with
      | 0 => .ok ([], true)
      | room + 1 => do
        let (items, hasMore) ← takeFrom next room (i + 1)
        .ok (b :: items, hasMore)

/-- `_take`: up to `limit` items of an iteration, and whether it held more. The iteration
may be endless, or raise at any step. -/
def take (next : ℕ → Next ε α) (limit : ℕ) : Except ε (List α × Bool) := takeFrom next limit 0

/-- `isinstance(value, tuple) and len(parts) == 1 and not has_more`, which decides on the
comma of a tuple of one element. -/
def isSingleton (value : α) (parts : List (Text α)) (hasMore : Bool) : Except ε Bool := do
  if ← isinstance value .tuple then .ok (parts.length = 1 ∧ hasMore = false) else .ok false

/-- `_render_items`; `style` is the opening and the closing text. `inner` renders the
elements, and is `none` where the depth is spent. -/
def renderItems (inner : Option (α → Except ε (Text α))) (value : α) (style : PyStr × PyStr) :
    Except ε (Text α) :=
  match inner with
  | none => .ok (.plain (style.1 ++ elision ++ style.2))
  | some render =>
    match take (next value) maxItems with
    | .error exc => exceptException (.error exc) (failure value)
    | .ok (items, hasMore) =>
      if items.isEmpty ∧ hasMore = false then boundedRepr value
      else do
        let rendered ← items.mapM render
        let parts := rendered ++ (if hasMore then [.plain elision] else [])
        let joined ← Text.joined (py ", ") parts
        let body := joined ++ (if ← isSingleton value parts hasMore then py "," else [])
        .ok (.plain (style.1 ++ body ++ style.2))

/-- `is_masked and isinstance(key, str) and is_secret_name(key)`. The key may be of a
subclass of `str`, with a `lower` of its own. -/
def hidesItem (isMasked : Bool) (key : α) : Except ε Bool := do
  if isMasked then
    if ← isinstance key .str then (lower key).map isSecretLowered else .ok false
  else .ok false

/-- `_render_pair`: the key is rendered always, the item only where it is not hidden. -/
def renderPair (isMasked : Bool) (render : α → Except ε (Text α)) (key item : α) :
    Except ε (Text α) := do
  let renderedKey ← render key
  let isHidden ← hidesItem isMasked key
  -- both returns begin with `rendered_key + ": "`
  let lead ← renderedKey.add (.plain (py ": "))
  if isHidden then lead.add (.plain maskPlaceholder)
  else do
    let renderedItem ← render item
    lead.add renderedItem

/-- One round of the comprehension in `_render_mapping`. Unpacking what `items()` yields is
outside the `try`. -/
def renderEntry (isMasked : Bool) (render : α → Except ε (Text α)) (entry : α) :
    Except ε (Text α) := do
  let (key, item) ← unpack entry
  renderPair isMasked render key item

/-- `_render_mapping`: like `_render_items`, over `value.items()` and with the masking of
secret keys. -/
def renderMapping (isMasked : Bool) (inner : Option (α → Except ε (Text α))) (value : α) :
    Except ε (Text α) :=
  match inner with
  | none => .ok (.plain (py "\x7b" ++ elision ++ py "\x7d"))
  | some render =>
    match take (nextItem value) maxItems with
    | .error exc => exceptException (.error exc) (failure value)
    | .ok (items, hasMore) =>
      if items.isEmpty ∧ hasMore = false then boundedRepr value
      else do
        let rendered ← items.mapM (renderEntry isMasked render)
        let parts := rendered ++ (if hasMore then [.plain elision] else [])
        let joined ← Text.joined (py ", ") parts
        .ok (.plain (py "\x7b" ++ joined ++ py "\x7d"))

/-- The body of `_render`: the five questions in the order of the source, so a class that
answers several is rendered as the first. -/
def renderValue (isMasked : Bool) (inner : Option (α → Except ε (Text α))) (value : α) :
    Except ε (Text α) := do
  if ← isinstance value .dict then renderMapping isMasked inner value
  else if ← isinstance value .list then renderItems inner value (py "[", py "]")
  else if ← isinstance value .tuple then renderItems inner value (py "(", py ")")
  else if ← isinstance value .frozenset then
    renderItems inner value (py "frozenset(\x7b", py "\x7d)")
  else if ← isinstance value .set then renderItems inner value (py "\x7b", py "\x7d")
  else boundedRepr value

/-- The renderer a value gets: that of mappings, that of sequences and sets with their
style, or the bounded `repr`. -/
inductive Shape
  | mapping
  | items (style : PyStr × PyStr)
  | other

/-- The questions `_render` asks, up to the first that is answered yes. Any of them may
raise, where `__class__` is a property. -/
def shapeOf (value : α) : Except ε Shape := do
  if ← isinstance value .dict then .ok .mapping
  else if ← isinstance value .list then .ok (.items (py "[", py "]"))
  else if ← isinstance value .tuple then .ok (.items (py "(", py ")"))
  else if ← isinstance value .frozenset then .ok (.items (py "frozenset(\x7b", py "\x7d)"))
  else if ← isinstance value .set then .ok (.items (py "\x7b", py "\x7d"))
  else .ok .other

/-- What a value of this shape is rendered as. -/
def renderShape (isMasked : Bool) (inner : Option (α → Except ε (Text α))) (value : α) :
    Shape → Except ε (Text α)
  | .mapping => renderMapping isMasked inner value
  | .items style => renderItems inner value style
  | .other => boundedRepr value

/-- `_render` asks for the shape of a value and renders it so. Later proofs split on the
shape, and not on five answers. -/
theorem renderValue_eq_shape (isMasked : Bool) (inner : Option (α → Except ε (Text α)))
    (value : α) :
    renderValue isMasked inner value = shapeOf value >>= renderShape isMasked inner value := by
  unfold renderValue shapeOf
  rcases isinstance value .dict with exc | _ | _
  · rfl
  swap
  · rfl
  rcases isinstance value .list with exc | _ | _
  · rfl
  swap
  · rfl
  rcases isinstance value .tuple with exc | _ | _
  · rfl
  swap
  · rfl
  rcases isinstance value .frozenset with exc | _ | _
  · rfl
  swap
  · rfl
  rcases isinstance value .set with exc | _ | _ <;> rfl

/-- `_render`, by recursion on the depth: at depth zero containers are elided, above it they
are looked into one level less deep. -/
def render (isMasked : Bool) : ℕ → α → Except ε (Text α)
  | 0 => renderValue isMasked none
  | depth + 1 => renderValue isMasked (some (render isMasked depth))

/-- `safe_repr`: the rendering at the full depth, cut to the total length. -/
def safeRepr (isMasked : Bool) (value : α) : Except ε (Text α) := do
  let text ← render isMasked maxDepth value
  bounded text maxTotalChars

/-- `safe_repr_named`: a secret name hides the value before it is looked at; other names do
not matter. -/
def safeReprNamed (name : PyStr) (isMasked : Bool) (value : α) : Except ε (Text α) :=
  if isMasked ∧ isSecretName name then .ok (.plain maskPlaceholder) else safeRepr isMasked value

/-! ## Locals of a frame -/

/-- One round of the comprehension in `frame_locals`. The source evaluates `str(name)`
twice, and each of them runs the target's code. -/
def renderLocal (isMasked : Bool) (binding : α × α) : Except ε (PyStr × Text α) := do
  let key ← str binding.1
  let rendered ← safeReprNamed (← str binding.1) isMasked binding.2
  .ok (key, rendered)

/-- `frame_locals` of the stacks collector; `fLocals` is `dict(frame.f_locals)`
and `none` the `None` it returns when that raises. -/
def frameLocals (isMasked : Bool) (fLocals : Except ε (List (α × α))) :
    Except ε (Option (List (PyStr × Text α))) :=
  match fLocals with
  | .error exc => exceptException (.error exc) fun _ => .ok none
  | .ok items => do
    let pairs ← items.mapM (renderLocal isMasked)
    .ok (some (Dict.ofPairs pairs))

end Render

end SafeRepr
end Pidprobe
