/-
# How much of a value is looked at

The values of a target are graphs, and iterating over one need not end.  Rendering
recurses on the depth and not on the value, and an iteration is cut off by the
room that is left, so it ends on every graph.

`renderLogged` is `_render` with what it does to the target on record: the
iterations it begins, the elements they yield, and the renderings it asks for,
each with its own record.  Forgetting the record gives `render` back
(`outcome_renderLogged`), and the record is bounded whatever the value is
(`traversal_bounded`).
-/

import Pidprobe.Lib.Logged
import Pidprobe.SafeRepr

namespace Pidprobe
namespace SafeRepr

/-- What rendering does to the target: it begins an iteration, pulls an element, or renders
a value, which has a record of its own. -/
inductive Event (α : Type)
  /-- The iteration over a container begins. -/
  | opened
  /-- The iteration yields an element. -/
  | pulled
  /-- `_render(value, depth)`, with what it does. -/
  | rendered (depth : ℕ) (value : α) (record : List (Event α))

namespace Event

variable {α : Type}

/-- An event of asking an iterator for its next element. -/
def isPull : Event α → Bool
  | .pulled => true
  | _ => false

/-- An event of rendering a value, with all that rendering does inside it. -/
def isRendering : Event α → Bool
  | .rendered .. => true
  | _ => false

/-- What a rendering does itself: the events inside it, with the nested renderings as one
event each. -/
def record : Event α → List (Event α)
  | .rendered _ _ record => record
  | _ => []

/-- The renderings one level below: what a rendering hands on to the renderer of the next
depth. -/
def calls (event : Event α) : List (Event α) := event.record.filter isRendering

end Event

section

variable [Unicode] {ε α : Type} [PyException ε] [PyObject ε α]

open PyObject

/-! ## Rendering on record -/

omit [Unicode] [PyException ε] [PyObject ε α] in
/-- `takeFrom`, on record: every element that is yielded is a pull, the one beyond the limit
included. -/
def takeFromLogged (next : ℕ → Next ε α) : ℕ → ℕ → Logged (Event α) ε (List α × Bool)
  | room, i =>
    match next i with
    | .stop => pure ([], false)
    | .raises exc => .lift (.error exc)
    | .item b =>
      match room with
      | 0 => do
        .tell .pulled
        pure ([], true)
      | room + 1 => do
        .tell .pulled
        let (items, hasMore) ← takeFromLogged next room (i + 1)
        pure (b :: items, hasMore)

omit [Unicode] [PyException ε] [PyObject ε α] in
/-- `_take`, on record: the iteration is begun once, however it goes on. -/
def takeLogged (next : ℕ → Next ε α) (limit : ℕ) : Logged (Event α) ε (List α × Bool) := do
  .tell .opened
  takeFromLogged next limit 0

/-- `_render_items`, on record. At depth zero nothing is recorded, since the container is
not looked into. -/
def renderItemsLogged (inner : Option (α → Logged (Event α) ε (Text α))) (value : α)
    (style : PyStr × PyStr) : Logged (Event α) ε (Text α) :=
  match inner with
  | none => pure (.plain (style.1 ++ elision ++ style.2))
  | some render =>
    (takeLogged (next value) maxItems).attempt fun
      | .error exc => .lift (exceptException (.error exc) (failure value))
      | .ok (items, hasMore) =>
        if items.isEmpty ∧ hasMore = false then .lift (boundedRepr value)
        else do
          let rendered ← items.mapM render
          let parts := rendered ++ (if hasMore then [.plain elision] else [])
          let joined ← .lift (Text.joined (py ", ") parts)
          let isOne ← .lift (isSingleton value parts hasMore)
          pure (.plain (style.1 ++ (joined ++ (if isOne then py "," else [])) ++ style.2))

/-- `_render_pair`, on record. -/
def renderPairLogged (isMasked : Bool) (render : α → Logged (Event α) ε (Text α)) (key item : α) :
    Logged (Event α) ε (Text α) := do
  let renderedKey ← render key
  let isHidden ← .lift (hidesItem isMasked key)
  let lead ← .lift (renderedKey.add (.plain (py ": ")))
  if isHidden then .lift (lead.add (.plain maskPlaceholder))
  else do
    let renderedItem ← render item
    .lift (lead.add renderedItem)

/-- One round of the comprehension in `_render_mapping`, on record. -/
def renderEntryLogged (isMasked : Bool) (render : α → Logged (Event α) ε (Text α)) (entry : α) :
    Logged (Event α) ε (Text α) := do
  let (key, item) ← .lift (unpack entry)
  renderPairLogged isMasked render key item

/-- `_render_mapping`, on record. -/
def renderMappingLogged (isMasked : Bool) (inner : Option (α → Logged (Event α) ε (Text α)))
    (value : α) : Logged (Event α) ε (Text α) :=
  match inner with
  | none => pure (.plain (py "\x7b" ++ elision ++ py "\x7d"))
  | some render =>
    (takeLogged (nextItem value) maxItems).attempt fun
      | .error exc => .lift (exceptException (.error exc) (failure value))
      | .ok (items, hasMore) =>
        if items.isEmpty ∧ hasMore = false then .lift (boundedRepr value)
        else do
          let rendered ← items.mapM (renderEntryLogged isMasked render)
          let parts := rendered ++ (if hasMore then [.plain elision] else [])
          let joined ← .lift (Text.joined (py ", ") parts)
          pure (.plain (py "\x7b" ++ joined ++ py "\x7d"))

/-- The renderer of a shape, on record. -/
def renderShapeLogged (isMasked : Bool) (inner : Option (α → Logged (Event α) ε (Text α)))
    (value : α) : Shape → Logged (Event α) ε (Text α)
  | .mapping => renderMappingLogged isMasked inner value
  | .items style => renderItemsLogged inner value style
  | .other => .lift (boundedRepr value)

/-- The body of `_render`, on record. -/
def renderValueLogged (isMasked : Bool) (inner : Option (α → Logged (Event α) ε (Text α)))
    (value : α) : Logged (Event α) ε (Text α) := do
  let shape ← .lift (shapeOf value)
  renderShapeLogged isMasked inner value shape

/-- `_render`, on record: what happens inside becomes the record of one event, also where it
ends with an exception. -/
def renderLogged (isMasked : Bool) : ℕ → α → Logged (Event α) ε (Text α)
  | 0, value => .enclose (.rendered 0 value) (renderValueLogged isMasked none value)
  | depth + 1, value => .enclose (.rendered (depth + 1) value)
      (renderValueLogged isMasked (some (renderLogged isMasked depth)) value)

/-- `safe_repr`, on record. Forgetting the record gives `safeRepr` back
(`outcome_safeReprLogged`). -/
def safeReprLogged (isMasked : Bool) (value : α) : Logged (Event α) ε (Text α) := do
  let text ← renderLogged isMasked maxDepth value
  .lift (bounded text maxTotalChars)

/-! ## The record is of the rendering -/

omit [Unicode] [PyException ε] [PyObject ε α] in
/-- The logged loop over an iterator takes what the loop takes. -/
theorem outcome_takeFromLogged (next : ℕ → Next ε α) (room i : ℕ) :
    (takeFromLogged next room i).outcome = takeFrom next room i := by
  induction room generalizing i with
  | zero =>
    unfold takeFromLogged takeFrom
    cases next i <;> rfl
  | succ room ih =>
    unfold takeFromLogged takeFrom
    cases next i with
    | stop => rfl
    | raises exc => rfl
    | item b =>
      simp only [Logged.outcome_bind, Logged.outcome_tell, ih, ok_bind, Logged.outcome_pure]

omit [Unicode] [PyException ε] [PyObject ε α] in
/-- The logged `_take` returns what `_take` returns. -/
theorem outcome_takeLogged (next : ℕ → Next ε α) (limit : ℕ) :
    (takeLogged next limit).outcome = take next limit := by
  rw [takeLogged, Logged.outcome_bind, outcome_takeFromLogged]
  rfl

omit [Unicode] in
/-- The logged rendering of a container is the rendering of it, where the elements'
renderings correspond. -/
theorem outcome_renderItemsLogged (inner : Option (α → Logged (Event α) ε (Text α))) (value : α)
    (style : PyStr × PyStr) :
    (renderItemsLogged inner value style).outcome =
      renderItems (inner.map fun render a => (render a).outcome) value style := by
  cases inner with
  | none => rfl
  | some render =>
    rw [Option.map_some, renderItemsLogged, renderItems, Logged.outcome_attempt, outcome_takeLogged]
    dsimp only
    rcases take (next value) maxItems with exc | ⟨items, hasMore⟩
    · rfl
    · dsimp only
      by_cases hempty : items.isEmpty = true ∧ hasMore = false
      · rw [if_pos hempty, if_pos hempty, Logged.outcome_lift]
      · rw [if_neg hempty, if_neg hempty]
        simp only [Logged.outcome_bind, Logged.outcome_mapM, Logged.outcome_lift,
          Logged.outcome_pure]

omit [PyException ε] in
/-- The logged rendering of an entry of a dictionary is the rendering of it. -/
theorem outcome_renderEntryLogged (isMasked : Bool) (render : α → Logged (Event α) ε (Text α))
    (entry : α) : (renderEntryLogged isMasked render entry).outcome =
      renderEntry isMasked (fun a => (render a).outcome) entry := by
  rw [renderEntryLogged, renderEntry, Logged.outcome_bind, Logged.outcome_lift]
  refine congrArg _ (funext fun pair => ?_)
  simp only [renderPairLogged, renderPair, Logged.outcome_bind, Logged.outcome_lift]
  refine congrArg _ (funext fun _ => congrArg _ (funext fun isHidden =>
    congrArg _ (funext fun lead => ?_)))
  cases isHidden with
  | true => rfl
  | false =>
    simp only [Bool.false_eq_true, if_false, Logged.outcome_bind, Logged.outcome_lift]

/-- The logged rendering of a dictionary is the rendering of it. -/
theorem outcome_renderMappingLogged (isMasked : Bool)
    (inner : Option (α → Logged (Event α) ε (Text α))) (value : α) :
    (renderMappingLogged isMasked inner value).outcome =
      renderMapping isMasked (inner.map fun render a => (render a).outcome) value := by
  cases inner with
  | none => rfl
  | some render =>
    rw [Option.map_some, renderMappingLogged, renderMapping, Logged.outcome_attempt,
      outcome_takeLogged]
    dsimp only
    rcases take (nextItem value) maxItems with exc | ⟨items, hasMore⟩
    · rfl
    · dsimp only
      by_cases hempty : items.isEmpty = true ∧ hasMore = false
      · rw [if_pos hempty, if_pos hempty, Logged.outcome_lift]
      · rw [if_neg hempty, if_neg hempty]
        simp only [Logged.outcome_bind, Logged.outcome_mapM, Logged.outcome_lift,
          Logged.outcome_pure, outcome_renderEntryLogged]

/-- One level, logged, renders what the level renders. -/
theorem outcome_renderValueLogged (isMasked : Bool)
    (inner : Option (α → Logged (Event α) ε (Text α))) (value : α) :
    (renderValueLogged isMasked inner value).outcome =
      renderValue isMasked (inner.map fun render a => (render a).outcome) value := by
  rw [renderValueLogged, renderValue_eq_shape, Logged.outcome_bind, Logged.outcome_lift]
  refine congrArg _ (funext fun shape => ?_)
  cases shape with
  | mapping => exact outcome_renderMappingLogged isMasked inner value
  | items style => exact outcome_renderItemsLogged inner value style
  | other => rfl

/-- **Forgetting the record gives the rendering.** So what is counted on the record is
counted of the source's own function. -/
theorem outcome_renderLogged (isMasked : Bool) (depth : ℕ) (value : α) :
    (renderLogged isMasked depth value).outcome = render isMasked depth value := by
  induction depth generalizing value with
  | zero => rw [renderLogged, Logged.outcome_enclose, outcome_renderValueLogged]; rfl
  | succ depth ih =>
    rw [renderLogged, Logged.outcome_enclose, outcome_renderValueLogged, render, Option.map_some]
    exact congrArg (fun f => renderValue isMasked (some f) value) (funext ih)

/-- What is counted is `safe_repr` itself: the log adds nothing to what it returns. -/
theorem outcome_safeReprLogged (isMasked : Bool) (value : α) :
    (safeReprLogged isMasked value).outcome = safeRepr isMasked value := by
  rw [safeReprLogged, Logged.outcome_bind, outcome_renderLogged, safeRepr]
  cases render isMasked maxDepth value <;> rfl

/-! ## What an iteration records -/

omit [Unicode] [PyException ε] [PyObject ε α] in
/-- Taking from an iterator does nothing but ask for the next element. -/
theorem mem_log_takeFromLogged {next : ℕ → Next ε α} {room i : ℕ} {event : Event α}
    (h : event ∈ (takeFromLogged next room i).log) : event = .pulled := by
  induction room generalizing i with
  | zero =>
    unfold takeFromLogged at h
    cases hnext : next i with
    | item b =>
      rw [hnext] at h
      exact List.mem_singleton.1 h
    | _ =>
      rw [hnext] at h
      cases h
  | succ room ih =>
    unfold takeFromLogged at h
    cases hnext : next i with
    | item b =>
      rw [hnext] at h
      rcases Logged.mem_log_bind h with h | ⟨_, -, h⟩
      · exact List.mem_singleton.1 h
      · rcases Logged.mem_log_bind h with h | ⟨_, -, h⟩
        · exact ih h
        · cases h
    | _ =>
      rw [hnext] at h
      cases h

omit [Unicode] [PyException ε] [PyObject ε α] in
/-- An iteration is asked for one element more than there is room for. -/
theorem countP_takeFromLogged_le (next : ℕ → Next ε α) (room i : ℕ) :
    (takeFromLogged next room i).log.countP Event.isPull ≤ room + 1 := by
  induction room generalizing i with
  | zero =>
    unfold takeFromLogged
    cases next i with
    | item b => exact le_refl 1
    | _ => exact Nat.zero_le 1
  | succ room ih =>
    unfold takeFromLogged
    cases next i with
    | item b =>
      have hpull : (Logged.tell .pulled : Logged (Event α) ε Unit).log.countP Event.isPull ≤ 1 :=
        le_refl 1
      refine (Logged.countP_log_bind_le (n := room + 1) hpull fun _ _ => ?_).trans_eq
        (Nat.add_comm 1 (room + 1))
      rw [Logged.log_bind_of_silent fun _ => rfl]
      exact ih (i + 1)
    | _ => exact Nat.zero_le _

omit [Unicode] [PyException ε] [PyObject ε α] in
/-- `_take` asks for one element more than it may return, to see whether there are more.
-/
theorem countP_takeLogged_le (next : ℕ → Next ε α) (limit : ℕ) :
    (takeLogged next limit).log.countP Event.isPull ≤ limit + 1 := by
  rw [← Nat.zero_add (limit + 1)]
  exact Logged.countP_log_bind_le (le_refl 0) fun _ _ => countP_takeFromLogged_le next limit 0

omit [Unicode] [PyException ε] [PyObject ε α] in
/-- An iteration renders nothing. -/
theorem isRendering_of_mem_takeLogged {next : ℕ → Next ε α} {limit : ℕ} {event : Event α}
    (h : event ∈ (takeLogged next limit).log) : event.isRendering = false := by
  rcases Logged.mem_log_bind h with h | ⟨_, -, h⟩
  · rw [List.mem_singleton.1 h]
    rfl
  · rw [mem_log_takeFromLogged h]
    rfl

omit [Unicode] [PyException ε] [PyObject ε α] in
/-- Taking elements renders none of them. -/
theorem countP_rendering_takeLogged (next : ℕ → Next ε α) (limit : ℕ) :
    (takeLogged next limit).log.countP Event.isRendering = 0 := by
  rw [List.countP_eq_zero]
  intro event h
  rw [isRendering_of_mem_takeLogged h]
  exact Bool.false_ne_true

omit [Unicode] [PyException ε] [PyObject ε α] in
/-- No more is taken than there is room for. -/
theorem length_takeFrom_le {next : ℕ → Next ε α} {room i : ℕ} {items : List α} {hasMore : Bool}
    (h : takeFrom next room i = .ok (items, hasMore)) : items.length ≤ room := by
  induction room generalizing i items hasMore with
  | zero =>
    unfold takeFrom at h
    cases hnext : next i with
    | raises exc =>
      rw [hnext] at h
      cases h
    | _ =>
      rw [hnext] at h
      obtain ⟨rfl, -⟩ := Prod.mk.inj (Except.ok.inj h)
      exact le_refl 0
  | succ room ih =>
    unfold takeFrom at h
    cases hnext : next i with
    | stop =>
      rw [hnext] at h
      obtain ⟨rfl, -⟩ := Prod.mk.inj (Except.ok.inj h)
      exact Nat.zero_le _
    | raises exc =>
      rw [hnext] at h
      cases h
    | item b =>
      rw [hnext] at h
      obtain ⟨⟨rest, more⟩, hrest, h⟩ := bind_eq_ok.1 h
      obtain ⟨rfl, -⟩ := Prod.mk.inj (Except.ok.inj h)
      exact Nat.succ_le_succ (ih hrest)

/-! ## What a level records -/

section Level

variable {isMasked : Bool} {render : α → Logged (Event α) ε (Text α)} {value : α}
  {p : Event α → Bool} {n : ℕ} {event : Event α}

omit [Unicode] in
/-- A level of elements records its iteration, and what rendering some elements
records, no more than there is room for. -/
theorem log_renderItemsLogged (render : α → Logged (Event α) ε (Text α)) (value : α)
    (style : PyStr × PyStr) : ∃ items : List α, items.length ≤ maxItems ∧
      (renderItemsLogged (some render) value style).log =
        (takeLogged (next value) maxItems).log ++ (items.mapM render).log := by
  rw [renderItemsLogged, Logged.log_attempt, outcome_takeLogged]
  rcases htake : take (next value) maxItems with exc | ⟨items, hasMore⟩
  · exact ⟨[], Nat.zero_le _, rfl⟩
  · dsimp only
    by_cases hempty : items.isEmpty = true ∧ hasMore = false
    · rw [if_pos hempty]
      exact ⟨[], Nat.zero_le _, rfl⟩
    · rw [if_neg hempty]
      refine ⟨items, length_takeFrom_le htake, ?_⟩
      rw [Logged.log_bind_of_silent fun _ => Logged.log_bind_of_silent fun _ =>
        Logged.log_bind_of_silent fun _ => rfl]

/-- A level of a mapping does so for entries. -/
theorem log_renderMappingLogged (isMasked : Bool) (render : α → Logged (Event α) ε (Text α))
    (value : α) : ∃ entries : List α, entries.length ≤ maxItems ∧
      (renderMappingLogged isMasked (some render) value).log =
        (takeLogged (nextItem value) maxItems).log ++
          (entries.mapM (renderEntryLogged isMasked render)).log := by
  rw [renderMappingLogged, Logged.log_attempt, outcome_takeLogged]
  rcases htake : take (nextItem value) maxItems with exc | ⟨entries, hasMore⟩
  · exact ⟨[], Nat.zero_le _, rfl⟩
  · dsimp only
    by_cases hempty : entries.isEmpty = true ∧ hasMore = false
    · rw [if_pos hempty]
      exact ⟨[], Nat.zero_le _, rfl⟩
    · rw [if_neg hempty]
      refine ⟨entries, length_takeFrom_le htake, ?_⟩
      rw [Logged.log_bind_of_silent fun _ => Logged.log_bind_of_silent fun _ => rfl]

omit [PyException ε] in
/-- An entry is rendered in up to two renderings. -/
theorem countP_renderEntryLogged_le (h : ∀ a, (render a).log.countP p ≤ n) (entry : α) :
    (renderEntryLogged isMasked render entry).log.countP p ≤ 2 * n := by
  have hpair : ∀ key item, (renderPairLogged isMasked render key item).log.countP p ≤ n + n := by
    intro key item
    refine Logged.countP_log_bind_le (h key) fun _ _ => ?_
    refine Logged.countP_log_lift_bind_le fun isHidden _ => ?_
    refine Logged.countP_log_lift_bind_le fun lead _ => ?_
    cases isHidden with
    | true => exact Nat.zero_le n
    | false =>
      rw [if_neg Bool.false_ne_true, Logged.log_bind_of_silent fun _ => rfl]
      exact h item
  rw [Nat.two_mul]
  exact Logged.countP_log_lift_bind_le fun pair _ => hpair pair.1 pair.2

omit [PyException ε] in
/-- All an entry of a dictionary logs is the rendering of its key or its item. -/
theorem mem_log_renderEntryLogged {entry : α}
    (h : event ∈ (renderEntryLogged isMasked render entry).log) : ∃ a, event ∈ (render a).log := by
  obtain ⟨⟨key, item⟩, -, h⟩ := Logged.mem_log_lift_bind h
  rcases Logged.mem_log_bind h with h | ⟨_, -, h⟩
  · exact ⟨key, h⟩
  obtain ⟨isHidden, -, h⟩ := Logged.mem_log_lift_bind h
  obtain ⟨lead, -, h⟩ := Logged.mem_log_lift_bind h
  cases isHidden with
  | true => cases h
  | false =>
    rcases Logged.mem_log_bind h with h | ⟨_, -, h⟩
    · exact ⟨item, h⟩
    · cases h

/-- **What a level records.**  Behind an iteration, the records of renderings of
the level below, up to `2 * MAX_ITEMS` of them. -/
theorem log_renderValueLogged (isMasked : Bool) (render : α → Logged (Event α) ε (Text α))
    (value : α) :
    (∀ event ∈ (renderValueLogged isMasked (some render) value).log, event.isRendering = true →
        ∃ a, event ∈ (render a).log) ∧
      ∀ p n, (∀ a, (render a).log.countP p ≤ n) →
        ∃ next : ℕ → Next ε α, (renderValueLogged isMasked (some render) value).log.countP p ≤
          (takeLogged next maxItems).log.countP p + 2 * maxItems * n := by
  have hlog : (renderValueLogged isMasked (some render) value).log =
      match shapeOf value with
      | .ok shape => (renderShapeLogged isMasked (some render) value shape).log
      | .error _ => [] := by
    rw [renderValueLogged]
    cases shapeOf value <;> rfl
  rw [hlog]
  rcases shapeOf value with exc | shape
  · refine ⟨fun event h => ?_, fun p n _ => ⟨next value, Nat.zero_le _⟩⟩
    cases h
  cases shape with
  | other =>
    refine ⟨fun event h => ?_, fun p n _ => ⟨next value, Nat.zero_le _⟩⟩
    cases h
  | items style =>
    obtain ⟨items, hlength, hitems⟩ := log_renderItemsLogged render value style
    simp only [renderShapeLogged, hitems]
    refine ⟨fun event h hr => ?_, fun p n h => ⟨next value, ?_⟩⟩
    · rcases List.mem_append.1 h with h | h
      · exact absurd hr (by rw [isRendering_of_mem_takeLogged h]; exact Bool.false_ne_true)
      · obtain ⟨a, -, h⟩ := Logged.mem_log_mapM h
        exact ⟨a, h⟩
    · rw [List.countP_append]
      refine Nat.add_le_add_left ((Logged.countP_log_mapM_le fun a _ => h a).trans ?_) _
      exact Nat.mul_le_mul_right n (hlength.trans (by decide))
  | mapping =>
    obtain ⟨entries, hlength, hentries⟩ := log_renderMappingLogged isMasked render value
    simp only [renderShapeLogged, hentries]
    refine ⟨fun event h hr => ?_, fun p n h => ⟨nextItem value, ?_⟩⟩
    · rcases List.mem_append.1 h with h | h
      · exact absurd hr (by rw [isRendering_of_mem_takeLogged h]; exact Bool.false_ne_true)
      · obtain ⟨entry, -, h⟩ := Logged.mem_log_mapM h
        exact mem_log_renderEntryLogged h
    · rw [List.countP_append]
      refine Nat.add_le_add_left ?_ _
      refine (Logged.countP_log_mapM_le fun a _ => countP_renderEntryLogged_le h a).trans ?_
      rw [← Nat.mul_assoc]
      exact Nat.mul_le_mul_right n (Nat.mul_comm 2 maxItems ▸ Nat.mul_le_mul_right 2 hlength)

end Level

/-! ## All levels -/

/-- The record of a rendering at a depth. -/
def IsRenderingAt (ε : Type) [PyException ε] [PyObject ε α] (isMasked : Bool) (depth : ℕ)
    (event : Event α) : Prop :=
  ∃ value : α, (renderLogged (ε := ε) isMasked depth value).log = [event]

/-- Whatever a rendering at some depth logs is the rendering of a value at that depth. -/
theorem isRenderingAt_of_mem {isMasked : Bool} {depth : ℕ} {value : α} {event : Event α}
    (h : event ∈ (renderLogged isMasked depth value).log) :
    IsRenderingAt ε isMasked depth event := by
  refine ⟨value, ?_⟩
  cases depth <;> exact congrArg (fun e => [e]) (List.mem_singleton.1 h).symm

/-- A spent level does nothing to the target. -/
theorem record_of_zero {isMasked : Bool} {event : Event α} (h : IsRenderingAt ε isMasked 0 event) :
    event.record = [] := by
  obtain ⟨value, h⟩ := h
  obtain rfl := List.singleton_inj.1 h
  show (renderValueLogged isMasked none value).log = []
  rw [renderValueLogged]
  rcases shapeOf value with exc | shape
  · rfl
  · cases shape <;> rfl

/-- The other levels iterate once at most, and render as many values of the level
below as there is room for. -/
theorem record_of_succ {isMasked : Bool} {depth : ℕ} {event : Event α}
    (h : IsRenderingAt ε isMasked (depth + 1) event) :
    event.record.countP Event.isPull ≤ maxItems + 1 ∧ event.calls.length ≤ 2 * maxItems ∧
      ∀ call ∈ event.calls, IsRenderingAt ε isMasked depth call := by
  obtain ⟨value, h⟩ := h
  obtain rfl := List.singleton_inj.1 h
  obtain ⟨hmem, hcount⟩ := log_renderValueLogged isMasked (renderLogged isMasked depth) value
  have hlog : ∀ (a : α) (p : Event α → Bool), (∀ record, p (.rendered depth a record) = false) →
      (renderLogged isMasked depth a).log.countP p ≤ 0 := by
    intro a p hp
    cases depth <;> simp [renderLogged, hp]
  have hone : ∀ a : α, (renderLogged isMasked depth a).log.countP Event.isRendering ≤ 1 := by
    intro a
    cases depth <;> exact le_refl 1
  refine ⟨?_, ?_, fun call hcall => ?_⟩
  · obtain ⟨next, hle⟩ := hcount Event.isPull 0 fun a => hlog a _ fun _ => rfl
    exact hle.trans (countP_takeLogged_le next maxItems)
  · obtain ⟨next, hle⟩ := hcount Event.isRendering 1 hone
    rw [countP_rendering_takeLogged, Nat.zero_add, Nat.mul_one] at hle
    exact (List.countP_eq_length_filter ..).symm.trans_le hle
  · obtain ⟨hcall, hr⟩ := List.mem_filter.1 hcall
    obtain ⟨a, ha⟩ := hmem call hcall hr
    exact isRenderingAt_of_mem ha

/-- What is done to the target, whatever value it is done for: each rendering
pulls at most one element more than it renders, containers are opened on
`MAX_DEPTH` nested levels, and the last level has so many renderings. -/
structure BoundedTraversal (log : List (Event α)) : Prop where
  pulls : ∀ level, ∀ event ∈ levels Event.calls log level,
    event.record.countP Event.isPull ≤ maxItems + 1
  opened : ∀ level, ∀ event ∈ levels Event.calls log level, .opened ∈ event.record →
    level < maxDepth
  deepest : (levels Event.calls log maxDepth).length ≤ (2 * maxItems) ^ maxDepth
  below : levels Event.calls log (maxDepth + 1) = []

/-- The depth of the renderings `level` levels below the value. -/
theorem isRenderingAt_levels (isMasked : Bool) (value : α) (level : ℕ) :
    ∀ event ∈ levels Event.calls (safeReprLogged (ε := ε) isMasked value).log level,
      ∃ depth, depth + level = maxDepth ∧ IsRenderingAt ε isMasked depth event := by
  refine levels_induction (P := fun level event =>
    ∃ depth, depth + level = maxDepth ∧ IsRenderingAt ε isMasked depth event) ?_ ?_ level
  · intro event h
    rw [safeReprLogged, Logged.log_bind_of_silent fun _ => rfl] at h
    exact ⟨maxDepth, rfl, isRenderingAt_of_mem h⟩
  · rintro level event ⟨depth, hdepth, h⟩ call hcall
    cases depth with
    | zero =>
      rw [Event.calls, record_of_zero h] at hcall
      cases hcall
    | succ depth => exact ⟨depth, by omega, (record_of_succ h).2.2 call hcall⟩

/-- **Rendering is bounded on every graph.**  The rendering on record is
`safe_repr`, which so comes to an end, and its record is bounded by `MAX_ITEMS`
and `MAX_DEPTH` alone. -/
theorem traversal_bounded (isMasked : Bool) (value : α) :
    (safeReprLogged isMasked value).outcome = safeRepr isMasked value ∧
      BoundedTraversal (safeReprLogged isMasked value).log := by
  have hlevels := isRenderingAt_levels (ε := ε) isMasked value
  refine ⟨outcome_safeReprLogged isMasked value, ?_, ?_, ?_, ?_⟩
  · intro level event h
    obtain ⟨depth, -, hat⟩ := hlevels level event h
    cases depth with
    | zero => simp [record_of_zero hat]
    | succ depth => exact (record_of_succ hat).1
  · intro level event h hopened
    obtain ⟨depth, hdepth, hat⟩ := hlevels level event h
    cases depth with
    | zero =>
      rw [record_of_zero hat] at hopened
      cases hopened
    | succ depth => omega
  · have hroots : (safeReprLogged (ε := ε) isMasked value).log.length = 1 := by
      rw [safeReprLogged, Logged.log_bind_of_silent fun _ => rfl]
      rfl
    have hle : (levels Event.calls (safeReprLogged (ε := ε) isMasked value).log maxDepth).length ≤
        (safeReprLogged (ε := ε) isMasked value).log.length * (2 * maxItems) ^ maxDepth :=
      length_levels_le maxDepth fun level hlevel event h => by
        obtain ⟨depth, hdepth, hat⟩ := hlevels level event h
        obtain ⟨depth, rfl⟩ : ∃ d, depth = d + 1 := ⟨depth - 1, by omega⟩
        exact (record_of_succ hat).2.1
    rwa [hroots, Nat.one_mul] at hle
  · refine List.eq_nil_iff_forall_not_mem.2 fun event h => ?_
    obtain ⟨depth, hdepth, -⟩ := hlevels _ event h
    omega

end

end SafeRepr
end Pidprobe
