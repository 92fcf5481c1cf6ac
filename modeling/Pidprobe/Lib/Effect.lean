/-
# Calls with a state

A call that changes a state, and returns or raises: `Call σ ε α`.  `tryFinally`,
`tryExcept` and `bracket` are the `finally`, the `except` and the
acquire-use-release pattern of such calls, for a cleanup that cannot fail.

`Keeps x` says that `x` leaves every state as it found it, whatever it returns or
raises; `bracket_settled` and `bracket_keeps` are the rules for a resource that
is acquired, used and released.  `Ends R P x` says that what `x` returns, from any
state, satisfies `R`, and what it raises `P`; it has a rule for each of the
patterns.
-/

import Mathlib.Tactic.Common

namespace Pidprobe

/-- A call on states `σ` that returns an `α` or raises an `ε`; what it did to the state
stays done in both cases. -/
def Call (σ ε α : Type) := σ → Except ε α × σ

namespace Call

variable {σ ε α β : Type}

instance : Monad (Call σ ε) where
  pure a := fun s => (.ok a, s)
  bind x f := fun s =>
    match x s with
    | (.ok a, t) => f a t
    | (.error e, t) => (.error e, t)

/-- A call that changes nothing, and raises where it is told to: one step that can fail. -/
def step (fails : Option ε) : Call σ ε Unit := fun s =>
  match fails with
  | none => (.ok (), s)
  | some e => (.error e, s)

/-- A call that only returns or raises, without a look at the state. -/
def lift (x : Except ε α) : Call σ ε α := fun s => (x, s)

/-- `try: x finally: cleanup`, with a cleanup that does not raise. -/
def tryFinally (x : Call σ ε α) (cleanup : σ → σ) : Call σ ε α := fun s =>
  ((x s).1, cleanup (x s).2)

/-- `try: x except catches: handler`: an exception that is not caught goes on. -/
def tryExcept (x : Call σ ε α) (catches : ε → Bool) (handler : ε → Call σ ε α) : Call σ ε α :=
  fun s =>
    match x s with
    | (.ok a, t) => (.ok a, t)
    | (.error e, t) => if catches e then handler e t else (.error e, t)

/-- `try: a = x except catches: handler`, where the handler returns, and what comes
behind it. -/
def tryElse (x : Call σ ε α) (catches : ε → Bool) (handler : Call σ ε β) (rest : α → Call σ ε β) :
    Call σ ε β := fun s =>
  match x s with
  | (.ok a, t) => rest a t
  | (.error e, t) => if catches e then handler t else (.error e, t)

/-- A call that only looks at the state, and returns what it sees. -/
def observe (f : σ → α) : Call σ ε α := fun s => (.ok (f s), s)

/-- A call that only changes the state, and cannot fail. -/
def modify (f : σ → σ) : Call σ ε Unit := fun s => (.ok (), f s)

/-- `cleanup(); raise`, in a handler: the exception goes on behind the cleanup. -/
def raiseAfter (cleanup : σ → σ) (e : ε) : Call σ ε α := fun s => (.error e, cleanup s)

/-- A resource acquired, used and released whatever its use comes to, as a context manager
does it. -/
def bracket (acquire : Call σ ε α) (release : α → σ → σ) (use : α → Call σ ε β) : Call σ ε β := do
  let a ← acquire
  tryFinally (use a) (release a)

/-- The call leaves every state as it found it, whether it returns or raises. -/
def Keeps (x : Call σ ε α) : Prop := ∀ s, (x s).2 = s

/-- Behind a call that returns, the rest goes on with its value and its state. -/
theorem bind_ok {x : Call σ ε α} {f : α → Call σ ε β} {s t : σ} {a : α} (h : x s = (.ok a, t)) :
    (x >>= f) s = f a t := by
  show (match x s with | (.ok a, t) => f a t | (.error e, t) => (.error e, t)) = f a t
  rw [h]

/-- Behind a call that raises, the rest does not run. -/
theorem bind_error {x : Call σ ε α} {f : α → Call σ ε β} {s t : σ} {e : ε}
    (h : x s = (.error e, t)) : (x >>= f) s = (.error e, t) := by
  show (match x s with | (.ok a, t) => f a t | (.error e, t) => (.error e, t)) = (.error e, t)
  rw [h]

theorem lift_eq (x : Except ε α) (s : σ) : (lift x : Call σ ε α) s = (x, s) := rfl

theorem pure_eq (a : α) (s : σ) : (pure a : Call σ ε α) s = (.ok a, s) := rfl

/-- `try: x except: handler else: rest` goes on with the rest where the call returns. -/
theorem tryElse_ok {x : Call σ ε α} {catches : ε → Bool} {handler : Call σ ε β}
    {rest : α → Call σ ε β} {s t : σ} {a : α} (h : x s = (.ok a, t)) :
    tryElse x catches handler rest s = rest a t := by
  rw [tryElse, h]

/-- And with the handler where it raises what the handler catches. -/
theorem tryElse_error {x : Call σ ε α} {catches : ε → Bool} {handler : Call σ ε β}
    {rest : α → Call σ ε β} {s t : σ} {e : ε} (h : x s = (.error e, t)) (hc : catches e = true) :
    tryElse x catches handler rest s = handler t := by
  rw [tryElse, h]
  exact if_pos hc

/-- A handler has nothing to do with a call that returns. -/
theorem tryExcept_ok {x : Call σ ε α} {catches : ε → Bool} {handler : ε → Call σ ε α} {s t : σ}
    {a : α} (h : x s = (.ok a, t)) : tryExcept x catches handler s = (.ok a, t) := by
  rw [tryExcept, h]

/-- It runs where the call raises what it catches, in the state the call left. -/
theorem tryExcept_error {x : Call σ ε α} {catches : ε → Bool} {handler : ε → Call σ ε α}
    {s t : σ} {e : ε} (h : x s = (.error e, t)) (hc : catches e = true) :
    tryExcept x catches handler s = handler e t := by
  rw [tryExcept, h]
  exact if_pos hc

/-- An error the handler is not for passes it, and the state with it. -/
theorem tryExcept_raised {x : Call σ ε α} {catches : ε → Bool} {handler : ε → Call σ ε α}
    {s t : σ} {e : ε} (h : x s = (.error e, t)) (hc : catches e = false) :
    tryExcept x catches handler s = (.error e, t) := by
  rw [tryExcept, h]
  exact if_neg (Bool.not_eq_true _ ▸ hc)

theorem observe_bind (f : σ → α) (g : α → Call σ ε β) (s : σ) :
    (observe f >>= g) s = g (f s) s := rfl

theorem modify_bind (f : σ → σ) (g : Unit → Call σ ε β) (s : σ) :
    (modify f >>= g) s = g () (f s) := rfl

theorem lift_ok_bind (a : α) (f : α → Call σ ε β) (s : σ) :
    ((lift (.ok a) : Call σ ε α) >>= f) s = f a s := rfl

theorem lift_error_bind (e : ε) (f : α → Call σ ε β) (s : σ) :
    ((lift (.error e) : Call σ ε α) >>= f) s = (.error e, s) := rfl

/-- A step keeps the state, also where it fails. -/
theorem keeps_step (fails : Option ε) : Keeps (step fails : Call σ ε Unit) := by
  intro s
  cases fails <;> rfl

theorem keeps_lift (x : Except ε α) : Keeps (lift x : Call σ ε α) := fun _ => rfl

/-- A rest that keeps the state leaves what the first call left. -/
theorem bind_keeps {x : Call σ ε α} {f : α → Call σ ε β} (hf : ∀ a, Keeps (f a)) (s : σ) :
    ((x >>= f) s).2 = (x s).2 := by
  rcases hr : x s with ⟨e | a, t⟩
  · rw [bind_error hr]
  · rw [bind_ok hr, hf a]

/-- Calls that keep the state keep it one behind the other. -/
theorem Keeps.bind {x : Call σ ε α} {f : α → Call σ ε β} (hx : Keeps x)
    (hf : ∀ a, Keeps (f a)) : Keeps (x >>= f) := by
  intro s
  rw [bind_keeps hf, hx]

/-- The state after an acquisition and, where it succeeds, the release: what a bracket comes
to around a use that does nothing. -/
def settled (acquire : Call σ ε α) (release : α → σ → σ) (s : σ) : σ :=
  match acquire s with
  | (.ok a, t) => release a t
  | (.error _, t) => t

/-- An acquisition that succeeds is released. -/
theorem settled_ok {acquire : Call σ ε α} {release : α → σ → σ} {s t : σ} {a : α}
    (h : acquire s = (.ok a, t)) : settled acquire release s = release a t := by
  rw [settled, h]

/-- One that fails leaves nothing to release. -/
theorem settled_error {acquire : Call σ ε α} {release : α → σ → σ} {s t : σ} {e : ε}
    (h : acquire s = (.error e, t)) : settled acquire release s = t := by
  rw [settled, h]

/-- A resource whose use keeps the state leaves what its acquisition and release
leave. -/
theorem bracket_settled {acquire : Call σ ε α} {release : α → σ → σ} {use : α → Call σ ε β}
    (hu : ∀ a, Keeps (use a)) (s : σ) :
    (bracket acquire release use s).2 = settled acquire release s := by
  rcases hr : acquire s with ⟨e | a, t⟩
  · rw [bracket, bind_error hr, settled_error hr]
  · rw [bracket, bind_ok hr, tryFinally, hu a, settled_ok hr]

/-- A resource whose release undoes its acquisition leaves no trace of a use that leaves
none. -/
theorem bracket_keeps {acquire : Call σ ε α} {release : α → σ → σ} {use : α → Call σ ε β}
    (h : ∀ s, settled acquire release s = s) (hu : ∀ a, Keeps (use a)) :
    Keeps (bracket acquire release use) := fun s => by
  rw [bracket_settled hu, h]

/-! ## How a call ends -/

/-- What the call returns satisfies `R`, and what it raises `P`, from every state. -/
structure Ends (R : α → Prop) (P : ε → Prop) (x : Call σ ε α) : Prop where
  returns : ∀ s a, (x s).1 = .ok a → R a
  raises : ∀ s e, (x s).1 = .error e → P e

section

variable {R : α → Prop} {S : β → Prop} {P Q : ε → Prop} {x : Call σ ε α} {f : α → Call σ ε β}

/-- A value that is returned satisfies what is asked of values. -/
theorem ends_pure {a : α} (h : R a) : Ends R P (pure a : Call σ ε α) where
  returns _ _ ha := Except.ok.inj ha ▸ h
  raises _ _ he := nomatch he

/-- So does what a lifted result holds, value or exception. -/
theorem ends_lift {x : Except ε α} (hR : ∀ a, x = .ok a → R a) (hP : ∀ e, x = .error e → P e) :
    Ends R P (lift x : Call σ ε α) :=
  ⟨fun _ => hR, fun _ => hP⟩

/-- A step returns nothing of interest, and raises what it is told to. -/
theorem ends_step {fails : Option ε} (h : ∀ e, fails = some e → P e) :
    Ends (fun _ => True) P (step fails : Call σ ε Unit) where
  returns _ _ _ := trivial
  raises s e he := by
    cases fails with
    | none => cases he
    | some exc => exact h e (congrArg some (Except.error.inj he))

/-- A handler that cleans up and raises again raises the same. -/
theorem ends_raiseAfter {cleanup : σ → σ} {e : ε} (h : P e) :
    Ends R P (raiseAfter cleanup e : Call σ ε α) where
  returns _ _ ha := nomatch ha
  raises _ _ he := Except.error.inj he ▸ h

/-- What is asked of a sequence is asked of its parts: the first hands on what it returns,
and either may raise. -/
theorem Ends.bind (hx : Ends R P x) (hf : ∀ a, R a → Ends S P (f a)) : Ends S P (x >>= f) := by
  constructor <;> intro s r hr
  · rcases hxs : x s with ⟨e | a, t⟩
    · rw [bind_error hxs] at hr
      cases hr
    · rw [bind_ok hxs] at hr
      exact (hf a (hx.returns s a (congrArg Prod.fst hxs))).returns t r hr
  · rcases hxs : x s with ⟨e | a, t⟩
    · rw [bind_error hxs] at hr
      obtain rfl := Except.error.inj hr
      exact hx.raises s e (congrArg Prod.fst hxs)
    · rw [bind_ok hxs] at hr
      exact (hf a (hx.returns s a (congrArg Prod.fst hxs))).raises t r hr

/-- A cleanup changes nothing in how a call ends. -/
theorem Ends.tryFinally {cleanup : σ → σ} (hx : Ends R P x) : Ends R P (tryFinally x cleanup) :=
  ⟨hx.returns, hx.raises⟩

/-- A bracket ends as its acquisition and its use do. -/
theorem Ends.bracket {release : α → σ → σ} (hx : Ends R P x) (hf : ∀ a, R a → Ends S P (f a)) :
    Ends S P (bracket x release f) :=
  hx.bind fun a ha => (hf a ha).tryFinally

/-- What a handler does not catch gets through, and what it catches becomes what it makes of
it. -/
theorem Ends.tryExcept {catches : ε → Bool} {handler : ε → Call σ ε α} (hx : Ends R Q x)
    (hQ : ∀ e, Q e → catches e = false → P e) (hh : ∀ e, Q e → Ends R P (handler e)) :
    Ends R P (tryExcept x catches handler) := by
  constructor <;> intro s r hr
  · rcases hxs : x s with ⟨e | a, t⟩
    · have hQe : Q e := hx.raises s e (congrArg Prod.fst hxs)
      rcases hc : catches e with _ | _
      · rw [Call.tryExcept, hxs] at hr
        simp [hc] at hr
      · rw [tryExcept_error hxs hc] at hr
        exact (hh e hQe).returns t r hr
    · rw [tryExcept_ok hxs] at hr
      exact hx.returns s r ((congrArg Prod.fst hxs).trans hr)
  · rcases hxs : x s with ⟨e | a, t⟩
    · have hQe : Q e := hx.raises s e (congrArg Prod.fst hxs)
      rcases hc : catches e with _ | _
      · rw [Call.tryExcept, hxs] at hr
        simp only [hc, Bool.false_eq_true, if_false, Except.error.injEq] at hr
        exact hr ▸ hQ e hQe hc
      · rw [tryExcept_error hxs hc] at hr
        exact (hh e hQe).raises t r hr
    · rw [tryExcept_ok hxs] at hr
      cases hr

end

end Call
end Pidprobe
