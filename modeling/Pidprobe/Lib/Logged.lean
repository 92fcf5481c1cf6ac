/-
# Calls that log what they do

A call that returns or raises, and logs events while it runs: `Logged ω ε α`.  A
`do` block logs its steps in order, up to and including the first that raises.
`outcome` forgets the log; that it commutes with the steps of a block
(`outcome_bind`, `outcome_mapM`) is what shows a logged program to be the program
it logs.

`levels` are the generations below some roots; where every node has at most `b`
children, generation `k` has at most `b ^ k` nodes for each root
(`length_levels_le`).
-/

import Mathlib.Algebra.Order.Group.Nat
import Pidprobe.Lib.Raises

namespace Pidprobe

/-- A call that returns an `α` or raises an `ε`, and what it logged on the way. -/
@[ext] structure Logged (ω ε α : Type) where
  outcome : Except ε α
  log : List ω

namespace Logged

variable {ω ε α β : Type}

instance : Monad (Logged ω ε) where
  pure a := ⟨.ok a, []⟩
  bind x f :=
    match x.outcome with
    | .ok a => ⟨(f a).outcome, x.log ++ (f a).log⟩
    | .error e => ⟨.error e, x.log⟩

theorem bind_def (x : Logged ω ε α) (f : α → Logged ω ε β) :
    x >>= f = match x.outcome with
      | .ok a => ⟨(f a).outcome, x.log ++ (f a).log⟩
      | .error e => ⟨.error e, x.log⟩ := rfl

instance : LawfulMonad (Logged ω ε) := LawfulMonad.mk' _
  (by
    rintro α ⟨_ | a, log⟩
    · rfl
    · exact Logged.ext rfl (List.append_nil log))
  (fun _ _ => rfl)
  (by
    rintro α β γ ⟨_ | a, log⟩ f g
    · rfl
    · simp only [bind_def]
      rcases (f a).outcome with e | b
      · rfl
      · exact Logged.ext rfl (List.append_assoc _ _ _))

/-- A call that logs nothing, and ends as it is told. -/
def lift (x : Except ε α) : Logged ω ε α := ⟨x, []⟩

/-- One event, and nothing else. -/
def tell (event : ω) : Logged ω ε Unit := ⟨.ok (), [event]⟩

/-- A call whose log is one event of the caller's, in which its own events stand. -/
def enclose (event : List ω → ω) (x : Logged ω ε α) : Logged ω ε α := ⟨x.outcome, [event x.log]⟩

/-- A call whose outcome, whatever it is, decides what is done next: `try`, with what its
handlers log behind it. -/
def attempt (x : Logged ω ε α) (f : Except ε α → Logged ω ε β) : Logged ω ε β :=
  ⟨(f x.outcome).outcome, x.log ++ (f x.outcome).log⟩

/-- A call whose exceptions are turned into others; what it logged stays. -/
def mapError {ε' : Type} (f : ε → ε') (x : Logged ω ε α) : Logged ω ε' α :=
  ⟨x.outcome.mapError f, x.log⟩

@[simp] theorem outcome_pure (a : α) : (pure a : Logged ω ε α).outcome = .ok a := rfl

@[simp] theorem log_pure (a : α) : (pure a : Logged ω ε α).log = [] := rfl

@[simp] theorem outcome_lift (x : Except ε α) : (lift x : Logged ω ε α).outcome = x := rfl

@[simp] theorem log_lift (x : Except ε α) : (lift x : Logged ω ε α).log = [] := rfl

@[simp] theorem outcome_tell (event : ω) : (tell event : Logged ω ε Unit).outcome = .ok () := rfl

@[simp] theorem log_tell (event : ω) : (tell event : Logged ω ε Unit).log = [event] := rfl

@[simp] theorem outcome_enclose (event : List ω → ω) (x : Logged ω ε α) :
    (enclose event x).outcome = x.outcome := rfl

@[simp] theorem log_enclose (event : List ω → ω) (x : Logged ω ε α) :
    (enclose event x).log = [event x.log] := rfl

@[simp] theorem outcome_attempt (x : Logged ω ε α) (f : Except ε α → Logged ω ε β) :
    (attempt x f).outcome = (f x.outcome).outcome := rfl

@[simp] theorem log_attempt (x : Logged ω ε α) (f : Except ε α → Logged ω ε β) :
    (attempt x f).log = x.log ++ (f x.outcome).log := rfl

/-- A call that returns is not concerned. -/
theorem outcome_mapError_of_ok {ε' : Type} (f : ε → ε') {x : Logged ω ε α} {a : α}
    (h : x.outcome = .ok a) : (x.mapError f).outcome = .ok a := by
  rw [mapError, h]
  rfl

@[simp] theorem log_mapError {ε' : Type} (f : ε → ε') (x : Logged ω ε α) :
    (x.mapError f).log = x.log := rfl

/-- A block logs what its first step logs, and then what the rest does, where there is
one. -/
theorem log_bind (x : Logged ω ε α) (f : α → Logged ω ε β) :
    (x >>= f).log = x.log ++ match x.outcome with
      | .ok a => (f a).log
      | .error _ => [] := by
  rcases x with ⟨_ | _, log⟩
  · exact (List.append_nil log).symm
  · rfl

/-- Without its log a block is a block of `Except`. -/
@[simp] theorem outcome_bind (x : Logged ω ε α) (f : α → Logged ω ε β) :
    (x >>= f).outcome = x.outcome >>= fun a => (f a).outcome := by
  rcases x with ⟨_ | _, _⟩ <;> rfl

/-- What a block logs comes from its first step, or from the rest behind a value of
the first. -/
theorem mem_log_bind {x : Logged ω ε α} {f : α → Logged ω ε β} {event : ω}
    (h : event ∈ (x >>= f).log) :
    event ∈ x.log ∨ ∃ a, x.outcome = .ok a ∧ event ∈ (f a).log := by
  rcases x with ⟨_ | a, log⟩
  · exact .inl h
  · exact (List.mem_append.1 h).imp id fun h => ⟨a, rfl, h⟩

/-- Steps that log nothing add nothing to the log, whether they run or not. -/
theorem log_bind_of_silent {x : Logged ω ε α} {f : α → Logged ω ε β} (hf : ∀ a, (f a).log = []) :
    (x >>= f).log = x.log := by
  rcases x with ⟨_ | a, log⟩
  · rfl
  · show log ++ (f a).log = log
    rw [hf, List.append_nil]

/-- A block is cut short at the step that raises: what it logs begins what its steps
log at most. -/
theorem log_bind_isPrefix {x : Logged ω ε α} {f : α → Logged ω ε β} {first rest : List ω}
    (hx : x.log <+: first) (h : ∀ a, x.outcome = .ok a → x.log = first ∧ (f a).log <+: rest) :
    (x >>= f).log <+: first ++ rest := by
  rw [log_bind]
  rcases x with ⟨_ | a, log⟩
  · exact (List.append_nil log).symm ▸ hx.trans (List.prefix_append ..)
  · obtain ⟨rfl, hrest⟩ := h a rfl
    exact (List.prefix_append_right_inj _).2 hrest

/-- How often a block logs an event of a kind is bounded step by step. -/
theorem countP_log_bind_le {x : Logged ω ε α} {f : α → Logged ω ε β} {p : ω → Bool} {m n : ℕ}
    (hx : x.log.countP p ≤ m) (hf : ∀ a, x.outcome = .ok a → (f a).log.countP p ≤ n) :
    (x >>= f).log.countP p ≤ m + n := by
  rcases x with ⟨_ | a, log⟩
  · exact hx.trans (Nat.le_add_right _ _)
  · have happ : ((⟨.ok a, log⟩ : Logged ω ε α) >>= f).log = log ++ (f a).log := rfl
    rw [happ, List.countP_append]
    exact Nat.add_le_add hx (hf a rfl)

/-- A first step that logs nothing adds nothing to the count of the rest. -/
theorem countP_log_lift_bind_le {x : Except ε α} {f : α → Logged ω ε β} {p : ω → Bool} {n : ℕ}
    (hf : ∀ a, x = .ok a → (f a).log.countP p ≤ n) : (lift x >>= f).log.countP p ≤ n := by
  rw [← Nat.zero_add n]
  exact countP_log_bind_le (Nat.le_refl 0) hf

/-- What a block logs behind such a step was logged by the rest, so the step has returned. -/
theorem mem_log_lift_bind {x : Except ε α} {f : α → Logged ω ε β} {event : ω}
    (h : event ∈ (lift x >>= f).log) : ∃ a, x = .ok a ∧ event ∈ (f a).log :=
  (mem_log_bind h).resolve_left List.not_mem_nil

/-- Without its log a logged loop is the loop. -/
@[simp] theorem outcome_mapM (f : α → Logged ω ε β) (xs : List α) :
    (xs.mapM f).outcome = xs.mapM fun a => (f a).outcome := by
  induction xs with
  | nil => rfl
  | cons a xs ih =>
    rw [List.mapM_cons, List.mapM_cons, outcome_bind]
    simp only [outcome_bind, ih]
    rfl

/-- What a loop logs was logged in one of its rounds. -/
theorem mem_log_mapM {f : α → Logged ω ε β} {xs : List α} {event : ω}
    (h : event ∈ (xs.mapM f).log) : ∃ a ∈ xs, event ∈ (f a).log := by
  induction xs with
  | nil => cases h
  | cons a xs ih =>
    rw [List.mapM_cons] at h
    rcases mem_log_bind h with h | ⟨b, -, h⟩
    · exact ⟨a, List.mem_cons_self .., h⟩
    · rcases mem_log_bind h with h | ⟨bs, -, h⟩
      · obtain ⟨a', ha', h⟩ := ih h
        exact ⟨a', List.mem_cons_of_mem _ ha', h⟩
      · cases h

/-- A bound for each round is one for the loop, as many times as it has rounds. -/
theorem countP_log_mapM_le {f : α → Logged ω ε β} {xs : List α} {p : ω → Bool} {n : ℕ}
    (hf : ∀ a ∈ xs, (f a).log.countP p ≤ n) : (xs.mapM f).log.countP p ≤ xs.length * n := by
  induction xs with
  | nil => exact Nat.zero_le _
  | cons a xs ih =>
    obtain ⟨ha, hxs⟩ := List.forall_mem_cons.1 hf
    rw [List.mapM_cons, List.length_cons, Nat.succ_mul, Nat.add_comm]
    refine countP_log_bind_le ha fun b _ => ?_
    exact countP_log_bind_le (n := 0) (ih hxs) fun _ _ => le_refl 0

end Logged

/-! ## Generations -/

variable {ν : Type*}

/-- The nodes `k` generations below the roots, each as often as there are ways to it. -/
def levels (children : ν → List ν) (roots : List ν) : ℕ → List ν
  | 0 => roots
  | k + 1 => (levels children roots k).flatMap children

variable {children : ν → List ν} {roots : List ν}

/-- What holds of the roots and passes from a node to its children, one generation
on, holds of every generation. -/
theorem levels_induction {P : ℕ → ν → Prop} (hroots : ∀ v ∈ roots, P 0 v)
    (hchildren : ∀ k v, P k v → ∀ w ∈ children v, P (k + 1) w) (k : ℕ) :
    ∀ v ∈ levels children roots k, P k v := by
  induction k with
  | zero => exact hroots
  | succ k ih =>
    intro w hw
    obtain ⟨v, hv, hw⟩ := List.mem_flatMap.1 hw
    exact hchildren k v (ih v hv) w hw

/-- Nodes with at most `b` children each have at most `b` times as many children as they
are. -/
theorem length_flatMap_le {vs : List ν} {b : ℕ} (h : ∀ v ∈ vs, (children v).length ≤ b) :
    (vs.flatMap children).length ≤ vs.length * b := by
  induction vs with
  | nil => exact Nat.zero_le _
  | cons v vs ih =>
    obtain ⟨hv, hvs⟩ := List.forall_mem_cons.1 h
    rw [List.flatMap_cons, List.length_append, List.length_cons, Nat.succ_mul, Nat.add_comm]
    exact Nat.add_le_add (ih hvs) hv

/-- **At most `b` children each give at most `b ^ k` nodes in generation `k`**, for each of
the roots. -/
theorem length_levels_le {b : ℕ} (k : ℕ)
    (h : ∀ j < k, ∀ v ∈ levels children roots j, (children v).length ≤ b) :
    (levels children roots k).length ≤ roots.length * b ^ k := by
  induction k with
  | zero => simp [levels]
  | succ k ih =>
    have hk := h k (Nat.lt_succ_self k)
    calc (levels children roots (k + 1)).length
        ≤ (levels children roots k).length * b := length_flatMap_le hk
      _ ≤ roots.length * b ^ k * b :=
          Nat.mul_le_mul_right b (ih fun j hj => h j (hj.trans (Nat.lt_succ_self k)))
      _ = roots.length * b ^ (k + 1) := by rw [Nat.mul_assoc, ← Nat.pow_succ]

end Pidprobe
