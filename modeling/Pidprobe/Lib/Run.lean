/-
# Runs of a transition system

A system of several parties is a partial step function `step s e`: the state
after event `e`, or `none` where `e` cannot happen in `s`.  A run is a list of
events, so "every interleaving" is "every list of events the step function
accepts".  `run_invariant` is the one induction over runs: a predicate every
step preserves, under a condition `P` on the events, holds at the end of every
run whose events all meet `P`.
-/

import Mathlib.Data.List.Basic

namespace Pidprobe

variable {σ ε : Type*} {step : σ → ε → Option σ}

/-- The state after a list of events, where each of them was possible in its turn. -/
def run (step : σ → ε → Option σ) : σ → List ε → Option σ
  | s, [] => some s
  | s, e :: es => (step s e).bind fun s' => run step s' es

/-- A run is its first step, and a run of the rest. -/
theorem run_cons {s t : σ} {e : ε} {es : List ε} :
    run step s (e :: es) = some t ↔ ∃ s', step s e = some s' ∧ run step s' es = some t :=
  Option.bind_eq_some_iff

/-- **A step invariant is a run invariant**, of runs whose events all have a property. -/
theorem run_invariant {I : σ → Prop} {P : ε → Prop}
    (hstep : ∀ s e t, I s → P e → step s e = some t → I t) :
    ∀ {es : List ε} {s t : σ}, I s → (∀ e ∈ es, P e) → run step s es = some t → I t
  | [], _, _, h, _, hr => Option.some.inj hr ▸ h
  | _ :: _, _, _, h, hP, hr => by
      obtain ⟨s', hs, hr⟩ := run_cons.1 hr
      exact run_invariant hstep (hstep _ _ _ h (hP _ (List.mem_cons_self ..)) hs)
        (fun e he => hP e (List.mem_cons_of_mem _ he)) hr

end Pidprobe
