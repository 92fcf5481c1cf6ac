/-
# Traces whose events are permitted

A component that suspends and resumes leaves a trace of events.  What it may do
next depends on the trace so far: `Lawful permitted trace` says that every event
of the trace was permitted by the events before it.  A trace grows at its end, so
what every permitted event preserves holds of every lawful trace
(`Lawful.invariant`).
-/

import Mathlib.Data.List.Induction

namespace Pidprobe

variable {ε : Type*} {permitted : List ε → ε → Prop}

/-- Every event is permitted by those before it, wherever it stands in the trace. -/
def Lawful (permitted : List ε → ε → Prop) (trace : List ε) : Prop :=
  ∀ before event after, trace = before ++ event :: after → permitted before event

namespace Lawful

theorem nil : Lawful permitted [] := by
  intro before event after h
  simp at h

/-- A trace grows by one event: the others stay permitted. -/
theorem append_singleton {trace : List ε} {event : ε} :
    Lawful permitted (trace ++ [event]) ↔ Lawful permitted trace ∧ permitted trace event := by
  constructor
  · intro h
    refine ⟨fun before event' after htrace => ?_, h trace event [] rfl⟩
    exact h before event' (after ++ [event]) (by rw [htrace]; simp)
  · rintro ⟨h, hevent⟩ before event' after htrace
    rcases List.eq_nil_or_concat after with rfl | ⟨after, last, rfl⟩
    · obtain ⟨rfl, hlast⟩ := List.append_inj' htrace rfl
      obtain rfl := List.singleton_inj.1 hlast
      exact hevent
    · rw [List.concat_eq_append, ← List.cons_append, ← List.append_assoc] at htrace
      exact h before event' after (List.append_inj_left' htrace rfl)

/-- **What permitted events preserve holds of every lawful trace**, by induction from
its end. -/
theorem invariant (inv : List ε → Prop) (hnil : inv [])
    (hstep : ∀ trace event, inv trace → permitted trace event → inv (trace ++ [event])) :
    ∀ {trace : List ε}, Lawful permitted trace → inv trace := by
  intro trace
  induction trace using List.reverseRecOn with
  | nil => exact fun _ => hnil
  | append_singleton trace event ih =>
    intro h
    obtain ⟨htrace, hevent⟩ := append_singleton.1 h
    exact hstep trace event (ih htrace) hevent

end Lawful
end Pidprobe
