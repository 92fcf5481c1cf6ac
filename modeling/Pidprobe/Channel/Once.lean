/-
# One evaluation

The target runs the collector of a script at most once, and only after the call
that the script belongs to has injected it (`evaluated_once`).  The target hears
of a script from one step of one call, and its task leaves the stage in front of
the collector for good.
-/

import Pidprobe.Channel.Requests

namespace Pidprobe
namespace Protocol

open Function (update)

section

variable [FloatText] {ε π : Type} [PyException ε] [Serial ε π] {w w' m : World} {j k : ℕ}
  {s : PyStr}

/-! ## One evaluation -/

/-- `_pidprobe_collect()` of script `s` is called: the only event in which the target runs
code of the caller. -/
def Event.collects (s : PyStr) : Event ε π → Bool
  | .target i (.collect _) => i = s
  | _ => false

/-- The collector of script `s` has been called. The task has left its first stage and does
not come back to it. -/
def Collected (w : World) (s : PyStr) : Prop :=
  ∃ task, w.target s = .running task ∧ task.stage ≠ .start

/-- A task that has made a step has left its first stage, and never comes back to it: no
stage leads to `start`. -/
theorem TaskStep.not_start {event : TargetEvent ε π} {task task' : Task} {mail : Mail}
    (h : TaskStep w s task event task' mail) : task'.stage ≠ .start := by
  cases h <;> simp

omit [FloatText] in
/-- A step of a call only makes a script it owns known to the target, and that only by
`sys.remote_exec`. -/
theorem target_proberStep {event : ProberEvent} (hw : Wired w)
    (h : proberStep w k event = some w') (s : PyStr) :
    w'.target s = w.target s ∨
      event = .remoteExec ∧ w.scriptOf k = some s ∧ w.target s = .absent ∧
        w'.target s = .pending := by
  have hcall := callStep_of_proberStep h
  cases hcall with
  | @remoteExec directory hk hd =>
    have hs : w.scriptOf k = some (scriptPath directory) := scriptOf_eq_some.2 ⟨_, hd, rfl⟩
    rcases eq_or_ne s (scriptPath directory) with rfl | hne
    · exact .inr ⟨rfl, hs, hw.uninjected k _ (.inr hk) hs, Function.update_self ..⟩
    · exact .inl (Function.update_of_ne hne _ _)
  | _ => exact .inl rfl

/-- A script whose collector was called has been called, whatever comes behind. -/
theorem Collected.step {event : Event ε π} (hkept : Kept w) (h : step w event = some w')
    (hs : Collected w s) : Collected w' s := by
  obtain ⟨task, ht, hstage⟩ := hs
  cases event with
  | handOut directory =>
    obtain ⟨-, rfl⟩ := mkdtemp_eq_some.1 h
    exact ⟨task, ht, hstage⟩
  | prober k event =>
    rcases target_proberStep hkept.wired h s with he | ⟨-, -, habsent, -⟩
    · exact ⟨task, he.trans ht, hstage⟩
    · rw [ht] at habsent
      cases habsent
  | target i event =>
    obtain ⟨⟨t, mail⟩, hstep, rfl⟩ := Option.map_eq_some_iff.1 h
    rcases eq_or_ne s i with rfl | hne
    · rcases targetStep_cases hkept.wired hkept.addressed hstep with ⟨hpending, -⟩ |
        ⟨_, task', -, rfl, htask, -⟩
      · rw [ht] at hpending
        cases hpending
      · exact ⟨task', w.setTarget_self .., htask.not_start⟩
    · exact ⟨task, (World.setTarget_of_ne hne).trans ht, hstage⟩

/-- A call of the collector is the first: it needs the first stage, and leaves it. -/
theorem collected_of_collects {event : Event ε π} (hkept : Kept w) (h : step w event = some w')
    (hq : event.collects s = true) : ¬Collected w s ∧ Collected w' s := by
  cases event with
  | target i event =>
    cases event with
    | collect outcome =>
      obtain rfl : i = s := by simpa [Event.collects] using hq
      obtain ⟨⟨t, mail⟩, hstep, rfl⟩ := Option.map_eq_some_iff.1 h
      rcases targetStep_cases hkept.wired hkept.addressed hstep with ⟨hpending, -⟩ |
        ⟨task, task', ht, rfl, htask, -⟩
      · simp [targetStep, hpending] at hstep
      · have hstart : task.stage = .start := by cases htask <;> assumption
        refine ⟨?_, task', w.setTarget_self .., htask.not_start⟩
        rintro ⟨task₁, ht₁, hstage⟩
        obtain rfl := Target.running.inj (ht.symm.trans ht₁)
        exact hstage hstart
    | _ => cases hq
  | _ => cases hq

/-- The target hears of a script from the injection of its call, and from nothing else. -/
theorem remoteExec_of_heard {event : Event ε π} (hkept : Kept w) (h : step w event = some w')
    (habsent : w.target s = .absent) (hheard : w'.target s ≠ .absent) :
    ∃ k, event = .prober k .remoteExec ∧ w.scriptOf k = some s := by
  cases event with
  | handOut directory =>
    obtain ⟨-, rfl⟩ := mkdtemp_eq_some.1 h
    exact absurd habsent hheard
  | prober k event =>
    rcases target_proberStep hkept.wired h s with he | ⟨rfl, hs, -, -⟩
    · exact absurd (he.trans habsent) hheard
    · exact ⟨k, rfl, hs⟩
  | target i event =>
    obtain ⟨⟨t, mail⟩, hstep, rfl⟩ := Option.map_eq_some_iff.1 h
    rcases eq_or_ne s i with rfl | hne
    · simp [targetStep, habsent] at hstep
    · exact absurd ((World.setTarget_of_ne hne).trans habsent) hheard

/-- The script of a call stays. -/
theorem scriptOf_step {event : Event ε π} (hkept : Kept w) (h : step w event = some w')
    (hs : w.scriptOf k = some s) : w'.scriptOf k = some s := by
  cases event with
  | handOut directory =>
    obtain ⟨-, rfl⟩ := mkdtemp_eq_some.1 h
    exact hs
  | prober j event =>
    rcases proberStep_prepares_or_advances hkept.wired h with hprep | hadv
    · exact hprep.scriptOf k s hs
    · rwa [World.scriptOf, hadv.scriptDir]
  | target i event =>
    obtain ⟨⟨t, mail⟩, -, rfl⟩ := Option.map_eq_some_iff.1 h
    exact hs

/-- The collector of a script is called at most once in a run, and has been called
at its end if it is. -/
theorem countP_collects {events : List (Event ε π)} (h : run step init events = some w)
    (s : PyStr) :
    events.countP (Event.collects s) ≤ 1 ∧
      (events.countP (Event.collects s) = 0 ∨ Collected w s) := by
  obtain ⟨hle, -, hor⟩ := run_countP_le_one (D := (Collected · s)) (q := Event.collects s)
    (fun _ _ _ hm => Kept.step hm) (fun _ _ _ hm he => Collected.step hm he)
    (fun _ _ _ hm he => collected_of_collects hm he) .init h
  exact ⟨hle, hor⟩

/-- **One evaluation.**  In every interleaving of any number of calls with the
tasks of the target, the collector of a script is called at most once; and where
it is called, the call the script belongs to injected it before. -/
theorem evaluated_once {events : List (Event ε π)} (h : run step init events = some w)
    (s : PyStr) :
    events.countP (Event.collects s) ≤ 1 ∧
      (events.countP (Event.collects s) = 1 → ∃ k before after,
        events = before ++ .prober k .remoteExec :: after ∧ w.scriptOf k = some s ∧
          before.countP (Event.collects s) = 0) := by
  have hkeep : ∀ (m : World) (e : Event ε π) (m' : World), Kept m → step m e = some m' → Kept m' :=
    fun _ _ _ hm => hm.step
  obtain ⟨hle, hor⟩ := countP_collects h s
  refine ⟨hle, fun hone => ?_⟩
  have hheard : w.target s ≠ .absent := by
    obtain ⟨task, ht, -⟩ := hor.resolve_left (by rw [hone]; exact Nat.one_ne_zero)
    simp [ht]
  obtain ⟨before, e, after, m, m', rfl, hbefore, hm, he, hafter, habsent, hm'⟩ :=
    run_crossing (D := fun w => w.target s ≠ .absent) hkeep .init h
      (fun h => h rfl) hheard
  obtain ⟨k, rfl, hk⟩ := remoteExec_of_heard hm he (not_not.1 habsent) hm'
  refine ⟨k, before, after, rfl, ?_, ?_⟩
  · exact (run_invariant (I := fun w => Kept w ∧ w.scriptOf k = some s) (P := fun _ => True)
      (fun _ _ _ hi _ hs => ⟨hi.1.step hs, scriptOf_step hi.1 hs hi.2⟩)
      ⟨hm.step he, scriptOf_step hm he hk⟩ (fun _ _ => trivial) hafter).2
  · refine (countP_collects hbefore s).2.resolve_right ?_
    rintro ⟨task, ht, -⟩
    exact habsent (by simp [ht])

omit [FloatText] in
/-- The run of a late target, which evaluates the script of a call that has given up, and
does so once. -/
theorem evaluated_once_late_target :
    letI := Json.wholeFloats
    let s := scriptPath (py "/tmp/d")
    (∃ w, run step init lateTarget = some w) ∧ lateTarget.countP (Event.collects s) ≤ 1 ∧
      (lateTarget.countP (Event.collects s) = 1 → ∃ k before after,
        lateTarget = before ++ .prober k .remoteExec :: after ∧
          before.countP (Event.collects s) = 0) := by
  let _ := Json.wholeFloats
  intro s
  have hsome : (run step init lateTarget).isSome = true := by decide +kernel
  obtain ⟨w, hrun⟩ := Option.isSome_iff_exists.1 hsome
  obtain ⟨hle, hone⟩ := evaluated_once hrun s
  refine ⟨⟨w, hrun⟩, hle, fun h => ?_⟩
  obtain ⟨k, before, after, hevents, -, hbefore⟩ := hone h
  exact ⟨k, before, after, hevents, hbefore⟩

end

end Protocol
end Pidprobe
