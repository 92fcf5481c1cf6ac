/-
# Forward simulation

Two transition systems, and a map `abs` from the states of the first to the
states of the second.  `Simulation` says that every step of the first is matched
by a run of the second, possibly an empty one, between the images; the match may
use an invariant.  `Simulation.run` is the induction over runs.

`family step` is any number of copies of one machine, each at its own index, of
which one steps at a time.  What a run of the family does to one copy is a run of
that copy (`run_family`), so what is proved of the machine holds of every copy.
-/

import Pidprobe.Lib.Run
import Mathlib.Logic.Function.Basic

namespace Pidprobe

variable {σ τ ε α ι : Type*} {step : σ → ε → Option σ} {astep : τ → α → Option τ}

/-! ## Runs in two parts -/

/-- A run of two lists is a run of the first and then one of the second. -/
theorem run_append {s : σ} {es es' : List ε} :
    run step s (es ++ es') = (run step s es).bind fun t => run step t es' := by
  induction es generalizing s with
  | nil => rfl
  | cons e es ih =>
    rw [List.cons_append, run, run, Option.bind_assoc]
    exact Option.bind_congr fun t _ => ih

/-- So there is a state between the two. -/
theorem run_append_eq_some {s t : σ} {es es' : List ε} :
    run step s (es ++ es') = some t ↔
      ∃ m, run step s es = some m ∧ run step m es' = some t := by
  rw [run_append, Option.bind_eq_some_iff]

/-- Runs of the events of one kind are runs of a machine that knows no others. -/
theorem run_map (f : α → ε) {s : σ} {es : List α} :
    run step s (es.map f) = run (fun s e => step s (f e)) s es := by
  induction es generalizing s with
  | nil => rfl
  | cons e es ih =>
    rw [List.map_cons, run, run]
    exact Option.bind_congr fun t _ => ih

/-- **A step that makes a predicate true.**  A predicate that holds at the end of a
run and not at its start comes to hold at one of its steps. -/
theorem run_crossing {I D : σ → Prop} (hkeep : ∀ s e t, I s → step s e = some t → I t) :
    ∀ {es : List ε} {s t : σ}, I s → run step s es = some t → ¬D s → D t →
      ∃ before e after m m', es = before ++ e :: after ∧ run step s before = some m ∧ I m ∧
        step m e = some m' ∧ run step m' after = some t ∧ ¬D m ∧ D m'
  | [], _, _, _, hr, hs, ht => absurd (Option.some.inj hr ▸ ht) hs
  | e :: es, s, t, hI, hr, hs, ht => by
      obtain ⟨m, he, hr⟩ := run_cons.1 hr
      by_cases hm : D m
      · exact ⟨[], e, es, s, m, rfl, rfl, hI, he, hr, hs, hm⟩
      · obtain ⟨before, e', after, n, n', rfl, hbefore, hn⟩ :=
          run_crossing hkeep (hkeep _ _ _ hI he) hr hm ht
        exact ⟨e :: before, e', after, n, n', rfl, run_cons.2 ⟨m, he, hbefore⟩, hn⟩

/-- **What happens once stays done.**  An event of kind `q` takes the system from
a state outside `D` into `D`, and no step leaves `D`: so there is at most one, and
none before a state outside `D`. -/
theorem run_countP_le_one {I D : σ → Prop} {q : ε → Bool}
    (hkeep : ∀ s e t, I s → step s e = some t → I t)
    (hdone : ∀ s e t, I s → step s e = some t → D s → D t)
    (honce : ∀ s e t, I s → step s e = some t → q e = true → ¬D s ∧ D t) :
    ∀ {es : List ε} {s t : σ}, I s → run step s es = some t →
      es.countP q ≤ 1 ∧ (D s → es.countP q = 0 ∧ D t) ∧ (es.countP q = 0 ∨ D t)
  | [], _, _, _, hr => ⟨by simp, fun hD => ⟨rfl, Option.some.inj hr ▸ hD⟩, .inl rfl⟩
  | e :: es, s, _, hs, hr => by
      obtain ⟨m, he, hr⟩ := run_cons.1 hr
      obtain ⟨hle, hzero, hor⟩ := run_countP_le_one hkeep hdone honce (hkeep _ _ _ hs he) hr
      rw [List.countP_cons]
      split_ifs with hq
      · obtain ⟨hnot, hD⟩ := honce _ _ _ hs he hq
        rw [(hzero hD).1]
        exact ⟨Nat.le_refl _, fun hs => absurd hs hnot, .inr (hzero hD).2⟩
      · exact ⟨hle, fun hD => hzero (hdone _ _ _ hs he hD), hor⟩

/-! ## Simulation -/

/-- Every step is matched by steps of the other system, any number of them, as long as the
invariant holds. -/
structure Simulation (step : σ → ε → Option σ) (astep : τ → α → Option τ) (abs : σ → τ)
    (Inv : σ → Prop) : Prop where
  keeps : ∀ s e t, Inv s → step s e = some t → Inv t
  matched : ∀ s e t, Inv s → step s e = some t → ∃ as, run astep (abs s) as = some (abs t)

/-- **Every run is matched by a run of the other system**, between the images of its ends. -/
theorem Simulation.run {abs : σ → τ} {Inv : σ → Prop} (h : Simulation step astep abs Inv) :
    ∀ {es : List ε} {s t : σ}, Inv s → Pidprobe.run step s es = some t →
      ∃ as, Pidprobe.run astep (abs s) as = some (abs t)
  | [], _, _, _, hr => ⟨[], Option.some.inj hr ▸ rfl⟩
  | _ :: _, _, _, hs, hr => by
      obtain ⟨m, he, hr⟩ := run_cons.1 hr
      obtain ⟨as, has⟩ := h.matched _ _ _ hs he
      obtain ⟨as', has'⟩ := h.run (h.keeps _ _ _ hs he) hr
      exact ⟨as ++ as', run_append_eq_some.2 ⟨_, has, has'⟩⟩

/-! ## Families -/

section Family

variable [DecidableEq ι]

/-- One copy of the machine steps, and the others stay as they are. -/
def family (step : σ → ε → Option σ) (f : ι → σ) (e : ι × ε) : Option (ι → σ) :=
  (step (f e.1) e.2).map (Function.update f e.1)

/-- The events of copy `i`, in their order. -/
def eventsOf (i : ι) (es : List (ι × ε)) : List ε :=
  es.filterMap fun e => if e.1 = i then some e.2 else none

theorem eventsOf_cons (i : ι) (e : ι × ε) (es : List (ι × ε)) :
    eventsOf i (e :: es) = if e.1 = i then e.2 :: eventsOf i es else eventsOf i es := by
  rw [eventsOf, List.filterMap_cons]
  split_ifs with h <;> rfl

/-- A step of a family is a step of the copy it is of. -/
theorem family_eq_some {f g : ι → σ} {e : ι × ε} :
    family step f e = some g ↔ ∃ s, step (f e.1) e.2 = some s ∧ g = Function.update f e.1 s := by
  rw [family, Option.map_eq_some_iff]
  exact exists_congr fun _ => and_congr_right fun _ => eq_comm

/-- **A run of a family is a run of each of its copies**: no copy notices the others. -/
theorem run_family (i : ι) : ∀ {es : List (ι × ε)} {f g : ι → σ},
    run (family step) f es = some g → run step (f i) (eventsOf i es) = some (g i)
  | [], _, _, h => Option.some.inj h ▸ rfl
  | e :: es, f, g, h => by
      obtain ⟨m, he, hr⟩ := run_cons.1 h
      obtain ⟨s, hs, rfl⟩ := family_eq_some.1 he
      have hrest := run_family i hr
      rw [eventsOf_cons]
      split_ifs with hi
      · subst hi
        rw [Function.update_self] at hrest
        exact run_cons.2 ⟨s, hs, hrest⟩
      · rwa [Function.update_of_ne (Ne.symm hi)] at hrest

/-- A step of one copy, or none: the family may take it. -/
theorem run_family_one {f g : ι → σ} {i : ι} (hothers : ∀ j ≠ i, g j = f j)
    (h : g i = f i ∨ ∃ e, step (f i) e = some (g i)) :
    ∃ es, run (family step) f es = some g := by
  rcases h with h | ⟨e, h⟩
  · have hfg : g = f := funext fun j => by
      rcases eq_or_ne j i with rfl | hne
      · exact h
      · exact hothers j hne
    exact ⟨[], hfg ▸ rfl⟩
  · have hfg : g = Function.update f i (g i) := funext fun j => by
      rcases eq_or_ne j i with rfl | hne
      · rw [Function.update_self]
      · rw [Function.update_of_ne hne, hothers j hne]
    exact ⟨[(i, e)], run_cons.2 ⟨g, family_eq_some.2 ⟨_, h, hfg⟩, rfl⟩⟩

end Family
end Pidprobe
