/-
# The timeouts the socket is armed with

In front of every blocking call `receive` and `_accept` read the clock twice:
once for the expiry check and once for the value they hand to `settimeout`.  The
deadline may pass between the two readings, and the first value may be more than
`settimeout` takes.  `budgetSafe_iff` says that nothing else can go wrong with
the timeouts, for every budget, every monotonic clock and every answer of the
operating system.
-/

import Pidprobe.Channel.Socket
import Pidprobe.Parsers

namespace Pidprobe
namespace Socket

/-! ## The armings of a run -/

/-- What stands in front of one blocking call: the readings of the check and of
the arming, and whether `receive` reads on behind the call. -/
structure Arming where
  expiredAt : ℚ
  armedAt : ℚ
  goesOn : Bool

/-- A connection. -/
def Accept.goesOn : Accept → Bool
  | .connected => true
  | _ => false

/-- A chunk that is not the end of the stream. -/
def Recv.goesOn : Recv → Bool
  | .data (_ :: _) => true
  | _ => false

/-- The armings the steps of a run have: the one of `_accept`, then one for each round of
the loop. -/
def armings (acceptStep : AcceptStep) (steps : List RecvStep) : List Arming :=
  ⟨acceptStep.expiredAt, acceptStep.armedAt, acceptStep.outcome.goesOn⟩ ::
    steps.map fun step => ⟨step.expiredAt, step.armedAt, step.outcome.goesOn⟩

section Runs

variable [Rounding]

/-- The armings the run gets to: the next one is reached where `settimeout`
returned and the blocking call gave a reason to read on. -/
def reached (d : Deadline) : List Arming → List Arming
  | [] => []
  | x :: xs =>
    x :: if (arm d x.expiredAt x.armedAt).isOk && x.goesOn then reached d xs else []

/-- A timeout `settimeout` takes and blocks with, no longer than what was left of
the budget at the check. -/
structure Armed (d : Deadline) (x : Arming) : Prop where
  positive : 0 < d.remaining x.armedAt
  fits : d.remaining x.armedAt ≤ maxTimeout
  withinBudget : d.remaining x.armedAt ≤ d.remaining x.expiredAt

/-- Every `settimeout` call of the run gets a proper timeout, and a run that sees
the budget spent ends in `ProbeTimeoutError`. -/
structure BudgetSafe (d : Deadline) (acceptStep : AcceptStep) (steps : List RecvStep) : Prop where
  armed : ∀ x ∈ reached d (armings acceptStep steps), d.isExpired x.expiredAt = false → Armed d x
  surfaces : ∀ x ∈ reached d (armings acceptStep steps),
    d.isExpired x.expiredAt = true ∨ d.isExpired x.armedAt = true →
      receive d acceptStep steps = some (.error d.timeoutError)

/-- A check that finds the budget spent raises the timeout, before `settimeout` is
reached. -/
theorem arm_of_expired {d : Deadline} {expiredAt armedAt : ℚ} (h : d.isExpired expiredAt = true) :
    arm d expiredAt armedAt = .error d.timeoutError := by
  rw [arm, if_pos h]

/-- A proper timeout is one `settimeout` takes. -/
theorem Armed.arm_ok {d : Deadline} {x : Arming} (hx : Armed d x)
    (he : d.isExpired x.expiredAt = false) : arm d x.expiredAt x.armedAt = .ok () := by
  rw [arm, if_neg (by simp [he]), settimeout, if_neg (not_lt.2 hx.positive.le),
    if_neg (not_lt.2 hx.fits)]

/-- A check that finds the budget spent ends the loop with the timeout, whatever was read so
far. -/
theorem receiveChunks_of_expired {d : Deadline} {steps : List RecvStep} {x : Arming}
    (hx : x ∈ reached d (steps.map fun step => ⟨step.expiredAt, step.armedAt, step.outcome.goesOn⟩))
    (he : d.isExpired x.expiredAt = true) (chunks : List (List Byte)) :
    receiveChunks d steps chunks = some (.error d.timeoutError) := by
  induction steps generalizing chunks with
  | nil => cases hx
  | cons step steps ih =>
    rw [List.map_cons, reached] at hx
    rcases List.mem_cons.1 hx with rfl | hx
    · rw [receiveChunks, arm_of_expired he]
    · split_ifs at hx with hgo
      · obtain ⟨hok, hgo⟩ := Bool.and_eq_true_iff.1 hgo
        dsimp only at hok hgo
        rcases ha : arm d step.expiredAt step.armedAt with e | u
        · rw [ha] at hok
          cases hok
        · rcases ho : step.outcome with _ | _ | chunk <;> rw [ho] at hgo
          · cases hgo
          · cases hgo
          · cases chunk with
            | nil => cases hgo
            | cons b chunk =>
              rw [receiveChunks, ha, ho]
              exact ih hx _
      · cases hx

/-- A check that finds the budget spent ends the run with the timeout, in `_accept` as in
the loop. -/
theorem receive_of_expired {d : Deadline} {acceptStep : AcceptStep} {steps : List RecvStep}
    {x : Arming} (hx : x ∈ reached d (armings acceptStep steps))
    (he : d.isExpired x.expiredAt = true) :
    receive d acceptStep steps = some (.error d.timeoutError) := by
  rw [armings, reached] at hx
  rcases List.mem_cons.1 hx with rfl | hx
  · rw [receive, accept, arm_of_expired he, error_bind]
  · split_ifs at hx with hgo
    · obtain ⟨hok, hgo⟩ := Bool.and_eq_true_iff.1 hgo
      dsimp only at hok hgo
      rcases ha : arm d acceptStep.expiredAt acceptStep.armedAt with e | u
      · rw [ha] at hok
        cases hok
      · rcases ho : acceptStep.outcome with _ | _ | _ <;> rw [ho] at hgo
        · cases hgo
        · cases hgo
        · rw [receive, accept, ha, ok_bind, ho]
          simp only [receiveChunks_of_expired hx he, Option.map_some, error_bind]
    · cases hx

end Runs

/-! ## Runs on a clock -/

/-- `_accept` takes readings `1` and `2`; reading `0` started the deadline. -/
def acceptOn (c : Clock) (outcome : Accept) : AcceptStep := ⟨c.reading 1, c.reading 2, outcome⟩

/-- The rounds of `receive` from reading `i` on: each takes two readings of the clock. -/
def recvOn (c : Clock) : ℕ → List Recv → List RecvStep
  | _, [] => []
  | i, outcome :: outcomes => ⟨c.reading i, c.reading (i + 1), outcome⟩ :: recvOn c (i + 2) outcomes

/-- The armings from reading `i` on, given where the run goes on. -/
def armingsOn (c : Clock) : ℕ → List Bool → List Arming
  | _, [] => []
  | i, goesOn :: rest => ⟨c.reading i, c.reading (i + 1), goesOn⟩ :: armingsOn c (i + 2) rest

/-- How many blocking calls these answers ask for. -/
def calls : List Bool → ℕ
  | [] => 0
  | goesOn :: rest => (if goesOn then calls rest else 0) + 1

/-- The armings of the rounds are those of every second reading of the clock and the one
behind it. -/
theorem armingsOn_recvOn (c : Clock) (i : ℕ) (outcomes : List Recv) :
    ((recvOn c i outcomes).map fun step => ⟨step.expiredAt, step.armedAt, step.outcome.goesOn⟩) =
      armingsOn c i (outcomes.map Recv.goesOn) := by
  induction outcomes generalizing i with
  | nil => rfl
  | cons outcome outcomes ih => rw [recvOn, List.map_cons, ih, List.map_cons, armingsOn]

/-- The armings of a run on a clock: reading `0` starts the budget, and each blocking call
has the next two. -/
theorem armings_on (c : Clock) (outcome : Accept) (outcomes : List Recv) :
    armings (acceptOn c outcome) (recvOn c 3 outcomes) =
      armingsOn c 1 (outcome.goesOn :: outcomes.map Recv.goesOn) := by
  rw [armings, armingsOn_recvOn, armingsOn, acceptOn]

section Safe

variable [Rounding]

/-- Two adjacent readings make a proper arming where the second one is in time
and its timeout fits. -/
theorem armed_iff {d : Deadline} {c : Clock} {i : ℕ} {b : Bool} :
    Armed d ⟨c.reading i, c.reading (i + 1), b⟩ ↔
      d.isExpired (c.reading (i + 1)) = false ∧ d.remaining (c.reading (i + 1)) ≤ maxTimeout := by
  have hstep : c.reading i ≤ c.reading (i + 1) := c.monotone (Nat.le_succ i)
  refine ⟨fun h => ⟨Deadline.not_isExpired_iff.2 h.positive, h.fits⟩, fun h =>
    ⟨Deadline.not_isExpired_iff.1 h.1, h.2, Deadline.remaining_le hstep⟩⟩

/-- The armings of a run are proper exactly when the armings its answers ask for
are, up to the first check that finds the budget spent. -/
theorem armed_on_iff {d : Deadline} {c : Clock} (goesOn : List Bool) (i : ℕ) :
    (∀ x ∈ reached d (armingsOn c i goesOn), d.isExpired x.expiredAt = false → Armed d x) ↔
      ∀ j < calls goesOn, d.isExpired (c.reading (i + 2 * j)) = false →
        d.isExpired (c.reading (i + 2 * j + 1)) = false ∧
          d.remaining (c.reading (i + 2 * j + 1)) ≤ maxTimeout := by
  induction goesOn generalizing i with
  | nil => simp [armingsOn, reached, calls]
  | cons b rest ih =>
    rw [armingsOn, reached, List.forall_mem_cons]
    constructor
    · rintro ⟨hhead, htail⟩ j hj hlive
      have hfirst : d.isExpired (c.reading i) = false :=
        Deadline.not_isExpired_of_le (c.monotone (Nat.le_add_right i (2 * j))) hlive
      have hx := hhead hfirst
      cases j with
      | zero => exact armed_iff.1 hx
      | succ j =>
        -- The answers ask for a further call, so the run gets to it.
        have hb : b = true := by
          by_contra hb
          simp [calls, hb] at hj
        subst hb
        rw [hx.arm_ok hfirst] at htail
        have hj' : j < calls rest := by simpa [calls] using hj
        have := (ih (i + 2)).1 (by simpa [Except.isOk, Except.toBool] using htail) j hj'
        rw [show i + 2 * (j + 1) = i + 2 + 2 * j by omega] at hlive ⊢
        exact this hlive
    · intro h
      refine ⟨fun hlive => ?_, fun x hx => ?_⟩
      · exact armed_iff.2 (by simpa using h 0 (by simp [calls]) hlive)
      · split_ifs at hx with hgo
        · have hb : b = true := (Bool.and_eq_true_iff.1 hgo).2
          refine (ih (i + 2)).2 (fun j hj hlive => ?_) x hx
          have hj' : j + 1 < calls (b :: rest) := by simpa [calls, hb] using hj
          rw [show i + 2 + 2 * j = i + 2 * (j + 1) by omega] at hlive ⊢
          exact h (j + 1) hj' hlive
        · cases hx

/-! ## When the budget is safe -/

/-- No check that finds the budget not spent is followed by an arming that finds
it spent, and what is left of the budget at the first arming is a timeout
`settimeout` takes.  Both readings are compared with the moment `start` computed,
in the arithmetic the program computes in. -/
structure Timely (d : Deadline) (c : Clock) (goesOn : List Bool) : Prop where
  uncrossed : ∀ j < calls goesOn, d.isExpired (c.reading (2 * j + 1)) = false →
    d.isExpired (c.reading (2 * j + 2)) = false
  fits : d.isExpired (c.reading 1) = false → d.remaining (c.reading 2) ≤ maxTimeout

/-- **When every timeout is proper.**  For every budget the command line
accepts, every monotonic clock, every rounding and every answer of the operating
system, the `settimeout` calls get positive timeouts within the budget and
within what `settimeout` takes, and a spent budget surfaces as
`ProbeTimeoutError`, if and only if the budget is never spent between a check
and its arming and the first timeout is one `settimeout` takes. -/
theorem budgetSafe_iff (budget : Seconds) (pid : Option ℤ) (c : Clock) (outcome : Accept)
    (outcomes : List Recv) :
    BudgetSafe (Deadline.start budget pid (c.reading 0)) (acceptOn c outcome)
        (recvOn c 3 outcomes) ↔
      Timely (Deadline.start budget pid (c.reading 0)) c
        (outcome.goesOn :: outcomes.map Recv.goesOn) := by
  set d := Deadline.start budget pid (c.reading 0)
  have harmed := armed_on_iff (d := d) (c := c) (outcome.goesOn :: outcomes.map Recv.goesOn) 1
  rw [← armings_on] at harmed
  constructor
  · rintro ⟨h, -⟩
    have hall := harmed.1 h
    refine ⟨fun j hj hlive => ?_, fun hlive => ?_⟩
    · rw [add_comm] at hlive
      exact (show 2 * j + 2 = 1 + 2 * j + 1 by omega) ▸ (hall j hj hlive).1
    · exact (hall 0 (by simp [calls]) hlive).2
  · rintro ⟨huncrossed, hfits⟩
    have hall := harmed.2 (fun j hj hlive => by
      rw [show 1 + 2 * j + 1 = 2 * j + 2 by omega]
      rw [add_comm] at hlive
      have hfirst : d.isExpired (c.reading 1) = false :=
        Deadline.not_isExpired_of_le (c.monotone (Nat.le_add_left 1 (2 * j))) hlive
      refine ⟨huncrossed j hj hlive, le_trans ?_ (hfits hfirst)⟩
      exact Deadline.remaining_le (c.monotone (by omega)))
    refine ⟨hall, fun x hx hexpired => ?_⟩
    rcases he : d.isExpired x.expiredAt
    · have harm := hall x hx he
      have hlive : d.isExpired x.armedAt = false := Deadline.not_isExpired_iff.2 harm.positive
      rw [he, hlive] at hexpired
      rcases hexpired with hexpired | hexpired <;> cases hexpired
    · exact receive_of_expired hx he

end Safe

/-- A clock that passes five seconds between its readings `1` and `2`, so between the check
and the `settimeout` of `_accept`. -/
def crossing : Clock where
  reading i := if i = 0 then 0 else if i = 1 then 9 / 2 else 11 / 2
  monotone := by
    intro i j h
    dsimp only
    split_ifs <;> first | omega | norm_num

/-- `float`, of a text of decimal digits. The parser of the command line needs no more of it
in the examples here. -/
def decimalFloat (text : PyStr) : Option PyFloat :=
  if text ≠ [] ∧ text.all Json.isDigit = true then some (.finite (Json.ofDigits text)) else none

/-- The command line accepts a budget of five seconds.  In doubles, the deadline passes
between the check and the arming of `accept`, and `settimeout` gets minus half a second. -/
theorem crossed_deadline_not_safe :
    letI := Unicode.fullwidth
    letI := Json.wholeFloats
    letI := Rounding.double
    ∃ budget, positiveFloat decimalFloat (py "5") = .ok budget ∧
      ¬BudgetSafe (Deadline.start budget none (crossing.reading 0)) (acceptOn crossing .connected)
        (recvOn crossing 3 []) := by
  let _ := Unicode.fullwidth
  let _ := Json.wholeFloats
  let _ := Rounding.double
  have hread : decimalFloat (py "5") = some (.finite 5) := by decide
  refine ⟨⟨5, by norm_num⟩, positiveFloat_eq_ok.2 hread, fun h => ?_⟩
  have hlive : (Deadline.start 5 none (crossing.reading 0)).isExpired (crossing.reading 1) =
      false := by decide +kernel
  have hpos := (h.armed _ (List.mem_cons_self ..) hlive).positive
  have hneg : ¬0 < (Deadline.start 5 none (crossing.reading 0)).remaining (crossing.reading 2) := by
    decide +kernel
  exact hneg hpos

end Socket
end Pidprobe
