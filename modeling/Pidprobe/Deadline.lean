/-
# The time budget of a probe

`_deadline.py`.  `remaining` and `is_expired` read the clock on every use, so
both take the reading as an argument.  The sum and the difference are those of
the arithmetic at hand (`Rounding`): in doubles the moment a budget ends at is
not the one an exact sum gives, and the difference of two readings loses bits
as well.  No float is the largest here; a sum the source makes infinite is one
no reading comes near, and either way `settimeout` refuses what is left.
-/

import Pidprobe.Errors
import Pidprobe.Lib.Rounding

namespace Pidprobe

/-- The readings of a monotonic clock, in the order they are taken. Two readings may be the
same. -/
structure Clock where
  reading : ℕ → ℚ
  monotone : Monotone reading

/-- Absolute point in time at which a probe gives up (`Deadline`), with the budget and the
pid for its error. -/
structure Deadline where
  budgetSeconds : ℚ
  expiresAt : ℚ
  pid : Option ℤ

namespace Deadline

/-- `timeout_error`: it names the whole budget, not what was left of it. -/
def timeoutError (d : Deadline) : PyError := .probe (.timeout d.budgetSeconds d.pid)

section

variable [Rounding]

/-- `Deadline.start`, the clock reading `now`. The sum is rounded to a `float`. -/
def start (budgetSeconds : ℚ) (pid : Option ℤ) (now : ℚ) : Deadline :=
  ⟨budgetSeconds, Rounding.round (now + budgetSeconds), pid⟩

/-- `remaining`, the clock reading `now`, which is negative behind the deadline. The
difference is rounded too. -/
def remaining (d : Deadline) (now : ℚ) : ℚ := Rounding.round (d.expiresAt - now)

/-- `is_expired`, the clock reading `now`: nothing remains. The property reads the clock
anew each time. -/
def isExpired (d : Deadline) (now : ℚ) : Bool := d.remaining now ≤ 0

variable {d : Deadline} {now later : ℚ}

/-- A budget is not spent as long as something of it remains. -/
theorem not_isExpired_iff : d.isExpired now = false ↔ 0 < d.remaining now := by
  rw [isExpired, decide_eq_false_iff_not, not_le]

/-- What remains does not grow from one reading to a later one, however the
differences are rounded. -/
theorem remaining_le (h : now ≤ later) : d.remaining later ≤ d.remaining now :=
  Rounding.mono (sub_le_sub_left h _)

/-- A budget that is not spent at a reading was not spent at an earlier one: rounding keeps
the order. -/
theorem not_isExpired_of_le (h : now ≤ later) (hlater : d.isExpired later = false) :
    d.isExpired now = false :=
  not_isExpired_iff.2 ((not_isExpired_iff.1 hlater).trans_le (remaining_le h))

/-- The budget is spent at the moment it expires. -/
theorem isExpired_expiresAt (d : Deadline) : d.isExpired d.expiresAt = true := by
  rw [isExpired, remaining, sub_self, Rounding.round_zero]
  rfl

/-- A second before it expires, a second of the budget remains. -/
theorem remaining_second (d : Deadline) : d.remaining (d.expiresAt - 1) = 1 := by
  rw [remaining, sub_sub_cancel, Rounding.round_one]

end

/-- In doubles, five seconds from `0.1` are over at `5.1`; the exact sum of the
two doubles lies above the double `5.1`. -/
example :
    let tenth : ℚ := 3602879701896397 / 36028797018963968
    let later : ℚ := 2871044762448691 / 562949953421312
    @isExpired .double (@start .double 5 none tenth) later = true ∧
      @isExpired .exact (@start .exact 5 none tenth) later = false := by
  decide +kernel

end Deadline
end Pidprobe
