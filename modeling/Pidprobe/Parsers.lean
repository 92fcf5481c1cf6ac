/-
# Numbers on the command line

`_parsers.py`: `positive_float`, the check every budget and every interval of the
command line goes through, and `positive_int`, that of every pid and count.
`float` and `int` are the interpreter's, on any text; what the checks let through
is positive by construction.
-/

import Pidprobe.Lib.PyRepr

namespace Pidprobe

/-- A strictly positive, finite number of seconds, which is what `positive_float` returns. -/
abbrev Seconds := {q : ℚ // 0 < q}

/-- A strictly positive integer, which is what `positive_int` returns. -/
abbrev PositiveInt := {n : ℤ // 0 < n}

section

variable [Unicode] [FloatText]

/-- `positive_float`; `none` is the `ValueError` of `float`, and an error the
message of the `ArgumentTypeError`. -/
def positiveFloat (float : PyStr → Option PyFloat) (value : PyStr) : Except PyStr Seconds :=
  match float value with
  | none => .error (py "expected a number, got " ++ reprStr value)
  | some (.finite number) =>
    if h : 0 < number then .ok ⟨number, h⟩
    else .error (py "expected a positive number, got " ++ FloatText.repr number)
  | some number => .error (py "expected a positive number, got " ++ Json.floatRepr number)

/-- **The accepted durations are the positive finite ones**, under whatever spelling `float`
takes. -/
theorem positiveFloat_eq_ok {float : PyStr → Option PyFloat} {value : PyStr} {seconds : Seconds} :
    positiveFloat float value = .ok seconds ↔ float value = some (.finite seconds) := by
  obtain ⟨q, hq⟩ := seconds
  unfold positiveFloat
  rcases float value with _ | x
  · simp
  cases x with
  | finite number =>
    by_cases h : 0 < number
    · simp [h]
    · have hne : number ≠ q := fun he => h (he ▸ hq)
      simp [h, hne]
  | _ => simp

end

variable [Unicode]

/-- `positive_int`; `none` is the `ValueError` of `int`. The messages are those `argparse`
prints. -/
def positiveInt (int : PyStr → Option ℤ) (value : PyStr) : Except PyStr PositiveInt :=
  match int value with
  | none => .error (py "expected an integer, got " ++ reprStr value)
  | some number =>
    if h : number ≤ 0 then .error (py "expected a positive integer, got " ++ Json.intText number)
    else .ok ⟨number, not_le.1 h⟩

/-- **The accepted integers are the positive ones**, without a bound: a pid may be no C
`int`. -/
theorem positiveInt_eq_ok {int : PyStr → Option ℤ} {value : PyStr} {number : PositiveInt} :
    positiveInt int value = .ok number ↔ int value = some number.val := by
  obtain ⟨n, hn⟩ := number
  unfold positiveInt
  rcases int value with _ | m
  · simp
  by_cases h : m ≤ 0
  · have hne : m ≠ n := fun he => absurd hn (not_lt.2 (he ▸ h))
    simp [h, hne]
  · simp [h]

end Pidprobe
