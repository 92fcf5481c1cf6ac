/-
# Operations on decoded values

What Python's operators do with a value `json.loads` returned: `bool(value)`,
`value or other`, `for x in value`, `==`, `float(value)` and `round(value, 3)`.

Arithmetic on floats is exact up to `round`, whose thousandth stands for the
`float` nearest to it.  `datetime.fromisoformat` is a function of the
interpreter, given by `IsoFormat`.
-/

import Mathlib.Algebra.Order.Floor.Ring
import Mathlib.Data.Nat.Size
import Mathlib.Data.Rat.Floor
import Pidprobe.Lib.Json

namespace Pidprobe

/-! ## Numbers -/

/-- The nearest integer, the even one of two that are equally near. -/
def halfEven (q : ℚ) : ℤ :=
  if q - ⌊q⌋ < 1 / 2 then ⌊q⌋
  else if 1 / 2 < q - ⌊q⌋ then ⌊q⌋ + 1
  else if ⌊q⌋ % 2 = 0 then ⌊q⌋ else ⌊q⌋ + 1

theorem halfEven_nonneg {q : ℚ} (h : 0 ≤ q) : 0 ≤ halfEven q := by
  have hf : 0 ≤ ⌊q⌋ := Int.floor_nonneg.2 h
  unfold halfEven
  split_ifs <;> omega

/-- Rounding keeps the order: it may make two numbers one, and no more. -/
theorem halfEven_mono {p q : ℚ} (h : p ≤ q) : halfEven p ≤ halfEven q := by
  rcases (Int.floor_mono h).lt_or_eq with hlt | heq
  · have hp : halfEven p ≤ ⌊p⌋ + 1 := by
      unfold halfEven
      split_ifs <;> omega
    have hq : ⌊q⌋ ≤ halfEven q := by
      unfold halfEven
      split_ifs <;> omega
    omega
  · have hfract : p - ⌊q⌋ ≤ q - ⌊q⌋ := sub_le_sub_right h _
    unfold halfEven
    rw [heq]
    split_ifs <;> grind

/-- An integer is rounded to itself. -/
theorem halfEven_intCast (n : ℤ) : halfEven n = n := by
  rw [halfEven, Int.floor_intCast, sub_self, if_pos (by norm_num)]

/-- Rounding moves a number by a half at most. -/
theorem abs_halfEven_sub_le (q : ℚ) : |halfEven q - q| ≤ 1 / 2 := by
  have hle : (⌊q⌋ : ℚ) ≤ q := Int.floor_le q
  have hlt : q < ⌊q⌋ + 1 := Int.lt_floor_add_one q
  rw [abs_le, halfEven]
  split_ifs <;> push_cast <;> constructor <;> linarith

/-- The range of a C `int`: the numbers a call that takes one accepts, and `OverflowError`
beyond it. -/
def InCInt (n : ℤ) : Prop := -2 ^ 31 ≤ n ∧ n < 2 ^ 31

instance (n : ℤ) : Decidable (InCInt n) := inferInstanceAs (Decidable (_ ∧ _))

/-- The integer with 53 significant bits nearest to `n`, as a conversion to `float` rounds
it. -/
def nearestFloat (n : ℤ) : ℚ :=
  let ulp : ℚ := 2 ^ (Nat.size n.natAbs - 53)
  halfEven (n / ulp) * ulp

/-- The least positive integer `float` has no value for: from there on it would be rounded
to `2 ^ 1024`. -/
@[irreducible] def floatBound : ℤ := 2 ^ 1024 - 2 ^ 970

/-- `float(n)` of an `int`; `none` is `OverflowError`, which a number of either sign may
raise. -/
def floatOfInt (n : ℤ) : Option PyFloat :=
  if |n| < floatBound then some (.finite (nearestFloat n)) else none

/-- It is raised from the bound on, in both directions. -/
theorem floatOfInt_eq_none {n : ℤ} : floatOfInt n = none ↔ floatBound ≤ |n| := by
  unfold floatOfInt
  split_ifs with h
  · simp [h]
  · simpa using not_lt.1 h

/-- `round(x, 3)` of a `float`: what is negative and comes to zero comes to `-0.0`. -/
def roundThousandths : PyFloat → PyFloat
  | .finite q =>
    if halfEven (q * 1000) = 0 ∧ q < 0 then .negZero else .finite (halfEven (q * 1000) / 1000)
  | x => x

/-- What is not negative is rounded to a number that is not negative. -/
theorem roundThousandths_nonneg {q : ℚ} (h : 0 ≤ q) :
    ∃ r, 0 ≤ r ∧ roundThousandths (.finite q) = .finite r := by
  have hn : 0 ≤ halfEven (q * 1000) := halfEven_nonneg (by positivity)
  refine ⟨halfEven (q * 1000) / 1000, by positivity, ?_⟩
  rw [roundThousandths, if_neg fun hneg => absurd hneg.2 (not_lt.2 h)]

/-- Rounding keeps the order of what is not negative, where `-0.0` does not occur. -/
theorem roundThousandths_mono {p q : ℚ} (hp : 0 ≤ p) (h : p ≤ q) :
    ∃ r t, roundThousandths (.finite p) = .finite r ∧ roundThousandths (.finite q) = .finite t ∧
      r ≤ t := by
  refine ⟨halfEven (p * 1000) / 1000, halfEven (q * 1000) / 1000, ?_, ?_, ?_⟩
  · rw [roundThousandths, if_neg fun hneg => absurd hneg.2 (not_lt.2 hp)]
  · rw [roundThousandths, if_neg fun hneg => absurd hneg.2 (not_lt.2 (hp.trans h))]
  · have hmono : halfEven (p * 1000) ≤ halfEven (q * 1000) := halfEven_mono (by linarith)
    gcongr

/-! ## Timestamps -/

/-- A `datetime`: its distance from an origin, and whether it knows its offset
from UTC.  The two kinds have origins of their own. -/
structure Moment where
  aware : Bool
  microseconds : ℤ
  deriving DecidableEq

/-- `datetime.fromisoformat`; `none` is `ValueError`. Which texts it takes is Python's
own. -/
class IsoFormat where
  fromisoformat : PyStr → Option Moment

namespace Json

/-! ## Truth and iteration -/

/-- `bool(value)`: what is empty or zero is false, and a NaN is true. -/
def truthy : Json → Bool
  | .null => false
  | .bool b => b
  | .int n => n ≠ 0
  | .float (.finite q) => q ≠ 0
  | .float .negZero => false
  | .float _ => true
  | .str s => !s.isEmpty
  | .arr xs => !xs.isEmpty
  | .obj ms => !ms.isEmpty

/-- `value or other`, of any two values. -/
def orElse (value other : Json) : Json := if truthy value then value else other

theorem orElse_arr (xs : List Json) : (arr xs).orElse (.arr []) = .arr xs := by
  cases xs <;> rfl

/-- The elements of `for x in value`: characters, elements or keys; `none` is `TypeError`. -/
def elements : Json → Option (List Json)
  | .str s => some (s.map fun c => .str [c])
  | .arr xs => some xs
  | .obj ms => some (ms.map fun m => .str m.1)
  | _ => none

/-! ## Equality -/

/-- The number a value is compared as; `True` is `1`, and `-0.0` is `0`. -/
def number : Json → Option PyFloat
  | .bool b => some (.finite (if b then 1 else 0))
  | .int n => some (.finite n)
  | .float .negZero => some (.finite 0)
  | .float x => some x
  | _ => none

/-- Equality of what is compared as numbers; a NaN equals no number, itself included. -/
def numberEq (v w : Json) : Bool :=
  match number v, number w with
  | some x, some y => x = y ∧ x ≠ .nan
  | _, _ => false

def isNan : Json → Bool
  | .float .nan => true
  | _ => false

mutual

/-- `v == w`, in which the order of the members of an object does not matter. -/
def pyEq : Json → Json → Bool
  | .null, .null => true
  | .str s, .str t => s = t
  | .arr xs, .arr ys => elemsEq xs ys
  | .obj ms, .obj ns => ms.length = ns.length && membersEq ms ns
  | v, w => numberEq v w

/-- Elements are equal where they are identical, and the reader has one NaN. -/
def elemsEq : List Json → List Json → Bool
  | [], [] => true
  | v :: vs, w :: ws => (isNan v && isNan w || pyEq v w) && elemsEq vs ws
  | _, _ => false

/-- The members of an object, looked up in another one. -/
def membersEq : List (PyStr × Json) → List (PyStr × Json) → Bool
  | [], _ => true
  | (k, v) :: ms, ns =>
    (match Dict.get? k ns with
      | some w => isNan v && isNan w || pyEq v w
      | none => false) && membersEq ms ns

end

@[simp] theorem pyEq_int (m n : ℤ) : pyEq (.int m) (.int n) = decide (m = n) := by
  rw [pyEq, numberEq]
  · simp [number]
  all_goals intros; simp_all

end Json
end Pidprobe
