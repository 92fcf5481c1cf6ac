/-
# Rounded arithmetic

What a machine makes of the exact result of an operation on numbers.  A program
is written once, over any `Rounding`; at `Rounding.exact` it computes what its
formulas say, and at `Rounding.double` what it computes in doubles.

The order is all that most programs rely on, so `Rounding` asks for little more
than that it is kept.  `nearest_mono` is a fact with an argument in it: where two
numbers are rounded to different grids, a power of two that is on both of them lies
between.

Floats have a least distance, and their differences are multiples of it.  A
difference that is not zero is thus no smaller than the least float, and is not
rounded to zero (`nearest_pos_iff`): comparing two floats and looking at the sign of
their computed difference come to the same.
-/

import Mathlib.Data.Int.Log
import Pidprobe.Lib.PyValue

namespace Pidprobe

/-- What is made of the exact result of an operation.  The order is kept, and
`0` and `1` are themselves. -/
class Rounding where
  round : ℚ → ℚ
  mono : Monotone round
  round_zero : round 0 = 0
  round_one : round 1 = 1

namespace Rounding

/-- Exact arithmetic: every number is one that can be computed with. -/
@[reducible] def exact : Rounding := ⟨id, monotone_id, rfl, rfl⟩

/-! ## Rounding to the nearest float -/

section Nearest

/-- The exponent of the floats around `x`: `precision` bits below the leading one
of `x`, and never below that of the least float. -/
def exponent (precision least : ℕ) (x : ℚ) : ℤ := max (Int.log 2 |x| - precision) (-least)

/-- The distance between the floats around `x`, a power of two. -/
def ulp (precision least : ℕ) (x : ℚ) : ℚ := 2 ^ exponent precision least x

/-- The float nearest to `x`, the even one of two; no float is the largest, so nothing
overflows. -/
def nearest (precision least : ℕ) (x : ℚ) : ℚ :=
  halfEven (x / ulp precision least x) * ulp precision least x

variable {precision least : ℕ} {x y : ℚ}

theorem ulp_pos : 0 < ulp precision least x := zpow_pos (by norm_num) _

/-- The distance is the same on both sides of zero. -/
theorem ulp_neg : ulp precision least (-x) = ulp precision least x := by
  rw [ulp, exponent, abs_neg, ulp, exponent]

/-- A number is not rounded below a multiple of its distance that is below it, as that is a
float. -/
theorem le_nearest {n : ℤ} (h : n * ulp precision least x ≤ x) :
    n * ulp precision least x ≤ nearest precision least x := by
  have hdiv : (n : ℚ) ≤ x / ulp precision least x := (le_div_iff₀ ulp_pos).2 h
  have hn : n ≤ halfEven (x / ulp precision least x) := halfEven_intCast n ▸ halfEven_mono hdiv
  exact mul_le_mul_of_nonneg_right (Int.cast_le.2 hn) ulp_pos.le

/-- Nor is it rounded above a multiple of its distance that is above it. -/
theorem nearest_le {n : ℤ} (h : x ≤ n * ulp precision least x) :
    nearest precision least x ≤ n * ulp precision least x := by
  have hdiv : x / ulp precision least x ≤ n := (div_le_iff₀ ulp_pos).2 h
  have hn : halfEven (x / ulp precision least x) ≤ n := halfEven_intCast n ▸ halfEven_mono hdiv
  exact mul_le_mul_of_nonneg_right (Int.cast_le.2 hn) ulp_pos.le

/-- A multiple of its distance is a float, so rounding leaves it. -/
theorem nearest_eq_self {n : ℤ} (h : x = n * ulp precision least x) :
    nearest precision least x = x := by
  have hle := nearest_le h.le
  have hge := le_nearest h.ge
  exact (hle.antisymm hge).trans h.symm

/-- Two positive numbers with different distances have the power of two the
larger one begins with between them, and it is a multiple of both distances. -/
theorem exists_between_of_pos (hx : 0 < x) (hle : x ≤ y)
    (hne : ulp precision least x ≠ ulp precision least y) :
    ∃ m n : ℤ, m * ulp precision least x = n * ulp precision least y ∧
      x ≤ m * ulp precision least x ∧ n * ulp precision least y ≤ y := by
  have hy : 0 < y := hx.trans_le hle
  have hlog : Int.log 2 x ≤ Int.log 2 y := Int.log_mono_right hx hle
  have hexp : exponent precision least x ≠ exponent precision least y := fun he =>
    hne (by rw [ulp, he, ulp])
  have hxe : exponent precision least x = max (Int.log 2 x - precision) (-least) := by
    rw [exponent, abs_of_pos hx]
  have hye : exponent precision least y = max (Int.log 2 y - precision) (-least) := by
    rw [exponent, abs_of_pos hy]
  -- The larger distance is not the least one, so its exponent is that of `y`.
  have htop : exponent precision least y = Int.log 2 y - precision := by omega
  have hlt : Int.log 2 x + 1 ≤ Int.log 2 y := by omega
  obtain ⟨k, hk⟩ : ∃ k : ℕ, Int.log 2 y = k + exponent precision least x :=
    ⟨(Int.log 2 y - exponent precision least x).toNat, by omega⟩
  have hpower : (2 : ℚ) ^ Int.log 2 y = (2 ^ k : ℤ) * ulp precision least x := by
    rw [ulp, hk, zpow_add₀ (by norm_num)]
    push_cast
    rw [zpow_natCast]
  have hpower' : (2 : ℚ) ^ Int.log 2 y = (2 ^ precision : ℤ) * ulp precision least y := by
    rw [ulp, htop, zpow_sub₀ (by norm_num), zpow_natCast]
    push_cast
    field_simp
  refine ⟨2 ^ k, 2 ^ precision, hpower.symm.trans hpower', ?_, ?_⟩
  · rw [← hpower]
    calc x ≤ 2 ^ (Int.log 2 x + 1) := (Int.lt_zpow_succ_log_self (by norm_num) x).le
      _ ≤ 2 ^ Int.log 2 y := zpow_le_zpow_right₀ (by norm_num) hlt
  · rw [← hpower']
    exact Int.zpow_log_le_self (by norm_num) hy

/-- Two numbers with different distances have a multiple of both between them: where one
grid ends and the other begins. -/
theorem exists_between (hle : x ≤ y) (hne : ulp precision least x ≠ ulp precision least y) :
    ∃ m n : ℤ, m * ulp precision least x = n * ulp precision least y ∧
      x ≤ m * ulp precision least x ∧ n * ulp precision least y ≤ y := by
  rcases lt_or_ge 0 x with hx | hx
  · exact exists_between_of_pos hx hle hne
  rcases le_or_gt 0 y with hy | hy
  · exact ⟨0, 0, by simp, by simpa using hx, by simpa using hy⟩
  -- Below zero the numbers change places.
  · obtain ⟨m, n, heq, hm, hn⟩ := exists_between_of_pos (neg_pos.2 hy) (neg_le_neg hle)
      (by rw [ulp_neg, ulp_neg]; exact hne.symm)
    rw [ulp_neg] at hm hn
    rw [ulp_neg, ulp_neg] at heq
    refine ⟨-n, -m, ?_, ?_, ?_⟩ <;> push_cast <;> linarith

/-- **Rounding keeps the order**, from one grid to the next as well. -/
theorem nearest_mono : Monotone (nearest precision least) := by
  intro x y hle
  by_cases hulp : ulp precision least x = ulp precision least y
  · rw [nearest, nearest, hulp]
    have hpos : 0 < ulp precision least y := ulp_pos
    have hround := halfEven_mono (div_le_div_of_nonneg_right hle hpos.le)
    exact mul_le_mul_of_nonneg_right (Int.cast_le.2 hround) ulp_pos.le
  · obtain ⟨m, n, heq, hm, hn⟩ := exists_between hle hulp
    calc nearest precision least x ≤ m * ulp precision least x := nearest_le hm
      _ = n * ulp precision least y := heq
      _ ≤ nearest precision least y := le_nearest hn

/-- Rounding moves a number by half the distance of the floats around it at most. -/
theorem abs_nearest_sub_le (precision least : ℕ) (x : ℚ) :
    |nearest precision least x - x| ≤ ulp precision least x / 2 := by
  have hpos : 0 < ulp precision least x := ulp_pos
  have hscaled : nearest precision least x - x =
      (halfEven (x / ulp precision least x) - x / ulp precision least x) *
        ulp precision least x := by
    rw [sub_mul, div_mul_cancel₀ _ hpos.ne', nearest]
  rw [hscaled, abs_mul, abs_of_pos hpos]
  calc _ ≤ 1 / 2 * ulp precision least x :=
        mul_le_mul_of_nonneg_right (abs_halfEven_sub_le _) hpos.le
    _ = ulp precision least x / 2 := one_div_mul_eq_div ..

theorem nearest_zero (precision least : ℕ) : nearest precision least 0 = 0 :=
  nearest_eq_self (n := 0) (by simp)

/-! ## Differences of floats -/

/-- A multiple of the least float, as every float is, and every sum and difference of
floats. -/
def OnGrid (least : ℕ) (x : ℚ) : Prop := ∃ n : ℤ, x = n * 2 ^ (-(least : ℤ))

/-- What is rounded is on the grid of the least float, as no distance is less than it. -/
theorem onGrid_nearest (precision least : ℕ) (x : ℚ) :
    OnGrid least (nearest precision least x) := by
  obtain ⟨k, hk⟩ : ∃ k : ℕ, exponent precision least x = k + -(least : ℤ) :=
    ⟨(exponent precision least x + least).toNat, by
      have hleast : -(least : ℤ) ≤ exponent precision least x := le_max_right _ _
      omega⟩
  refine ⟨halfEven (x / ulp precision least x) * 2 ^ k, ?_⟩
  rw [nearest, ulp, hk, zpow_add₀ (by norm_num)]
  push_cast
  rw [zpow_natCast, mul_assoc]

/-- The powers of two down to the least float are on the grid. -/
theorem onGrid_zpow_neg {least n : ℕ} (h : n ≤ least) : OnGrid least (2 ^ (-(n : ℤ))) := by
  refine ⟨2 ^ (least - n), ?_⟩
  push_cast
  rw [← zpow_natCast, ← zpow_add₀ (by norm_num)]
  congr 1
  omega

/-- So is a difference of numbers on it. -/
theorem OnGrid.sub {least : ℕ} (hx : OnGrid least x) (hy : OnGrid least y) :
    OnGrid least (x - y) := by
  obtain ⟨m, rfl⟩ := hx
  obtain ⟨n, rfl⟩ := hy
  exact ⟨m - n, by push_cast; ring⟩

/-- **A difference of floats keeps its sign when it is rounded.**  It is at least the
least float, so the float below it is positive. -/
theorem nearest_pos_iff (hx : OnGrid least x) : 0 < nearest precision least x ↔ 0 < x := by
  constructor
  · intro hpos
    by_contra hneg
    have hle : nearest precision least x ≤ nearest precision least 0 := nearest_mono (not_lt.1 hneg)
    rw [nearest_zero] at hle
    exact absurd hpos (not_lt.2 hle)
  · intro hpos
    obtain ⟨n, hn⟩ := hx
    have hgrid : (0 : ℚ) < 2 ^ (-(least : ℤ)) := zpow_pos (by norm_num) _
    have hone : (1 : ℚ) ≤ n := by
      rw [hn] at hpos
      exact_mod_cast Int.add_one_le_iff.2 (Int.cast_pos.1 (pos_of_mul_pos_left hpos hgrid.le))
    have hleast : (2 : ℚ) ^ (-(least : ℤ)) ≤ x := by
      rw [hn]
      exact le_mul_of_one_le_left hgrid.le hone
    have hulp : ulp precision least x ≤ x := by
      rw [ulp, exponent, abs_of_pos hpos]
      rcases max_choice (Int.log 2 x - precision) (-(least : ℤ)) with hmax | hmax
      · rw [hmax]
        calc (2 : ℚ) ^ (Int.log 2 x - precision) ≤ 2 ^ Int.log 2 x :=
              zpow_le_zpow_right₀ (by norm_num) (by omega)
          _ ≤ x := Int.zpow_log_le_self (by norm_num) hpos
      · rwa [hmax]
    have hbelow : ((1 : ℤ) : ℚ) * ulp precision least x ≤ x := by rwa [Int.cast_one, one_mul]
    have hle := le_nearest hbelow
    rw [Int.cast_one, one_mul] at hle
    exact ulp_pos.trans_le hle

end Nearest

theorem nearest_one (precision least : ℕ) : nearest precision least 1 = 1 := by
  obtain ⟨k, hk⟩ : ∃ k : ℕ, exponent precision least 1 = -k := by
    rw [exponent, abs_one, Int.log_one_right]
    exact ⟨min precision least, by omega⟩
  refine nearest_eq_self (n := 2 ^ k) ?_
  rw [ulp, hk, zpow_neg, zpow_natCast]
  push_cast
  field_simp

/-- Doubles: 53 bits, and `2 ^ -1074` the least positive one; the infinities are left out. -/
@[reducible] def double : Rounding :=
  ⟨nearest 52 1074, nearest_mono, nearest_zero 52 1074, nearest_one 52 1074⟩

end Rounding
end Pidprobe
