import FormRules.Number.Binary64
import Mathlib.Algebra.Order.Field.Rat
import Mathlib.Algebra.Order.Ring.Abs
import Mathlib.Order.Monotone.Basic
import Mathlib.Tactic.FieldSimp
import Mathlib.Tactic.Linarith
import Mathlib.Tactic.NormNum
import Mathlib.Tactic.Ring

namespace FormRules.Number.Binary64

theorem units_eq (rank : Nat) :
    units rank = if rank < 2 ^ 52 then rank
      else (2 ^ 52 + rank % 2 ^ 52) * 2 ^ (rank / 2 ^ 52 - 1) := by
  rfl

/-- The distance to the next rank doubles with every power of two from `2 ^ 53` units on. -/
theorem units_succ (r : Nat) : units (r + 1) = units r + 2 ^ (r / 2 ^ 52 - 1) := by
  simp only [units_eq]
  by_cases hr : r + 1 < 2 ^ 52
  · have hd : r / 2 ^ 52 - 1 = 0 := by omega
    rw [if_pos hr, if_pos (by omega), hd, pow_zero]
  by_cases hb : r + 1 = 2 ^ 52
  · have hd : r / 2 ^ 52 - 1 = 0 := by omega
    have hr : r = 2 ^ 52 - 1 := by omega
    rw [if_neg (by omega), if_pos (by omega), hd, hb, hr]
    norm_num
  rw [if_neg hr, if_neg (by omega)]
  by_cases hf : r % 2 ^ 52 + 1 = 2 ^ 52
  · have hm : (r + 1) % 2 ^ 52 = 0 := by omega
    have hq : (r + 1) / 2 ^ 52 - 1 = r / 2 ^ 52 - 1 + 1 := by omega
    have hr : r % 2 ^ 52 = 2 ^ 52 - 1 := by omega
    rw [hm, hq, hr, pow_succ]
    omega
  · have hm : (r + 1) % 2 ^ 52 = r % 2 ^ 52 + 1 := by omega
    have hq : (r + 1) / 2 ^ 52 = r / 2 ^ 52 := by omega
    rw [hm, hq]
    ring

theorem units_strictMono : StrictMono units := by
  apply strictMono_nat_of_lt_succ
  intro r
  have hp : 0 < 2 ^ (r / 2 ^ 52 - 1) := Nat.two_pow_pos _
  rw [units_succ]
  omega

/-- The rank of a significand of 53 binary digits and a shift, the carry out of them included. -/
theorem units_shift (d m : Nat) (hm : m ≤ 2 ^ 53) (h : d = 0 ∨ 2 ^ 52 ≤ m) :
    units (d * 2 ^ 52 + m) = m * 2 ^ d := by
  simp only [units_eq]
  by_cases hs : d * 2 ^ 52 + m < 2 ^ 52
  · have hd : d = 0 := by omega
    rw [if_pos hs, hd]
    omega
  rw [if_neg hs]
  by_cases hc : m = 2 ^ 53
  · have hr : (d * 2 ^ 52 + m) % 2 ^ 52 = 0 := by omega
    have hq : (d * 2 ^ 52 + m) / 2 ^ 52 - 1 = d + 1 := by omega
    rw [hr, hq, hc]
    ring
  · have hr : 2 ^ 52 + (d * 2 ^ 52 + m) % 2 ^ 52 = m := by omega
    have hq : (d * 2 ^ 52 + m) / 2 ^ 52 - 1 = d := by omega
    rw [hr, hq]

/-- The value that the exponent and fraction fields of the interchange format denote; an
exponent field of zero is the subnormal one. -/
def magnitude (rank : Nat) : ℚ :=
  let exponent : Nat := rank / 2 ^ 52
  let fraction : ℚ := (rank % 2 ^ 52 : Nat) / 2 ^ 52
  if exponent = 0 then fraction * 2 ^ (-1022 : Int)
  else (1 + fraction) * 2 ^ ((exponent : Int) - 1023)

theorem magnitude_scaled (r : Nat) : magnitude r * 2 ^ 1074 = units r := by
  have hscale : (2 : ℚ) ^ (-1022 : Int) * 2 ^ 1074 = 2 ^ 52 := by
    rw [← zpow_natCast, ← zpow_natCast, ← zpow_add₀ two_ne_zero]
    norm_num
  simp only [magnitude, units_eq]
  by_cases hs : r < 2 ^ 52
  · have hd : r / 2 ^ 52 = 0 := by omega
    have hm : r % 2 ^ 52 = r := by omega
    rw [if_pos hd, if_pos hs, hm, mul_assoc, hscale]
    field_simp
  · have hd : r / 2 ^ 52 ≠ 0 := by omega
    have he : ((r / 2 ^ 52 : Nat) : Int) - 1023 = -1022 + ((r / 2 ^ 52 - 1 : Nat) : Int) := by
      omega
    rw [if_neg hd, if_neg hs, he, zpow_add₀ two_ne_zero, zpow_natCast]
    calc (1 + ((r % 2 ^ 52 : Nat) : ℚ) / 2 ^ 52) *
          (2 ^ (-1022 : Int) * 2 ^ (r / 2 ^ 52 - 1)) * 2 ^ 1074
        = (1 + ((r % 2 ^ 52 : Nat) : ℚ) / 2 ^ 52) * (2 ^ (-1022 : Int) * 2 ^ 1074) *
          2 ^ (r / 2 ^ 52 - 1) := by rw [← mul_assoc, ← mul_assoc, mul_right_comm]
      _ = (2 ^ 52 + ((r % 2 ^ 52 : Nat) : ℚ)) * 2 ^ (r / 2 ^ 52 - 1) := by
        rw [hscale]
        field_simp
      _ = ((2 ^ 52 + r % 2 ^ 52) * 2 ^ (r / 2 ^ 52 - 1) : Nat) := by push_cast; rfl

theorem abs_magnitude_sub (r : Nat) (q : ℚ) :
    |magnitude r - q| * 2 ^ 1074 = |(units r : ℚ) - q * 2 ^ 1074| := by
  have hpos : (0 : ℚ) ≤ 2 ^ 1074 := by positivity
  rw [← magnitude_scaled, ← sub_mul, abs_mul, abs_of_nonneg hpos]

end FormRules.Number.Binary64
