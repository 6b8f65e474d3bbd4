import FormRules.Proofs.Number.Nearest

namespace FormRules.Number.Binary64

theorem magnitude_strictMono : StrictMono magnitude := by
  intro r s hrs
  have hunits := units_cast_lt hrs
  rw [← magnitude_scaled, ← magnitude_scaled] at hunits
  exact lt_of_mul_lt_mul_right hunits (by positivity)

theorem magnitude_zero : magnitude 0 = 0 := by norm_num [magnitude]

theorem magnitude_nonneg (r : Nat) : 0 ≤ magnitude r := by
  rw [← magnitude_zero]
  exact magnitude_strictMono.monotone (Nat.zero_le r)

theorem midpoint_le_of_nearer {a b q : ℚ} (hab : a < b) (h : |b - q| ≤ |a - q|) :
    a + b ≤ 2 * q := by
  have hsq := sq_le_sq.mpr h
  nlinarith

theorem le_midpoint_of_nearer {a b q : ℚ} (hab : a < b) (h : |a - q| ≤ |b - q|) :
    2 * q ≤ a + b := by
  have hsq := sq_le_sq.mpr h
  nlinarith

/-- The greater of two values is not rounded below the smaller. Two ranks in the wrong order
would both be nearest to their midpoint. -/
theorem Nearest.mono {q q' : ℚ} {r s : Nat} (hr : Nearest q r) (hs : Nearest q' s)
    (h : q ≤ q') : r ≤ s := by
  by_contra hgt
  have hsr : s < r := by omega
  have hrank := hr.rank_le
  have hsfin : s < infinityRank := by omega
  have hrfin : r < infinityRank := by
    apply lt_of_le_of_ne hrank
    intro hinf
    have hover := hs.overflow.mpr ((hr.overflow.mp hinf).trans h)
    omega
  have hstep := magnitude_strictMono hsr
  have hup := midpoint_le_of_nearer hstep (hr.closest hrfin s hsfin)
  have hdown := le_midpoint_of_nearer hstep (hs.closest hsfin r hrfin)
  have hq : q' = q := by linarith
  rw [hq] at hs
  have heq := hr.unique hs
  omega

theorem nearestUnits_self (s : Nat) : NearestUnits (units s) s := by
  constructor
  · intro other
    rw [sub_self, abs_zero]
    exact abs_nonneg _
  · intro other hne htie
    rw [sub_self, abs_zero, eq_comm, abs_eq_zero, sub_eq_zero] at htie
    have heq : units other = units s := by exact_mod_cast htie
    exact absurd (units_strictMono.injective heq) hne

/-- A magnitude of the format is left as it is. -/
theorem nearest_magnitude {s : Nat} (hs : s ≤ infinityRank) : Nearest (magnitude s) s := by
  have hself := nearestUnits_self s
  rw [← magnitude_scaled] at hself
  have hbounded := hself.bounded
  rwa [Nat.min_eq_left hs] at hbounded

theorem nearest_zero_iff {r : Nat} : Nearest 0 r ↔ r = 0 := by
  have hzero : Nearest 0 0 := by
    rw [← magnitude_zero]
    exact nearest_magnitude (Nat.zero_le _)
  constructor
  · intro h
    exact h.unique hzero
  · intro h
    rw [h]
    exact hzero

/-- Shifted up until it has 53 binary digits, a positive integer of at most `2 ^ 53` is a
significand of the format. -/
theorem normalized_integer {n : Nat} (hpos : n ≠ 0) (hn : n ≤ 2 ^ 53) :
    2 ^ 52 ≤ n * 2 ^ (52 - n.log2) ∧ n * 2 ^ (52 - n.log2) ≤ 2 ^ 53 := by
  have hlow : 2 ^ n.log2 ≤ n := Nat.log2_self_le hpos
  by_cases hlog : n.log2 ≤ 52
  · have hhigh : n < 2 ^ (n.log2 + 1) := Nat.lt_log2_self
    have hsplit : 2 ^ n.log2 * 2 ^ (52 - n.log2) = 2 ^ 52 := by
      rw [← pow_add]
      congr 1
      omega
    constructor
    · rw [← hsplit]
      exact Nat.mul_le_mul_right _ hlow
    · calc n * 2 ^ (52 - n.log2) ≤ 2 ^ (n.log2 + 1) * 2 ^ (52 - n.log2) :=
            Nat.mul_le_mul_right _ hhigh.le
        _ = 2 ^ 52 * 2 := by rw [pow_succ, mul_right_comm, hsplit]
        _ = 2 ^ 53 := (pow_succ 2 52).symm
  · have hzero : 52 - n.log2 = 0 := by omega
    have hbig : 2 ^ 53 ≤ 2 ^ n.log2 := Nat.pow_le_pow_right (by omega) (by omega)
    rw [hzero, pow_zero, mul_one]
    omega

/-- Every integer of at most `2 ^ 53` is a magnitude of the format. -/
theorem exists_magnitude_eq {n : Nat} (hn : n ≤ 2 ^ 53) :
    ∃ s ≤ infinityRank, magnitude s = n := by
  by_cases hpos : n = 0
  · rw [hpos, Nat.cast_zero]
    exact ⟨0, Nat.zero_le _, magnitude_zero⟩
  obtain ⟨hlow, hhigh⟩ := normalized_integer hpos hn
  have hinfinity : infinityRank = 2047 * 2 ^ 52 := rfl
  have hunits := units_shift (1074 - (52 - n.log2)) _ hhigh (Or.inr hlow)
  have hscale : n * 2 ^ (52 - n.log2) * 2 ^ (1074 - (52 - n.log2)) = n * 2 ^ 1074 := by
    rw [mul_assoc, ← pow_add]
    congr 2
    omega
  refine ⟨(1074 - (52 - n.log2)) * 2 ^ 52 + n * 2 ^ (52 - n.log2), by omega, ?_⟩
  rw [scaled_eq_iff, magnitude_scaled, hunits, hscale, Nat.cast_mul, Nat.cast_pow, Nat.cast_ofNat]

/-- Integers of at most `2 ^ 53` are not rounded at all. -/
theorem Nearest.integer_exact {n r : Nat} (h : Nearest n r) (hn : n ≤ 2 ^ 53) :
    magnitude r = n := by
  obtain ⟨s, hs, hmagnitude⟩ := exists_magnitude_eq hn
  rw [← hmagnitude] at h ⊢
  rw [h.unique (nearest_magnitude hs)]

end FormRules.Number.Binary64
