import FormRules.Proofs.Number.Rank

namespace FormRules.Number.Binary64

/-- Rounding to nearest, ties to even, at the precision of the format and over all its finite
magnitudes; from half a step above the largest of them on there is an overflow. -/
structure Nearest (q : ℚ) (rank : Nat) : Prop where
  rank_le : rank ≤ infinityRank
  overflow : rank = infinityRank ↔ 2 ^ 1024 - 2 ^ 970 ≤ q
  closest : rank < infinityRank → ∀ other < infinityRank,
    |magnitude rank - q| ≤ |magnitude other - q|
  even : rank < infinityRank → ∀ other < infinityRank, other ≠ rank →
    |magnitude rank - q| = |magnitude other - q| → rank % 2 = 0

/-- Rounding of a number of units with no bound on the exponent. -/
structure NearestUnits (u : ℚ) (rank : Nat) : Prop where
  closest : ∀ other, |(units rank : ℚ) - u| ≤ |(units other : ℚ) - u|
  even : ∀ other, other ≠ rank → |(units rank : ℚ) - u| = |(units other : ℚ) - u| →
    rank % 2 = 0

theorem units_cast_lt {r s : Nat} (h : r < s) : (units r : ℚ) < units s := by
  have hu : units r < units s := units_strictMono h
  exact_mod_cast hu

theorem units_cast_le {r s : Nat} (h : r ≤ s) : (units r : ℚ) ≤ units s := by
  have hu : units r ≤ units s := units_strictMono.monotone h
  exact_mod_cast hu

theorem distance_below {u : ℚ} {s : Nat} (h : (units s : ℚ) ≤ u) :
    |(units s : ℚ) - u| = u - units s := by
  rw [abs_sub_comm, abs_of_nonneg (sub_nonneg.mpr h)]

theorem distance_above {u : ℚ} {s : Nat} (h : u ≤ units s) :
    |(units s : ℚ) - u| = units s - u := by
  rw [abs_of_nonneg (sub_nonneg.mpr h)]

theorem nearestUnits_below {u : ℚ} {r : Nat} (hlo : (units r : ℚ) ≤ u)
    (hhi : u - units r ≤ units (r + 1) - u)
    (heven : u - units r = units (r + 1) - u → r % 2 = 0) : NearestUnits u r := by
  constructor
  · intro s
    rw [distance_below hlo]
    by_cases hs : s ≤ r
    · have hus := units_cast_le hs
      rw [distance_below (hus.trans hlo)]
      linarith
    · have hus : (units (r + 1) : ℚ) ≤ units s := units_cast_le (by omega)
      rw [distance_above (by linarith)]
      linarith
  · intro s hne h
    rw [distance_below hlo] at h
    by_cases hs : s < r
    · have hus := units_cast_lt hs
      rw [distance_below (hus.le.trans hlo)] at h
      linarith
    · have hus : (units (r + 1) : ℚ) ≤ units s := units_cast_le (by omega)
      rw [distance_above (by linarith)] at h
      exact heven (by linarith)

theorem nearestUnits_above {u : ℚ} {r : Nat} (hhi : u ≤ units (r + 1))
    (hlo : units (r + 1) - u ≤ u - units r)
    (heven : units (r + 1) - u = u - units r → (r + 1) % 2 = 0) : NearestUnits u (r + 1) := by
  constructor
  · intro s
    rw [distance_above hhi]
    by_cases hs : s ≤ r
    · have hus := units_cast_le hs
      rw [distance_below (by linarith)]
      linarith
    · have hus : (units (r + 1) : ℚ) ≤ units s := units_cast_le (by omega)
      rw [distance_above (hhi.trans hus)]
      linarith
  · intro s hne h
    rw [distance_above hhi] at h
    by_cases hs : s ≤ r
    · have hus := units_cast_le hs
      rw [distance_below (by linarith)] at h
      exact heven (by linarith)
    · have hus : (units (r + 1) : ℚ) < units s := units_cast_lt (by omega)
      rw [distance_above (hhi.trans hus.le)] at h
      linarith

/-- A rank is below the one after a given odd rank exactly below the midpoint of the two. -/
theorem NearestUnits.lt_succ_iff {u : ℚ} {rank top : Nat} (h : NearestUnits u rank)
    (hodd : top % 2 = 1) :
    rank ≤ top ↔ 2 * u < units top + units (top + 1) := by
  have hstep : (units top : ℚ) < units (top + 1) := units_cast_lt (Nat.lt_succ_self top)
  constructor
  · intro hle
    by_contra hmid
    have hr := units_cast_le hle
    have hnear := h.closest (top + 1)
    rw [distance_below (by linarith)] at hnear
    by_cases hu : u ≤ units (top + 1)
    · rw [distance_above hu] at hnear
      have hrank : ¬ rank < top := by
        intro hlt
        have hr := units_cast_lt hlt
        linarith
      have htop : rank = top := by omega
      have htie : |(units rank : ℚ) - u| = |(units (top + 1) : ℚ) - u| := by
        rw [distance_below (by linarith), distance_above hu]
        rw [htop] at hnear ⊢
        linarith
      have heven := h.even (top + 1) (by omega) htie
      omega
    · rw [distance_below (by linarith)] at hnear
      linarith
  · intro hmid
    by_contra hgt
    have hr : (units (top + 1) : ℚ) ≤ units rank := units_cast_le (by omega)
    have hnear := h.closest top
    rw [distance_above (by linarith)] at hnear
    by_cases hu : (units top : ℚ) ≤ u
    · rw [distance_below hu] at hnear
      linarith
    · rw [distance_above (by linarith)] at hnear
      linarith

theorem scaled_le_iff {a b : ℚ} : a ≤ b ↔ a * 2 ^ 1074 ≤ b * 2 ^ 1074 := by
  have hpos : (0 : ℚ) < 2 ^ 1074 := by positivity
  exact (mul_le_mul_iff_left₀ hpos).symm

theorem scaled_eq_iff {a b : ℚ} : a = b ↔ a * 2 ^ 1074 = b * 2 ^ 1074 := by
  have hne : (2 : ℚ) ^ 1074 ≠ 0 := by positivity
  exact (mul_left_inj' hne).symm

theorem infinity_midpoint :
    (units (infinityRank - 1) : ℚ) + units (infinityRank - 1 + 1) =
      2 * ((2 ^ 1024 - 2 ^ 970) * 2 ^ 1074) := by
  have hlast : infinityRank - 1 = 2045 * 2 ^ 52 + (2 ^ 53 - 1) := by decide
  have hnext : infinityRank - 1 + 1 = 2045 * 2 ^ 52 + 2 ^ 53 := by decide
  have hpow : (2 : ℚ) ^ 1024 = 2 ^ 54 * 2 ^ 970 := by rw [← pow_add]
  have htop : (2 : ℚ) ^ 2045 = 2 * (2 ^ 970 * 2 ^ 1074) := by
    rw [← pow_add, ← pow_succ']
  rw [hnext, hlast, units_shift 2045 (2 ^ 53 - 1) (by omega) (by omega),
    units_shift 2045 (2 ^ 53) (by omega) (by omega), hpow]
  rw [Nat.cast_mul, Nat.cast_mul, Nat.cast_pow 2 2045, Nat.cast_ofNat, htop]
  generalize (2 : ℚ) ^ 970 = a
  generalize (2 : ℚ) ^ 1074 = b
  norm_num
  ring

/-- The bound on the exponent turns every rank past the finite ones into an infinity. -/
theorem NearestUnits.bounded {q : ℚ} {rank : Nat} (h : NearestUnits (q * 2 ^ 1074) rank) :
    Nearest q (min rank infinityRank) := by
  have hfinite : rank ≤ infinityRank - 1 ↔ q < 2 ^ 1024 - 2 ^ 970 := by
    have hodd : (infinityRank - 1) % 2 = 1 := by decide
    rw [h.lt_succ_iff hodd, infinity_midpoint, mul_lt_mul_iff_right₀ two_pos,
      mul_lt_mul_iff_left₀ (by positivity)]
  have hpos : 0 < infinityRank := by decide
  constructor
  · exact Nat.min_le_right _ _
  · rw [← not_lt, ← hfinite]
    omega
  · intro hlt other hother
    have hmin : min rank infinityRank = rank := by omega
    rw [hmin, scaled_le_iff, abs_magnitude_sub, abs_magnitude_sub]
    exact h.closest other
  · intro hlt other hother hne htie
    have hmin : min rank infinityRank = rank := by omega
    rw [hmin, scaled_eq_iff, abs_magnitude_sub, abs_magnitude_sub] at htie
    rw [hmin] at hne ⊢
    exact h.even other hne htie

/-- Two ranks nearest to one value would both be even and have an odd one between them. -/
theorem Nearest.not_lt {q : ℚ} {r s : Nat} (hr : Nearest q r) (hs : Nearest q s) : ¬ r < s := by
  intro hlt
  have hrank : r ≠ infinityRank := by
    have hle := hs.rank_le
    omega
  have hsinf : s ≠ infinityRank := by
    intro heq
    exact hrank (hr.overflow.mpr (hs.overflow.mp heq))
  have hrfin : r < infinityRank := lt_of_le_of_ne hr.rank_le hrank
  have hsfin : s < infinityRank := lt_of_le_of_ne hs.rank_le hsinf
  have htie : |magnitude r - q| = |magnitude s - q| :=
    le_antisymm (hr.closest hrfin s hsfin) (hs.closest hsfin r hrfin)
  have hreven := hr.even hrfin s hsfin (by omega) htie
  have hseven := hs.even hsfin r hrfin (by omega) htie.symm
  have hbetween := hr.closest hrfin (r + 1) (by omega)
  have hleft : (units r : ℚ) < units (r + 1) := units_cast_lt (by omega)
  have hright : (units (r + 1) : ℚ) < units s := units_cast_lt (by omega)
  rw [scaled_eq_iff, abs_magnitude_sub, abs_magnitude_sub] at htie
  rw [scaled_le_iff, abs_magnitude_sub, abs_magnitude_sub] at hbetween
  generalize q * 2 ^ 1074 = u at htie hbetween
  have hmid : 2 * u = units r + units s := by
    cases abs_eq_abs.mp htie with
    | inl h => linarith
    | inr h => linarith
  rw [distance_below (by linarith)] at hbetween
  by_cases hu : (units (r + 1) : ℚ) ≤ u
  · rw [distance_below hu] at hbetween
    linarith
  · rw [distance_above (by linarith)] at hbetween
    linarith

theorem Nearest.unique {q : ℚ} {r s : Nat} (hr : Nearest q r) (hs : Nearest q s) : r = s := by
  have hrs := hr.not_lt hs
  have hsr := hs.not_lt hr
  omega

end FormRules.Number.Binary64
