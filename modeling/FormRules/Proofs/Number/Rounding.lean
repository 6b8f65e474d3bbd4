import FormRules.Proofs.Number.Nearest

namespace FormRules.Number.Binary64

/-- The shift keeps 53 binary digits of a number that has more, and all of one that has not. -/
theorem leading_digits (w : Nat) :
    w / 2 ^ (w.log2 - 52) < 2 ^ 53 ∧
      (w.log2 - 52 = 0 ∨ 2 ^ 52 ≤ w / 2 ^ (w.log2 - 52)) := by
  have hupper : w < 2 ^ (w.log2 + 1) := Nat.lt_log2_self
  constructor
  · have hpow : 2 ^ (w.log2 + 1) ≤ 2 ^ (w.log2 - 52) * 2 ^ 53 := by
      rw [← pow_add]
      exact Nat.pow_le_pow_right (by omega) (by omega)
    exact Nat.div_lt_of_lt_mul (lt_of_lt_of_le hupper hpow)
  · by_cases hd : w.log2 - 52 = 0
    · exact Or.inl hd
    · have hne : w ≠ 0 := by
        intro hw
        rw [hw] at hd
        exact hd (by decide)
      have hpow : 2 ^ 52 * 2 ^ (w.log2 - 52) = 2 ^ w.log2 := by
        rw [← pow_add]
        congr 1
        omega
      refine Or.inr ?_
      rw [Nat.le_div_iff_mul_le (Nat.two_pow_pos _), hpow]
      exact Nat.log2_self_le hne

theorem roundHalfEven_cases (num den : Nat) :
    (roundHalfEven num den = num / den ∧ 2 * (num % den) ≤ den ∧
        (2 * (num % den) = den → num / den % 2 = 0)) ∨
      (roundHalfEven num den = num / den + 1 ∧ den ≤ 2 * (num % den) ∧
        (2 * (num % den) = den → (num / den + 1) % 2 = 0)) := by
  simp only [roundHalfEven]
  by_cases hlow : 2 * (num % den) < den
  · rw [if_pos hlow]
    exact Or.inl ⟨rfl, by omega, by omega⟩
  by_cases hhigh : den < 2 * (num % den)
  · rw [if_neg hlow, if_pos hhigh]
    exact Or.inr ⟨rfl, by omega, by omega⟩
  rw [if_neg hlow, if_neg hhigh]
  by_cases heven : num / den % 2 = 0
  · exact Or.inl ⟨by omega, by omega, by omega⟩
  · exact Or.inr ⟨by omega, by omega, by omega⟩

theorem gap_below (den d lo rest : Nat) (hden : (0 : ℚ) < den) (hlt : lo < 2 ^ 53)
    (hge : d = 0 ∨ 2 ^ 52 ≤ lo) :
    ((den * 2 ^ d * lo + rest : Nat) : ℚ) / den - units (d * 2 ^ 52 + lo) = rest / den := by
  rw [units_shift d lo (by omega) hge]
  push_cast
  rw [add_div, mul_assoc, mul_div_cancel_left₀ _ hden.ne']
  ring

theorem gap_above (den d lo rest : Nat) (hden : (0 : ℚ) < den) (hlt : lo < 2 ^ 53)
    (hge : d = 0 ∨ 2 ^ 52 ≤ lo) :
    units (d * 2 ^ 52 + lo + 1) - ((den * 2 ^ d * lo + rest : Nat) : ℚ) / den =
      2 ^ d - rest / den := by
  rw [add_assoc, units_shift d (lo + 1) (by omega) (by omega)]
  push_cast
  rw [add_div, mul_assoc, mul_div_cancel_left₀ _ hden.ne']
  ring

theorem half_le_iff (k den d : Nat) (hden : (0 : ℚ) < den) :
    (k : ℚ) / den ≤ 2 ^ d - k / den ↔ 2 * k ≤ den * 2 ^ d := by
  rw [le_sub_iff_add_le, ← add_div, div_le_iff₀ hden, ← two_mul, mul_comm _ (den : ℚ)]
  exact_mod_cast Iff.rfl

theorem le_half_iff (k den d : Nat) (hden : (0 : ℚ) < den) :
    2 ^ d - (k : ℚ) / den ≤ k / den ↔ den * 2 ^ d ≤ 2 * k := by
  rw [sub_le_iff_le_add, ← add_div, le_div_iff₀ hden, ← two_mul, mul_comm _ (den : ℚ)]
  exact_mod_cast Iff.rfl

/-- Rounding the kept digits half to even rounds the number of units itself. -/
theorem nearestUnits_shifted (num den d : Nat) (hden : 0 < den)
    (hlt : num / (den * 2 ^ d) < 2 ^ 53) (hge : d = 0 ∨ 2 ^ 52 ≤ num / (den * 2 ^ d)) :
    NearestUnits ((num : ℚ) / den) (d * 2 ^ 52 + roundHalfEven num (den * 2 ^ d)) := by
  have hdenq : (0 : ℚ) < den := by exact_mod_cast hden
  have hbelow := gap_below den d _ (num % (den * 2 ^ d)) hdenq hlt hge
  have habove := gap_above den d _ (num % (den * 2 ^ d)) hdenq hlt hge
  rw [Nat.div_add_mod] at hbelow habove
  have hnonneg : (0 : ℚ) ≤ (num % (den * 2 ^ d) : Nat) / den :=
    div_nonneg (Nat.cast_nonneg _) hdenq.le
  have hrest : ((num % (den * 2 ^ d) : Nat) : ℚ) / den ≤ 2 ^ d := by
    have hmod : num % (den * 2 ^ d) < den * 2 ^ d :=
      Nat.mod_lt _ (Nat.mul_pos hden (Nat.two_pow_pos d))
    rw [div_le_iff₀ hdenq, mul_comm _ (den : ℚ)]
    exact_mod_cast hmod.le
  have hlow := half_le_iff (num % (den * 2 ^ d)) den d hdenq
  have hhigh := le_half_iff (num % (den * 2 ^ d)) den d hdenq
  cases roundHalfEven_cases num (den * 2 ^ d) with
  | inl hdown =>
    obtain ⟨hround, hle, htie⟩ := hdown
    rw [hround]
    apply nearestUnits_below
    · linarith
    · rw [hbelow, habove]
      exact hlow.mpr hle
    · intro heq
      rw [hbelow, habove] at heq
      have heven := htie (le_antisymm hle (hhigh.mp heq.ge))
      omega
  | inr hup =>
    obtain ⟨hround, hge', htie⟩ := hup
    rw [hround, ← add_assoc]
    apply nearestUnits_above
    · linarith
    · rw [hbelow, habove]
      exact hhigh.mpr hge'
    · intro heq
      rw [hbelow, habove] at heq
      have heven := htie (le_antisymm (hlow.mp heq.ge) hge')
      omega

theorem nearestRank_nearest (num den : Nat) (hden : 0 < den) (q : ℚ)
    (hq : q * 2 ^ 1074 = num / den) : Nearest q (nearestRank num den) := by
  have hdigits := leading_digits (num / den)
  rw [Nat.div_div_eq_div_mul] at hdigits
  have hnear := nearestUnits_shifted num den _ hden hdigits.1 hdigits.2
  rw [← hq] at hnear
  exact hnear.bounded

/-- Anything below half a unit rounds to zero. -/
theorem nearest_zero {q : ℚ} (hnonneg : 0 ≤ q) (hhalf : 2 * (q * 2 ^ 1074) < 1) :
    Nearest q 0 := by
  have hunits : NearestUnits (q * 2 ^ 1074) 0 := by
    have hzero : (units 0 : ℚ) = 0 := by norm_num [units]
    have hone : (units (0 + 1) : ℚ) = 1 := by norm_num [units]
    have hpos : 0 ≤ q * 2 ^ 1074 := by positivity
    generalize q * 2 ^ 1074 = u at hhalf hpos
    apply nearestUnits_below
    · rw [hzero]
      exact hpos
    · rw [hzero, hone]
      linarith
    · intro heq
      rfl
  exact hunits.bounded

theorem nearest_infinity {q : ℚ} (hq : 2 ^ 1024 - 2 ^ 970 ≤ q) : Nearest q infinityRank := by
  constructor
  · exact Nat.le_refl _
  · exact ⟨fun _ => hq, fun _ => rfl⟩
  · intro hlt
    exact absurd hlt (Nat.lt_irrefl _)
  · intro hlt
    exact absurd hlt (Nat.lt_irrefl _)

theorem decimalRank_ofNat (coefficient exponent : Nat) :
    Nearest ((coefficient : ℚ) * 10 ^ exponent) (decimalRank coefficient (.ofNat exponent)) := by
  simp only [decimalRank]
  by_cases hzero : coefficient = 0
  · rw [if_pos hzero, hzero, Nat.cast_zero, zero_mul]
    exact nearest_zero le_rfl (by norm_num)
  rw [if_neg hzero]
  by_cases hlarge : 309 ≤ exponent
  · rw [if_pos hlarge]
    apply nearest_infinity
    have hbound : (2 : ℚ) ^ 1024 ≤ 10 ^ 309 := by
      have hnat : 2 ^ 1024 ≤ 10 ^ 309 := by decide +kernel
      exact_mod_cast hnat
    have hpow : (10 : ℚ) ^ 309 ≤ 10 ^ exponent := pow_le_pow_right₀ (by norm_num) hlarge
    have hone : (1 : ℚ) ≤ coefficient := by exact_mod_cast Nat.one_le_iff_ne_zero.mpr hzero
    have hmul : (10 : ℚ) ^ exponent ≤ coefficient * 10 ^ exponent :=
      le_mul_of_one_le_left (by positivity) hone
    have hsub : (2 : ℚ) ^ 1024 - 2 ^ 970 ≤ 2 ^ 1024 := sub_le_self _ (by positivity)
    exact hsub.trans (hbound.trans (hpow.trans hmul))
  · rw [if_neg hlarge]
    apply nearestRank_nearest _ 1 Nat.one_pos
    simp only [Nat.cast_one, div_one, Nat.cast_mul, Nat.pow_eq, Nat.cast_pow, Nat.cast_ofNat]

/-- A power of eight is below the same power of ten, which bounds what is too small to count. -/
theorem coefficient_small (coefficient s k : Nat) (h : coefficient.log2 + (s + 2) ≤ 3 * k) :
    2 * (coefficient * 2 ^ s) < 10 ^ k := by
  have hlog : coefficient < 2 ^ (coefficient.log2 + 1) := Nat.lt_log2_self
  calc 2 * (coefficient * 2 ^ s) = coefficient * 2 ^ (s + 1) := by
        rw [Nat.mul_left_comm, ← Nat.pow_succ']
    _ < 2 ^ (coefficient.log2 + 1) * 2 ^ (s + 1) :=
        Nat.mul_lt_mul_of_pos_right hlog (Nat.two_pow_pos _)
    _ = 2 ^ (coefficient.log2 + (s + 2)) := by
        rw [← Nat.pow_add, Nat.add_add_add_comm, Nat.add_comm 1, Nat.add_assoc]
    _ ≤ 2 ^ (3 * k) := Nat.pow_le_pow_right (by omega) h
    _ = 8 ^ k := by rw [Nat.pow_mul]
    _ ≤ 10 ^ k := Nat.pow_le_pow_left (by omega) k

theorem decimalRank_negSucc (coefficient exponent : Nat) :
    Nearest ((coefficient : ℚ) / 10 ^ (exponent + 1))
      (decimalRank coefficient (.negSucc exponent)) := by
  have hpos : (0 : ℚ) < 10 ^ (exponent + 1) := by positivity
  simp only [decimalRank]
  by_cases hsmall : coefficient.log2 + 1076 ≤ 3 * (exponent + 1)
  · rw [if_pos hsmall]
    apply nearest_zero (div_nonneg (Nat.cast_nonneg _) hpos.le)
    have hnat := coefficient_small coefficient 1074 (exponent + 1) hsmall
    rw [div_mul_eq_mul_div, ← mul_div_assoc, div_lt_iff₀ hpos, one_mul]
    exact_mod_cast hnat
  · rw [if_neg hsmall]
    apply nearestRank_nearest _ _ (Nat.pow_pos (by omega))
    simp only [div_mul_eq_mul_div, Nat.cast_mul, Nat.pow_eq, Nat.cast_pow, Nat.cast_ofNat]

theorem decimalRank_nearest (coefficient : Nat) (exponent : Int) :
    Nearest ((coefficient : ℚ) * 10 ^ exponent) (decimalRank coefficient exponent) := by
  cases exponent with
  | ofNat k =>
    rw [Int.ofNat_eq_natCast, zpow_natCast]
    exact decimalRank_ofNat coefficient k
  | negSucc k =>
    rw [zpow_negSucc, ← div_eq_mul_inv]
    exact decimalRank_negSucc coefficient k

/-- The first integer between two numbers goes to the even one. -/
example : decimalRank 9007199254740993 0 = decimalRank 9007199254740992 0 := by decide +kernel

end FormRules.Number.Binary64
