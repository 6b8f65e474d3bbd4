import FormRules.Proofs.Number.Order
import FormRules.Proofs.Number.Parsing

namespace FormRules.Number

namespace Decimal

/-- The exact value of the text. -/
def value (d : Decimal) : ℚ := if d.sign.negative then -d.magnitude else d.magnitude

theorem magnitude_nonneg (d : Decimal) : 0 ≤ d.magnitude := by
  rw [magnitude_eq]
  exact mul_nonneg (Nat.cast_nonneg _) (zpow_nonneg (by norm_num) _)

theorem abs_value (d : Decimal) : |d.value| = d.magnitude := by
  rw [value]
  cases d.sign.negative with
  | false => exact abs_of_nonneg d.magnitude_nonneg
  | true =>
    rw [if_pos rfl, abs_neg]
    exact abs_of_nonneg d.magnitude_nonneg

/-- The digits of a number, after a sign, are a decimal of that magnitude. -/
theorem exists_of_digits (s : Sign) (n : Nat) :
    ∃ d : Decimal, d.sign = s ∧ d.text = String.ofList (s.chars ++ Nat.toDigits 10 n) ∧
      d.magnitude = n := by
  have hall : (Nat.toDigits 10 n).all Char.isDigit = true := by
    rw [List.all_eq_true]
    intro c hc
    exact Nat.isDigit_of_mem_toDigits (by omega) (by omega) hc
  obtain ⟨digits, hdigits⟩ := exists_digits hall
  have hne : digits ≠ [] := by
    intro hnil
    rw [hnil] at hdigits
    exact Nat.toDigits_ne_nil hdigits.symm
  have hvalue : wholeValue digits = n := by
    rw [← digitsValue_digitChars, hdigits]
    exact Nat.ofDigitChars_toDigits (by omega) (by omega)
  refine ⟨⟨s, digits, none, none, by simpa using hne⟩, rfl, ?_, ?_⟩
  · simp [text, body, fractionChars, powerChars, hdigits]
  · simp [magnitude, fractionValue, exponent, hvalue]

/-- The usual writing of an integer is a decimal of its value. -/
theorem exists_of_integer (a : Int) : ∃ d : Decimal, d.text = toString a ∧ d.value = a := by
  cases a with
  | ofNat n =>
    obtain ⟨d, hsign, htext, hmagnitude⟩ := exists_of_digits .absent n
    refine ⟨d, htext, ?_⟩
    simp [value, hsign, Sign.negative, hmagnitude]
  | negSucc n =>
    obtain ⟨d, hsign, htext, hmagnitude⟩ := exists_of_digits .minus (n + 1)
    refine ⟨d, ?_, ?_⟩
    · rw [htext, Sign.chars, String.ofList_append]
      rfl
    · simp [value, hsign, Sign.negative, hmagnitude, Int.cast_negSucc]

end Decimal

namespace Binary64

/-- A value is rounded to the number at a place: to nearest, and without crossing zero. -/
structure NearestPlace (q : ℚ) (place : Int) : Prop where
  rank : Nearest |q| place.natAbs
  pos : 0 < place → 0 < q
  neg : place < 0 → q < 0

theorem NearestPlace.mono {q q' : ℚ} {p p' : Int} (hp : NearestPlace q p)
    (hp' : NearestPlace q' p') (h : q ≤ q') : p ≤ p' := by
  by_contra hgt
  by_cases hpos : 0 < p
  · have hq := hp.pos hpos
    have hsign : ¬ p' < 0 := by
      intro hneg
      have hq' := hp'.neg hneg
      linarith
    have habs : |q| ≤ |q'| := by
      rw [abs_of_pos hq, abs_of_pos (hq.trans_le h)]
      exact h
    have hrank := hp.rank.mono hp'.rank habs
    omega
  · have hq' := hp'.neg (by omega)
    have habs : |q'| ≤ |q| := by
      rw [abs_of_neg hq', abs_of_neg (h.trans_lt hq')]
      linarith
    have hrank := hp'.rank.mono hp.rank habs
    omega

/-- An integer of at most `2 ^ 53` is what stands at the place it is rounded to. -/
theorem NearestPlace.integer_exact {a p : Int} (h : NearestPlace a p) (ha : |a| ≤ 2 ^ 53) :
    (a : ℚ) = if p < 0 then -magnitude p.natAbs else magnitude p.natAbs := by
  have hexact : magnitude p.natAbs = |(a : ℚ)| := by
    have hrank := h.rank
    rw [Int.abs_eq_natAbs] at ha
    rw [← Int.cast_abs, Int.abs_eq_natAbs, Int.cast_natCast] at hrank ⊢
    exact hrank.integer_exact (by omega)
  rw [hexact]
  by_cases hneg : p < 0
  · rw [if_pos hneg, abs_of_neg (h.neg hneg), neg_neg]
  rw [if_neg hneg]
  by_cases hpos : 0 < p
  · rw [abs_of_pos (h.pos hpos)]
  · have hp : p = 0 := by omega
    rw [hp, Int.natAbs_zero, magnitude_zero, eq_comm, abs_eq_zero] at hexact
    rw [hexact, abs_zero]

theorem NearestPlace.integer_lt {a b p q : Int} (hp : NearestPlace a p) (hq : NearestPlace b q)
    (ha : |a| ≤ 2 ^ 53) (hb : |b| ≤ 2 ^ 53) : p < q ↔ a < b := by
  constructor
  · intro hlt
    by_contra hge
    have hle : (b : ℚ) ≤ a := by exact_mod_cast not_lt.mp hge
    have hmono := hq.mono hp hle
    omega
  · intro hlt
    have hle : (a : ℚ) ≤ b := by exact_mod_cast hlt.le
    apply lt_of_le_of_ne (hp.mono hq hle)
    intro heq
    have hcast : (a : ℚ) = b := by
      rw [hp.integer_exact ha, hq.integer_exact hb, heq]
    have hab : a = b := by exact_mod_cast hcast
    omega

theorem ofText?_place (d : Decimal) :
    ∃ x p, ofText? d.text = some x ∧ x.place? = some p ∧ NearestPlace d.value p := by
  obtain ⟨rank, h, htext, hnear⟩ := ofText?_nearest d
  have hzero : d.magnitude = 0 → rank = 0 := by
    intro hm
    rw [hm] at hnear
    exact nearest_zero_iff.mp hnear
  have hpos : rank ≠ 0 → 0 < d.magnitude := by
    intro hne
    exact lt_of_le_of_ne d.magnitude_nonneg fun heq => hne (hzero heq.symm)
  refine ⟨_, _, htext, rfl, ?_⟩
  have habs := d.abs_value
  rw [Decimal.value] at habs ⊢
  cases hsign : d.sign.negative with
  | false =>
    simp only [hsign, Bool.false_eq_true, if_false] at habs ⊢
    refine ⟨?_, ?_, ?_⟩
    · rwa [habs, Int.natAbs_natCast]
    · intro hp
      exact hpos (by omega)
    · intro hp
      omega
  | true =>
    simp only [hsign, if_true] at habs ⊢
    refine ⟨?_, ?_, ?_⟩
    · rwa [habs, Int.natAbs_neg, Int.natAbs_natCast]
    · intro hp
      omega
    · intro hp
      have hm := hpos (by omega)
      linarith

end Binary64

open Binary64 (ofText? NearestPlace)

/-- Comparing two decimals compares the places that their values are rounded to. -/
theorem greaterThan_of_decimals (v t : Decimal) :
    ∃ p q, NearestPlace v.value p ∧ NearestPlace t.value q ∧
      (p = q → ReadEqual v.text t.text) ∧
      greaterThan v.text t.text = if q < p then .holds else .violated := by
  obtain ⟨x, p, hx, hp, hv⟩ := Binary64.ofText?_place v
  obtain ⟨y, q, hy, hq, ht⟩ := Binary64.ofText?_place t
  refine ⟨p, q, hv, ht, ?_, ?_⟩
  · intro heq
    rw [← heq] at hq
    exact ⟨x, y, hx, hy, Binary64.equal_of_place hp hq⟩
  · rw [greaterThan, compareBy_of_read hx hy, Binary64.lessThan, hp, hq]
    simp

theorem lt_of_greaterThan (v t : Decimal) (h : greaterThan v.text t.text = .holds) :
    t.value < v.value := by
  obtain ⟨p, q, hv, ht, -, hgreater⟩ := greaterThan_of_decimals v t
  by_contra hle
  have hmono := hv.mono ht (not_lt.mp hle)
  rw [hgreater, if_neg (by omega)] at h
  cases h

theorem equal_of_not_greaterThan (v t : Decimal) (hlt : t.value < v.value)
    (h : greaterThan v.text t.text ≠ .holds) :
    greaterThan v.text t.text = .violated ∧ ReadEqual v.text t.text := by
  obtain ⟨p, q, hv, ht, hequal, hgreater⟩ := greaterThan_of_decimals v t
  have hmono := ht.mono hv hlt.le
  have hnot : ¬ q < p := by
    intro hqp
    exact h (hgreater.trans (if_pos hqp))
  exact ⟨hgreater.trans (if_neg hnot), hequal (by omega)⟩

theorem greaterThan_integers (v t : Decimal) {a b : Int} (hv : v.value = a) (ht : t.value = b)
    (ha : |a| ≤ 2 ^ 53) (hb : |b| ≤ 2 ^ 53) :
    greaterThan v.text t.text = .holds ↔ b < a := by
  obtain ⟨p, q, hp, hq, -, hgreater⟩ := greaterThan_of_decimals v t
  rw [hv] at hp
  rw [ht] at hq
  rw [hgreater, ← hq.integer_lt hp hb ha]
  by_cases h : q < p <;> simp [h]

/-- A threshold check that holds is right about the exact values. One that fails against the exact
values has met two texts that are read as equal numbers, which never happens to different integers
of at most `2 ^ 53`. -/
theorem threshold_checks_exact_or_equal :
    (∀ v t : Decimal,
      (greaterThan v.text t.text = .holds → t.value < v.value) ∧
      (lowerThan v.text t.text = .holds → v.value < t.value) ∧
      (t.value < v.value → greaterThan v.text t.text ≠ .holds →
        greaterThan v.text t.text = .violated ∧ ReadEqual v.text t.text) ∧
      (v.value < t.value → lowerThan v.text t.text ≠ .holds →
        lowerThan v.text t.text = .violated ∧ ReadEqual v.text t.text)) ∧
    (∀ a b : Int, |a| ≤ 2 ^ 53 → |b| ≤ 2 ^ 53 →
      ∀ v t : Decimal, v.value = a → t.value = b →
        (greaterThan v.text t.text = .holds ↔ b < a) ∧
        (lowerThan v.text t.text = .holds ↔ a < b)) ∧
    ∀ a : Int, ∃ d : Decimal, d.text = toString a ∧ d.value = a := by
  refine ⟨?_, ?_, Decimal.exists_of_integer⟩
  · intro v t
    rw [lowerThan_eq_greaterThan]
    refine ⟨lt_of_greaterThan v t, lt_of_greaterThan t v, equal_of_not_greaterThan v t, ?_⟩
    intro hlt h
    obtain ⟨hviolated, hequal⟩ := equal_of_not_greaterThan t v hlt h
    exact ⟨hviolated, hequal.symm⟩
  · intro a b ha hb v t hv ht
    rw [lowerThan_eq_greaterThan]
    exact ⟨greaterThan_integers v t hv ht ha hb, greaterThan_integers t v ht hv hb ha⟩

end FormRules.Number
