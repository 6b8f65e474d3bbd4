import FormRules.Number.Comparison
import FormRules.Proofs.Number.Monotone
import Mathlib.Data.EReal.Operations

namespace FormRules.Number

namespace Binary64

/-- The magnitude of a rank among the extended reals. -/
noncomputable def extent (rank : Nat) : EReal :=
  if rank = infinityRank then ⊤ else ((magnitude rank : ℝ) : EReal)

/-- What a number stands for. Both zeros stand for zero, and a NaN stands for nothing. -/
noncomputable def value? : Binary64 → Option EReal
  | nan => none
  | number negative rank _ => some (if negative then -extent rank else extent rank)

theorem extent_lt {r s : Nat} (h : r < s) (hs : s ≤ infinityRank) : extent r < extent s := by
  have hr : r ≠ infinityRank := by omega
  rw [extent, if_neg hr, extent]
  by_cases hinf : s = infinityRank
  · rw [if_pos hinf]
    exact EReal.coe_lt_top _
  · rw [if_neg hinf, EReal.coe_lt_coe_iff]
    exact_mod_cast magnitude_strictMono h

theorem extent_zero : extent 0 = 0 := by
  have hfinite : 0 ≠ infinityRank := by decide
  rw [extent, if_neg hfinite, magnitude_zero, Rat.cast_zero, EReal.coe_zero]

theorem extent_nonneg {r : Nat} (hr : r ≤ infinityRank) : 0 ≤ extent r := by
  cases Nat.eq_zero_or_pos r with
  | inl hzero => rw [hzero, extent_zero]
  | inr hpos =>
    rw [← extent_zero]
    exact (extent_lt hpos hr).le

/-- The extended real at a place in the order. -/
noncomputable def atPlace (place : Int) : EReal :=
  if place < 0 then -extent place.natAbs else extent place.natAbs

theorem atPlace_lt {p q : Int} (h : p < q) (hp : p.natAbs ≤ infinityRank)
    (hq : q.natAbs ≤ infinityRank) : atPlace p < atPlace q := by
  rw [atPlace, atPlace]
  by_cases hqneg : q < 0
  · have habs : q.natAbs < p.natAbs := by omega
    rw [if_pos (by omega), if_pos hqneg, EReal.neg_lt_neg_iff]
    exact extent_lt habs hp
  · rw [if_neg hqneg]
    by_cases hpneg : p < 0
    · have hpos : 0 < extent p.natAbs := by
        rw [← extent_zero]
        exact extent_lt (by omega) hp
      rw [if_pos hpneg]
      exact lt_of_lt_of_le (EReal.neg_lt_zero.mpr hpos) (extent_nonneg hq)
    · rw [if_neg hpneg]
      exact extent_lt (by omega) hq

theorem atPlace_lt_iff {p q : Int} (hp : p.natAbs ≤ infinityRank)
    (hq : q.natAbs ≤ infinityRank) : atPlace p < atPlace q ↔ p < q := by
  constructor
  · intro h
    by_contra hge
    have hcases : q < p ∨ q = p := by omega
    cases hcases with
    | inl hlt => exact absurd (atPlace_lt hlt hq hp) h.asymm
    | inr heq =>
      rw [heq] at h
      exact lt_irrefl _ h
  · intro h
    exact atPlace_lt h hp hq

theorem value?_eq_map_place? (x : Binary64) : x.value? = x.place?.map atPlace := by
  cases x with
  | nan => rfl
  | number negative rank h =>
    rw [value?, place?, Option.map_some, atPlace]
    cases negative with
    | false => simp
    | true =>
      by_cases hzero : rank = 0
      · simp [hzero, extent_zero]
      · have hneg : -(rank : Int) < 0 := by omega
        simp only [if_true, if_pos hneg, Int.natAbs_neg, Int.natAbs_natCast]

theorem natAbs_place?_le {x : Binary64} {p : Int} (h : x.place? = some p) :
    p.natAbs ≤ infinityRank := by
  cases x with
  | nan => cases h
  | number negative rank hrank =>
    have hp : (if negative then -(rank : Int) else rank) = p := Option.some.inj h
    cases negative with
    | false => simp at hp; omega
    | true => simp at hp; omega

/-- One number stands for less than another; a NaN is on neither side of anything. -/
def Less (x y : Binary64) : Prop := ∃ a b, x.value? = some a ∧ y.value? = some b ∧ a < b

theorem lessThan_iff_less (x y : Binary64) : x.lessThan y = true ↔ Less x y := by
  rw [Less, value?_eq_map_place?, value?_eq_map_place?, lessThan]
  cases hx : x.place? with
  | none => simp
  | some p =>
    cases hy : y.place? with
    | none => simp
    | some q => simp [atPlace_lt_iff (natAbs_place?_le hx) (natAbs_place?_le hy)]

/-- Two numbers that compare equal; a NaN does not even compare equal to itself. -/
def Equal (x y : Binary64) : Prop := ∃ a, x.value? = some a ∧ y.value? = some a

theorem equal_of_place {x y : Binary64} {p : Int} (hx : x.place? = some p)
    (hy : y.place? = some p) : Equal x y := by
  refine ⟨atPlace p, ?_, ?_⟩
  · rw [value?_eq_map_place?, hx, Option.map_some]
  · rw [value?_eq_map_place?, hy, Option.map_some]

end Binary64

section Comparison

variable {relation : Binary64 → Binary64 → Bool} {value threshold : String}

open Binary64 (ofText?)

theorem compareBy_of_read {x y : Binary64} (hx : ofText? value = some x)
    (hy : ofText? threshold = some y) :
    compareBy relation value threshold = if relation x y then .holds else .violated := by
  rw [compareBy, hx, hy]

theorem compareBy_notNumeric_iff :
    compareBy relation value threshold = .notNumeric ↔
      ofText? value = none ∨ ofText? threshold = none := by
  cases hx : ofText? value with
  | none => simp [compareBy, hx]
  | some x =>
    cases hy : ofText? threshold with
    | none => simp [compareBy, hy]
    | some y => cases hr : relation x y <;> simp [compareBy_of_read hx hy, hr]

theorem compareBy_holds_iff :
    compareBy relation value threshold = .holds ↔
      ∃ x y, ofText? value = some x ∧ ofText? threshold = some y ∧ relation x y = true := by
  cases hx : ofText? value with
  | none => simp [compareBy, hx]
  | some x =>
    cases hy : ofText? threshold with
    | none => simp [compareBy, hy]
    | some y => cases hr : relation x y <;> simp [compareBy_of_read hx hy, hr]

theorem lowerThan_eq_greaterThan (value threshold : String) :
    lowerThan value threshold = greaterThan threshold value := by
  rw [lowerThan, greaterThan, compareBy, compareBy]
  cases ofText? value <;> cases ofText? threshold <;> rfl

/-- Both texts are read, as numbers that compare equal. -/
def ReadEqual (v t : String) : Prop :=
  ∃ x y, ofText? v = some x ∧ ofText? t = some y ∧ Binary64.Equal x y

theorem ReadEqual.symm {v t : String} (h : ReadEqual v t) : ReadEqual t v := by
  obtain ⟨x, y, hx, hy, a, hxa, hya⟩ := h
  exact ⟨y, x, hy, hx, a, hya, hxa⟩

end Comparison

end FormRules.Number
