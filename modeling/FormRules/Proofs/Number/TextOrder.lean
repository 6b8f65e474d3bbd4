import FormRules.Proofs.Number.Order

namespace FormRules.Number

open Binary64 (ofText?)

/-- The extended real that a text is read as. There is none for a text that is no number, and none
for a NaN. -/
noncomputable def reading? (text : String) : Option EReal := (ofText? text).bind Binary64.value?

/-- The text is read as a number other than a NaN. -/
def ReadsNumber (text : String) : Prop := ∃ x, ofText? text = some x ∧ x ≠ .nan

theorem reading?_eq_some_iff {text : String} {r : EReal} :
    reading? text = some r ↔ ∃ x, ofText? text = some x ∧ x.value? = some r :=
  Option.bind_eq_some_iff

theorem readsNumber_iff (text : String) : ReadsNumber text ↔ ∃ r, reading? text = some r := by
  constructor
  · rintro ⟨x, hx, hne⟩
    cases x with
    | nan => exact absurd rfl hne
    | number negative rank h => exact ⟨_, reading?_eq_some_iff.mpr ⟨_, hx, rfl⟩⟩
  · rintro ⟨r, hr⟩
    obtain ⟨x, hx, hvalue⟩ := reading?_eq_some_iff.mp hr
    refine ⟨x, hx, ?_⟩
    rintro rfl
    cases hvalue

theorem readEqual_iff (a b : String) :
    ReadEqual a b ↔ ∃ r, reading? a = some r ∧ reading? b = some r := by
  constructor
  · rintro ⟨x, y, hx, hy, r, hxr, hyr⟩
    exact ⟨r, reading?_eq_some_iff.mpr ⟨x, hx, hxr⟩, reading?_eq_some_iff.mpr ⟨y, hy, hyr⟩⟩
  · rintro ⟨r, ha, hb⟩
    obtain ⟨x, hx, hxr⟩ := reading?_eq_some_iff.mp ha
    obtain ⟨y, hy, hyr⟩ := reading?_eq_some_iff.mp hb
    exact ⟨x, y, hx, hy, r, hxr, hyr⟩

theorem lessThan_iff_of_values {x y : Binary64} {r s : EReal} (hx : x.value? = some r)
    (hy : y.value? = some s) : x.lessThan y = true ↔ r < s := by
  rw [Binary64.lessThan_iff_less, Binary64.Less, hx, hy]
  simp

theorem greaterThan_holds_iff_reading (a b : String) :
    greaterThan a b = .holds ↔
      ∃ r s, reading? a = some r ∧ reading? b = some s ∧ s < r := by
  rw [greaterThan, compareBy_holds_iff]
  constructor
  · rintro ⟨x, y, hx, hy, hless⟩
    obtain ⟨s, r, hs, hr, hlt⟩ := (Binary64.lessThan_iff_less y x).mp hless
    exact ⟨r, s, reading?_eq_some_iff.mpr ⟨x, hx, hr⟩, reading?_eq_some_iff.mpr ⟨y, hy, hs⟩, hlt⟩
  · rintro ⟨r, s, ha, hb, hlt⟩
    obtain ⟨x, hx, hr⟩ := reading?_eq_some_iff.mp ha
    obtain ⟨y, hy, hs⟩ := reading?_eq_some_iff.mp hb
    exact ⟨x, y, hx, hy, (lessThan_iff_of_values hs hr).mpr hlt⟩

theorem isNumeric_eq_false_iff (text : String) : isNumeric text = false ↔ ofText? text = none := by
  rw [isNumeric, Option.isSome_eq_false_iff, Option.isNone_iff_eq_none]

theorem greaterThan_notNumeric_iff (a b : String) :
    greaterThan a b = .notNumeric ↔ isNumeric a = false ∨ isNumeric b = false := by
  rw [isNumeric_eq_false_iff, isNumeric_eq_false_iff]
  exact compareBy_notNumeric_iff

theorem ReadEqual.numeric {a b : String} (h : ReadEqual a b) :
    isNumeric a = true ∧ isNumeric b = true := by
  obtain ⟨x, y, hx, hy, -⟩ := h
  rw [isNumeric, isNumeric, hx, hy]
  exact ⟨rfl, rfl⟩

/-- Two texts that are read as numbers are compared as those. -/
theorem greaterThan_of_readings {a b : String} {r s : EReal} (ha : reading? a = some r)
    (hb : reading? b = some s) : greaterThan a b = if s < r then .holds else .violated := by
  obtain ⟨x, hx, hr⟩ := reading?_eq_some_iff.mp ha
  obtain ⟨y, hy, hs⟩ := reading?_eq_some_iff.mp hb
  rw [greaterThan, compareBy_of_read hx hy]
  simp only [lessThan_iff_of_values hs hr]

theorem not_greaterThan_iff_le {a b : String} {r s : EReal} (ha : reading? a = some r)
    (hb : reading? b = some s) : greaterThan a b ≠ .holds ↔ r ≤ s := by
  rw [greaterThan_of_readings ha hb, ← not_lt]
  by_cases h : s < r <;> simp [h]

theorem greaterThan_of_nan {a b : String} {x y : Binary64} (ha : ofText? a = some x)
    (hb : ofText? b = some y) (h : x = .nan ∨ y = .nan) : greaterThan a b = .violated := by
  rw [greaterThan, compareBy_of_read ha hb, if_neg]
  rw [Binary64.lessThan]
  rcases h with rfl | rfl
  · cases y <;> simp [Binary64.place?]
  · simp [Binary64.place?]

/-- Exactly one of three cases. -/
def ExactlyOne (p q r : Prop) : Prop := p ∧ ¬ q ∧ ¬ r ∨ ¬ p ∧ q ∧ ¬ r ∨ ¬ p ∧ ¬ q ∧ r

theorem greaterThan_trichotomy {a b : String} (ha : ReadsNumber a) (hb : ReadsNumber b) :
    ExactlyOne (greaterThan a b = .holds) (greaterThan b a = .holds)
      (greaterThan a b = .violated ∧ greaterThan b a = .violated ∧ ReadEqual a b) := by
  obtain ⟨r, hr⟩ := (readsNumber_iff a).mp ha
  obtain ⟨s, hs⟩ := (readsNumber_iff b).mp hb
  rw [greaterThan_of_readings hr hs, greaterThan_of_readings hs hr, readEqual_iff, hr, hs]
  rcases lt_trichotomy r s with hlt | heq | hgt
  · simp [ExactlyOne, hlt, hlt.not_gt]
  · simp [ExactlyOne, heq]
  · simp [ExactlyOne, hgt, hgt.not_gt]

theorem greaterThan_trans {a b c : String} (hab : greaterThan a b = .holds)
    (hbc : greaterThan b c = .holds) : greaterThan a c = .holds := by
  rw [greaterThan_holds_iff_reading] at hab hbc ⊢
  obtain ⟨r, s, ha, hb, hlt⟩ := hab
  obtain ⟨s', t, hb', hc, hlt'⟩ := hbc
  rw [hb, Option.some.injEq] at hb'
  rw [← hb'] at hlt'
  exact ⟨r, t, ha, hc, hlt'.trans hlt⟩

theorem greaterThan_irrefl (a : String) : greaterThan a a ≠ .holds := by
  rw [ne_eq, greaterThan_holds_iff_reading]
  rintro ⟨r, s, hr, hs, hlt⟩
  rw [hr, Option.some.injEq] at hs
  exact hlt.ne hs.symm

theorem ReadEqual.refl {a : String} (h : ReadsNumber a) : ReadEqual a a := by
  obtain ⟨r, hr⟩ := (readsNumber_iff a).mp h
  exact (readEqual_iff a a).mpr ⟨r, hr, hr⟩

theorem ReadEqual.reading?_eq {a b : String} (h : ReadEqual a b) : reading? a = reading? b := by
  obtain ⟨r, ha, hb⟩ := (readEqual_iff a b).mp h
  rw [ha, hb]

theorem ReadEqual.trans {a b c : String} (hab : ReadEqual a b) (hbc : ReadEqual b c) :
    ReadEqual a c := by
  obtain ⟨r, hb, hc⟩ := (readEqual_iff b c).mp hbc
  exact (readEqual_iff a c).mpr ⟨r, hab.reading?_eq.trans hb, hc⟩

theorem Comparison.eq_of_iff {c c' : Comparison} (hholds : c = .holds ↔ c' = .holds)
    (hread : c = .notNumeric ↔ c' = .notNumeric) : c = c' := by
  cases c <;> cases c' <;> simp_all

/-- A comparison sees of a text only whether it is a number, and which. -/
theorem greaterThan_congr {a a' b b' : String} (ha : isNumeric a = isNumeric a')
    (har : reading? a = reading? a') (hb : isNumeric b = isNumeric b')
    (hbr : reading? b = reading? b') : greaterThan a b = greaterThan a' b' := by
  apply Comparison.eq_of_iff
  · rw [greaterThan_holds_iff_reading, greaterThan_holds_iff_reading, har, hbr]
  · rw [greaterThan_notNumeric_iff, greaterThan_notNumeric_iff, ha, hb]

theorem ReadEqual.numeric_eq {a b : String} (h : ReadEqual a b) : isNumeric a = isNumeric b := by
  rw [h.numeric.1, h.numeric.2]

theorem ReadEqual.greaterThan_left {a b : String} (h : ReadEqual a b) (c : String) :
    greaterThan a c = greaterThan b c :=
  greaterThan_congr h.numeric_eq h.reading?_eq rfl rfl

theorem ReadEqual.greaterThan_right {a b : String} (h : ReadEqual a b) (c : String) :
    greaterThan c a = greaterThan c b :=
  greaterThan_congr rfl rfl h.numeric_eq h.reading?_eq

theorem place?_zero (negative : Bool) (h : 0 ≤ infinityRank) :
    (Binary64.number negative 0 h).place? = some 0 := by
  cases negative <;> rfl

/-- Zeros compare equal whatever their signs. -/
theorem ReadEqual.of_zeros {a b : String} {s t : Bool} {hs ht : 0 ≤ infinityRank}
    (ha : ofText? a = some (.number s 0 hs)) (hb : ofText? b = some (.number t 0 ht)) :
    ReadEqual a b :=
  ⟨_, _, ha, hb, Binary64.equal_of_place (place?_zero s hs) (place?_zero t ht)⟩

/-- The two comparisons are one strict order, seen from its two sides. A text that is no number is
outside it and known as such; a NaN is outside it too but only fails every comparison; any two other
numbers are in one of three relations, and texts that are read as equal numbers have the same ones. -/
theorem comparison_orders_texts :
    (∀ a b, greaterThan a b = lowerThan b a) ∧
    ((∀ a, greaterThan a a ≠ .holds) ∧
      (∀ a b, greaterThan a b = .holds → greaterThan b a ≠ .holds) ∧
      ∀ a b c, greaterThan a b = .holds → greaterThan b c = .holds → greaterThan a c = .holds) ∧
    (∀ a b, (greaterThan a b = .notNumeric ↔ isNumeric a = false ∨ isNumeric b = false) ∧
      (lowerThan a b = .notNumeric ↔ isNumeric a = false ∨ isNumeric b = false)) ∧
    (∀ a b, ReadsNumber a → ReadsNumber b →
      ExactlyOne (greaterThan a b = .holds) (lowerThan a b = .holds)
        (greaterThan a b = .violated ∧ lowerThan a b = .violated ∧ ReadEqual a b)) ∧
    (Equivalence fun a b : { text // ReadsNumber text } => ReadEqual a b) ∧
    (∀ a b c, ReadEqual a b →
      greaterThan a c = greaterThan b c ∧ greaterThan c a = greaterThan c b ∧
      lowerThan a c = lowerThan b c ∧ lowerThan c a = lowerThan c b) ∧
    (∀ a b s t hs ht, ofText? a = some (.number s 0 hs) → ofText? b = some (.number t 0 ht) →
      ReadEqual a b) ∧
    (∀ a b x y, ofText? a = some x → ofText? b = some y → x = .nan ∨ y = .nan →
      greaterThan a b = .violated ∧ lowerThan a b = .violated) := by
  have hlower := lowerThan_eq_greaterThan
  refine ⟨?_, ⟨greaterThan_irrefl, ?_, ?_⟩, ?_, ?_, ⟨?_, ?_, ?_⟩, ?_, ?_, ?_⟩
  · intro a b
    exact (hlower b a).symm
  · intro a b hab hba
    exact greaterThan_irrefl a (greaterThan_trans hab hba)
  · intro a b c hab hbc
    exact greaterThan_trans hab hbc
  · intro a b
    rw [hlower]
    exact ⟨greaterThan_notNumeric_iff a b, (greaterThan_notNumeric_iff b a).trans or_comm⟩
  · intro a b ha hb
    rw [hlower]
    exact greaterThan_trichotomy ha hb
  · intro a
    exact .refl a.2
  · intro a b h
    exact h.symm
  · intro a b c hab hbc
    exact hab.trans hbc
  · intro a b c h
    rw [hlower, hlower, hlower, hlower]
    exact ⟨h.greaterThan_left c, h.greaterThan_right c, h.greaterThan_right c, h.greaterThan_left c⟩
  · intro a b s t hs ht ha hb
    exact .of_zeros ha hb
  · intro a b x y ha hb h
    rw [hlower]
    exact ⟨greaterThan_of_nan ha hb h, greaterThan_of_nan hb ha h.symm⟩

end FormRules.Number
