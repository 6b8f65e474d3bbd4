import FormRules.Proofs.Number.Order
import FormRules.Proofs.Validation.Single

namespace FormRules

open Number Text
open Binary64 (ofText? Less)

/-- What a text must be for a kind to accept it. Every text is accepted where truth is asked for. -/
inductive Kind.Accepts : Kind → String → Prop where
  | isTrue {value : String} : Accepts .isTrue value
  | nonEmpty {value : String} : value ≠ "" → Accepts .nonEmpty value
  | isNumeric {value : String} {x : Binary64} : ofText? value = some x → Accepts .isNumeric value
  | contains {value needle : String} :
    containsIgnoreCase value needle = true → Accepts (.contains needle) value
  | greater {value threshold : String} {x t : Binary64} :
    ofText? value = some x → ofText? threshold = some t → Less t x →
      Accepts (.greater threshold) value
  | lower {value threshold : String} {x t : Binary64} :
    ofText? value = some x → ofText? threshold = some t → Less x t →
      Accepts (.lower threshold) value
  | between {value low high : String} {x a b : Binary64} :
    ofText? value = some x → ofText? low = some a → ofText? high = some b →
      Less a x → Less x b → Accepts (.between low high) value

/-- A kind with one threshold that cannot be compared with the text, because one of the two is
not a number. -/
inductive Kind.Unreadable : Kind → String → Prop where
  | greater {value threshold : String} :
    ofText? value = none ∨ ofText? threshold = none → Unreadable (.greater threshold) value
  | lower {value threshold : String} :
    ofText? value = none ∨ ofText? threshold = none → Unreadable (.lower threshold) value

theorem isNonEmpty_iff (value : String) :
    isNonEmpty value = true ↔ Kind.nonEmpty.Accepts value := by
  constructor
  · intro h
    exact .nonEmpty (by simpa [isNonEmpty] using h)
  · intro h
    cases h with
    | nonEmpty hne => simpa [isNonEmpty] using hne

theorem isNumeric_iff (value : String) :
    Number.isNumeric value = true ↔ Kind.isNumeric.Accepts value := by
  rw [Number.isNumeric, Option.isSome_iff_exists]
  constructor
  · rintro ⟨x, hx⟩
    exact .isNumeric hx
  · intro h
    cases h with
    | isNumeric hx => exact ⟨_, hx⟩

theorem containsIgnoreCase_iff_accepts (value needle : String) :
    containsIgnoreCase value needle = true ↔ (Kind.contains needle).Accepts value := by
  constructor
  · exact .contains
  · intro h
    cases h with
    | contains hfound => exact hfound

theorem greaterThan_holds_iff (value threshold : String) :
    greaterThan value threshold = .holds ↔ (Kind.greater threshold).Accepts value := by
  rw [greaterThan, compareBy_holds_iff]
  constructor
  · rintro ⟨x, t, hx, ht, hless⟩
    exact .greater hx ht ((Binary64.lessThan_iff_less t x).mp hless)
  · intro h
    cases h with
    | greater hx ht hless => exact ⟨_, _, hx, ht, (Binary64.lessThan_iff_less _ _).mpr hless⟩

theorem lowerThan_holds_iff (value threshold : String) :
    lowerThan value threshold = .holds ↔ (Kind.lower threshold).Accepts value := by
  rw [lowerThan, compareBy_holds_iff]
  constructor
  · rintro ⟨x, t, hx, ht, hless⟩
    exact .lower hx ht ((Binary64.lessThan_iff_less x t).mp hless)
  · intro h
    cases h with
    | lower hx ht hless => exact ⟨_, _, hx, ht, (Binary64.lessThan_iff_less _ _).mpr hless⟩

/-- A range is its two bounds; that both read the same value makes the two readings one. -/
theorem Kind.between_accepts_iff (low high value : String) :
    (Kind.between low high).Accepts value ↔
      (Kind.greater low).Accepts value ∧ (Kind.lower high).Accepts value := by
  constructor
  · intro h
    cases h with
    | between hx ha hb hax hxb => exact ⟨.greater hx ha hax, .lower hx hb hxb⟩
  · rintro ⟨hlow, hhigh⟩
    cases hlow with
    | greater hx ha hax =>
      cases hhigh with
      | lower hx' hb hxb =>
        have heq := Option.some.inj (hx.symm.trans hx')
        subst heq
        exact .between hx ha hb hax hxb

theorem boundCode?_eq_none_iff (bound : Kind) (comparison : Comparison) :
    boundCode? bound comparison = none ↔ comparison = .holds := by
  cases comparison <;> simp [boundCode?]

theorem failedBounds_isEmpty_iff (value low high : String) :
    (failedBounds value low high).isEmpty = true ↔ (Kind.between low high).Accepts value := by
  rw [Kind.between_accepts_iff, ← greaterThan_holds_iff, ← lowerThan_holds_iff,
    ← boundCode?_eq_none_iff (.greater low), ← boundCode?_eq_none_iff (.lower high), failedBounds]
  cases boundCode? (.greater low) (greaterThan value low) <;>
    cases boundCode? (.lower high) (lowerThan value high) <;> simp

variable {γ σ : Type}

theorem failUnless_eq_none_iff (passed : Bool) (rule : Rule γ) :
    failUnless passed rule = none ↔ passed = true := by
  cases passed <;> simp [failUnless]

theorem failUnless_eq_some {passed : Bool} (rule : Rule γ) (h : ¬ passed = true) :
    failUnless passed rule = some rule := if_neg h

theorem afterComparison_eq_none_iff (rule : Rule γ) (comparison : Comparison) :
    afterComparison rule comparison = none ↔ comparison = .holds := by
  cases comparison <;> simp [afterComparison]

theorem failureOnText_eq_none_iff (value : String) (rule : Rule γ) :
    failureOnText value rule = none ↔ rule.kind.Accepts value := by
  obtain ⟨kind, message, gate⟩ := rule
  cases kind with
  | isTrue => exact ⟨fun _ => .isTrue, fun _ => rfl⟩
  | nonEmpty => exact (failUnless_eq_none_iff _ _).trans (isNonEmpty_iff value)
  | isNumeric => exact (failUnless_eq_none_iff _ _).trans (isNumeric_iff value)
  | contains needle =>
    exact (failUnless_eq_none_iff _ _).trans (containsIgnoreCase_iff_accepts value needle)
  | greater threshold =>
    exact (afterComparison_eq_none_iff _ _).trans (greaterThan_holds_iff value threshold)
  | lower threshold =>
    exact (afterComparison_eq_none_iff _ _).trans (lowerThan_holds_iff value threshold)
  | between low high =>
    exact (failUnless_eq_none_iff _ _).trans (failedBounds_isEmpty_iff value low high)

theorem failureOnText_of_unreadable {value : String} {rule : Rule γ}
    (h : rule.kind.Unreadable value) : failureOnText value rule = some .isNumeric := by
  obtain ⟨kind, message, gate⟩ := rule
  cases h with
  | @greater _ threshold hread =>
    have hcomparison : greaterThan value threshold = .notNumeric :=
      compareBy_notNumeric_iff.mpr hread
    simp only [failureOnText, hcomparison, afterComparison]
  | @lower _ threshold hread =>
    have hcomparison : lowerThan value threshold = .notNumeric :=
      compareBy_notNumeric_iff.mpr hread
    simp only [failureOnText, hcomparison, afterComparison]

theorem afterComparison_of_violated {rule : Rule γ} {comparison : Comparison}
    (hholds : comparison ≠ .holds) (hread : comparison ≠ .notNumeric) :
    afterComparison rule comparison = some rule := by
  cases comparison with
  | holds => exact absurd rfl hholds
  | violated => rfl
  | notNumeric => exact absurd rfl hread

theorem failureOnText_of_rejected {value : String} {rule : Rule γ}
    (hrejected : ¬ rule.kind.Accepts value) (hread : ¬ rule.kind.Unreadable value) :
    failureOnText value rule = some rule := by
  obtain ⟨kind, message, gate⟩ := rule
  cases kind with
  | isTrue => exact absurd .isTrue hrejected
  | nonEmpty => exact failUnless_eq_some _ (mt (isNonEmpty_iff value).mp hrejected)
  | isNumeric => exact failUnless_eq_some _ (mt (isNumeric_iff value).mp hrejected)
  | contains needle =>
    exact failUnless_eq_some _ (mt (containsIgnoreCase_iff_accepts value needle).mp hrejected)
  | greater threshold =>
    apply afterComparison_of_violated
    · exact mt (greaterThan_holds_iff value threshold).mp hrejected
    · exact fun h => hread (.greater (compareBy_notNumeric_iff.mp h))
  | lower threshold =>
    apply afterComparison_of_violated
    · exact mt (lowerThan_holds_iff value threshold).mp hrejected
    · exact fun h => hread (.lower (compareBy_notNumeric_iff.mp h))
  | between low high =>
    exact failUnless_eq_some _ (mt (failedBounds_isEmpty_iff value low high).mp hrejected)

/-- A failure is the rule itself unless a threshold cannot be compared with. -/
theorem failure_eq_rule {value : String} {rule failure : Rule γ}
    (hread : ¬ rule.kind.Unreadable value) (h : failureOnText value rule = some failure) :
    failure = rule := by
  have hrejected : ¬ rule.kind.Accepts value := by
    intro haccepts
    rw [(failureOnText_eq_none_iff value rule).mpr haccepts] at h
    cases h
  rw [failureOnText_of_rejected hrejected hread] at h
  exact (Option.some.inj h).symm

/-- A failure is the rule that was checked or the bare numeric check that stands for it. -/
theorem failureOn_cases {value : Value} {rule failure : Rule γ}
    (h : failureOn value rule = some failure) : failure = rule ∨ failure = .isNumeric := by
  cases value with
  | flag value =>
    cases value with
    | true => cases h
    | false => exact .inl (Option.some.inj h).symm
  | text value =>
    change failureOnText value rule = some failure at h
    by_cases hread : rule.kind.Unreadable value
    · rw [failureOnText_of_unreadable hread] at h
      exact .inr (Option.some.inj h).symm
    · exact .inl (failure_eq_rule hread h)

/-- A text passes a rule whose gate is closed whatever it is, and one whose gate is open exactly when
it is accepted. A failure is the rule as it was given, but for a threshold that cannot be compared
with: that is reported as a bare numeric check. -/
theorem validate_text_outcome [Gated γ σ] (field value : String) (rule : Rule γ) (state : σ) :
    let outcome := (validate field (.text value) rule state).value
    ((∃ gate ∈ rule.gate, (Gated.ask gate state).1 = false) → outcome = none) ∧
    ((∀ gate ∈ rule.gate, (Gated.ask gate state).1 = true) →
      (outcome = none ↔ rule.kind.Accepts value) ∧
      (rule.kind.Unreadable value →
        outcome = some { kind := .isNumeric, message := none, gate := none }) ∧
      (¬ rule.kind.Accepts value → ¬ rule.kind.Unreadable value → outcome = some rule)) := by
  intro outcome
  have houtcome : outcome = if enabledIn state rule then failureOnText value rule else none :=
    validate_value field (.text value) rule state
  rw [houtcome]
  constructor
  · rintro ⟨gate, hgate, hclosed⟩
    apply if_neg
    intro henabled
    rw [(enabledIn_iff state rule).mp henabled gate hgate] at hclosed
    cases hclosed
  · intro hopen
    rw [if_pos ((enabledIn_iff state rule).mpr hopen)]
    exact ⟨failureOnText_eq_none_iff value rule, failureOnText_of_unreadable,
      failureOnText_of_rejected⟩

end FormRules
