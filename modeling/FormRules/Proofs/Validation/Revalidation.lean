import FormRules.Proofs.Validation.Batch
import FormRules.Proofs.Validation.Text

namespace FormRules

variable {γ σ : Type}

/-- The text that a kind compares values with. -/
def Kind.threshold? : Kind → Option String
  | greater threshold | lower threshold => some threshold
  | _ => none

/-- The value is a number, and the threshold that it is to be compared with is none. -/
def Kind.badThreshold (kind : Kind) : Value → Bool
  | .text value => Number.isNumeric value && kind.threshold?.any (!Number.isNumeric ·)
  | .flag _ => false

theorem Kind.unreadable_iff (kind : Kind) (value : String) :
    kind.Unreadable value ↔ ∃ threshold, kind.threshold? = some threshold ∧
      (Number.isNumeric value = false ∨ Number.isNumeric threshold = false) := by
  simp only [Number.isNumeric, Option.isSome_eq_false_iff, Option.isNone_iff_eq_none]
  constructor
  · intro h
    cases h with
    | greater hread => exact ⟨_, rfl, hread⟩
    | lower hread => exact ⟨_, rfl, hread⟩
  · rintro ⟨threshold, hthreshold, hread⟩
    cases kind with
    | greater _ =>
      cases hthreshold
      exact .greater hread
    | lower _ =>
      cases hthreshold
      exact .lower hread
    | _ => cases hthreshold

/-- Of the thresholds that cannot be compared with, the bad ones are those that a number meets. -/
theorem Kind.badThreshold_text (kind : Kind) (value : String) :
    kind.badThreshold (.text value) = true ↔
      Number.isNumeric value = true ∧ kind.Unreadable value := by
  rw [unreadable_iff, badThreshold, Bool.and_eq_true, Option.any_eq_true]
  refine and_congr_right fun hvalue => ?_
  simp only [hvalue, Bool.not_eq_true', Bool.true_eq_false, false_or]

/-- A failure fails again unless it stands for a bad threshold: the numeric check that it was
replaced by does not look at the threshold. -/
theorem failureOn_again {value : Value} {rule failure : Rule γ}
    (h : failureOn value rule = some failure) :
    failureOn value failure = if rule.kind.badThreshold value then none else some failure := by
  cases value with
  | flag value =>
    cases value with
    | true => cases h
    | false => rfl
  | text value =>
    change failureOnText value rule = some failure at h
    by_cases hread : rule.kind.Unreadable value
    · rw [failureOnText_of_unreadable hread] at h
      obtain rfl := Option.some.inj h
      have hbad : rule.kind.badThreshold (.text value) = Number.isNumeric value := by
        rw [Bool.eq_iff_iff, Kind.badThreshold_text]
        exact and_iff_left hread
      rw [hbad]
      rfl
    · have hgood : ¬ rule.kind.badThreshold (.text value) = true := by
        rw [Kind.badThreshold_text]
        exact fun hbad => hread hbad.2
      rw [if_neg hgood]
      obtain rfl := failure_eq_rule hread h
      exact h

theorem failureOn_of_badThreshold {value : Value} {rule : Rule γ}
    (h : rule.kind.badThreshold value = true) : failureOn value rule = some .isNumeric := by
  cases value with
  | flag value => cases h
  | text value => exact failureOnText_of_unreadable ((rule.kind.badThreshold_text value).mp h).2

/-- Among no thresholds but numbers, and against no value but a number, there is no bad one. -/
theorem badThreshold_false_iff (value : String) (p : Rule γ → Prop) (rules : List (Rule γ)) :
    (∀ rule ∈ rules, p rule → rule.kind.badThreshold (.text value) = false) ↔
      Number.isNumeric value = false ∨
        ∀ rule ∈ rules, p rule → ∀ threshold ∈ rule.kind.threshold?,
          Number.isNumeric threshold = true := by
  cases hvalue : Number.isNumeric value with
  | false => simp [Kind.badThreshold, hvalue]
  | true => simp [Kind.badThreshold, hvalue, Option.any_eq_false]

/-- What failed has no bad threshold any more. -/
theorem badThreshold_failure {value : Value} {rule failure : Rule γ}
    (h : failureOn value rule = some failure) : failure.kind.badThreshold value = false := by
  rcases failureOn_cases h with hsame | hbare
  · rw [hsame] at h
    have hagain := failureOn_again h
    rw [h] at hagain
    rw [hsame]
    by_contra hbad
    rw [if_pos (Bool.eq_true_of_not_eq_false hbad)] at hagain
    cases hagain
  · rw [hbare]
    cases value with
    | flag value => rfl
    | text value => exact Bool.and_false _

variable [Gated γ σ]

/-- The rule's gate, if it has one, always gives the same answer. -/
def Rule.Steady (σ : Type) [Gated γ σ] (rule : Rule γ) : Prop :=
  ∀ gate ∈ rule.gate, ∃ answer, ∀ state : σ, (Gated.ask gate state).1 = answer

theorem Rule.steady_of_constant {rule : Rule Gate}
    (h : ∀ gate ∈ rule.gate, ∃ answer, gate = .constant answer) : rule.Steady GateState := by
  intro gate hgate
  obtain ⟨answer, rfl⟩ := h gate hgate
  exact ⟨answer, fun _ => rfl⟩

theorem Rule.Steady.enabledIn_eq {rule : Rule γ} (h : rule.Steady σ) (state state' : σ) :
    enabledIn state rule = enabledIn state' rule := by
  rw [Bool.eq_iff_iff, enabledIn_iff, enabledIn_iff]
  refine forall₂_congr fun gate hgate => ?_
  obtain ⟨answer, hanswer⟩ := h gate hgate
  rw [hanswer state, hanswer state']

/-- Under steady gates a batch has the outcomes that its rules have in any one state. -/
theorem validateAll_steady (field : String) (value : Value) {rules : List (Rule γ)}
    (h : ∀ rule ∈ rules, rule.Steady σ) (state fixed : σ) :
    (validateAll field value rules state).value =
      rules.filterMap fun rule => (validate field value rule fixed).value := by
  induction rules generalizing state with
  | nil => rfl
  | cons rule rules ih =>
    have hfirst : (validate field value rule state).value =
        (validate field value rule fixed).value := by
      rw [validate_value, validate_value,
        (h rule List.mem_cons_self).enabledIn_eq state fixed]
    rw [validateAll_cons_value, List.filterMap_cons, hfirst,
      ih fun rule hrule => h rule (List.mem_cons_of_mem _ hrule)]
    cases (validate field value rule fixed).value <;> rfl

/-- A failure keeps its rule's gate or has none, so it is enabled where the rule was. -/
theorem failure_enabled {value : Value} {rule failure : Rule γ} {state : σ}
    (h : failureOn value rule = some failure) (henabled : enabledIn state rule = true) :
    enabledIn state failure = true := by
  rcases failureOn_cases h with hsame | hbare
  · rw [hsame]
    exact henabled
  · rw [hbare]
    rfl

/-- What became of a rule comes out again when it is validated itself, unless the rule's threshold
was bad. -/
theorem validate_again (field : String) (value : Value) (rule : Rule γ) (state : σ) :
    ((validate field value rule state).value.bind fun failure =>
        (validate field value failure state).value) =
      if rule.kind.badThreshold value then none else (validate field value rule state).value := by
  rw [validate_value]
  by_cases henabled : enabledIn state rule = true
  · rw [if_pos henabled]
    cases h : failureOn value rule with
    | none => exact (ite_self _).symm
    | some failure =>
      rw [Option.bind_some, validate_value, if_pos (failure_enabled h henabled)]
      exact failureOn_again h
  · rw [if_neg henabled]
    exact (ite_self _).symm

theorem failures_steady (field : String) (value : Value) {rules : List (Rule γ)}
    (h : ∀ rule ∈ rules, rule.Steady σ) (state : σ) :
    ∀ failure ∈ (validateAll field value rules state).value, failure.Steady σ := by
  intro failure hfailure
  obtain ⟨rule, hrule, hfails⟩ := failureOn_of_validateAll hfailure
  rcases failureOn_cases hfails with hsame | hbare
  · rw [hsame]
    exact h rule hrule
  · rw [hbare]
    intro gate hgate
    cases hgate

/-- Validating the failures of a batch has the failures of the rules whose threshold is not bad. -/
theorem validateAll_failures (field : String) (value : Value) {rules : List (Rule γ)}
    (h : ∀ rule ∈ rules, rule.Steady σ) (state state' fixed : σ) :
    (validateAll field value (validateAll field value rules state).value state').value =
      (rules.filter fun rule => !rule.kind.badThreshold value).filterMap fun rule =>
        (validate field value rule fixed).value := by
  rw [validateAll_steady field value (failures_steady field value h state) state' fixed,
    validateAll_steady field value h state fixed, List.filterMap_filterMap, List.filterMap_filter]
  apply List.filterMap_congr
  intro rule _
  rw [validate_again]
  cases rule.kind.badThreshold value <;> rfl

/-- The failures of failures fail yet again. -/
theorem failureOn_of_mem_again {field : String} {value : Value} {rules : List (Rule γ)}
    {state state' : σ} {failure : Rule γ}
    (h : failure ∈
      (validateAll field value (validateAll field value rules state).value state').value) :
    failureOn value failure = some failure := by
  obtain ⟨before, hbefore, hfails⟩ := failureOn_of_validateAll h
  obtain ⟨rule, -, hrule⟩ := failureOn_of_validateAll hbefore
  rw [failureOn_again hfails, badThreshold_failure hrule]
  rfl

/-- Nothing is dropped exactly when no enabled rule has a bad threshold. -/
theorem validateAll_failures_eq_iff (field : String) (value : Value) {rules : List (Rule γ)}
    (h : ∀ rule ∈ rules, rule.Steady σ) (state state' : σ) :
    (validateAll field value (validateAll field value rules state).value state').value =
        (validateAll field value rules state).value ↔
      ∀ rule ∈ rules, enabledIn state rule = true → rule.kind.badThreshold value = false := by
  constructor
  · intro hsame rule hrule henabled
    by_contra hbad
    rw [Bool.not_eq_false] at hbad
    have hbare := failureOn_of_badThreshold hbad
    have hmem : Rule.isNumeric ∈ (validateAll field value rules state).value := by
      rw [validateAll_steady field value h state state]
      refine List.mem_filterMap.mpr ⟨rule, hrule, ?_⟩
      rw [validate_value, if_pos henabled, hbare]
    -- The bare check passes now, yet it is among failures that fail again.
    rw [← hsame] at hmem
    have hpasses := failureOn_again hbare
    rw [failureOn_of_mem_again hmem, if_pos hbad] at hpasses
    cases hpasses
  · intro hgood
    rw [validateAll_failures field value h state state' state,
      validateAll_steady field value h state state, List.filterMap_filter]
    apply List.filterMap_congr
    intro rule hrule
    by_cases henabled : enabledIn state rule = true
    · rw [hgood rule hrule henabled]
      rfl
    · rw [validate_value, if_neg henabled]
      exact ite_self _

/-- Validated again, failures fail again as they are, all but the bare numeric checks that a number
got for want of a threshold; and from then on nothing changes. -/
theorem revalidation_settles (field : String) (value : Value) (rules : List (Rule γ))
    (state state' state'' : σ) (hsteady : ∀ rule ∈ rules, rule.Steady σ) :
    let outcome := fun rule : Rule γ => (validate field value rule state).value
    let first := (validateAll field value rules state).value
    let second := (validateAll field value first state').value
    let third := (validateAll field value second state'').value
    third = second ∧ second.Sublist first ∧
    (first = rules.filterMap outcome ∧
      second = (rules.filter fun rule => !rule.kind.badThreshold value).filterMap outcome ∧
      ∀ rule ∈ rules, rule.kind.badThreshold value = true → enabledIn state rule = true →
        outcome rule = some { kind := .isNumeric, message := none, gate := none }) ∧
    (∀ text, value = .text text →
      (second = first ↔ Number.isNumeric text = false ∨
        ∀ rule ∈ rules, enabledIn state rule = true →
          ∀ threshold ∈ rule.kind.threshold?, Number.isNumeric threshold = true)) ∧
    (∀ flag, value = .flag flag → second = first) := by
  intro outcome first second third
  have hfirst : first = rules.filterMap outcome := validateAll_steady field value hsteady state state
  have hsecond : second =
      (rules.filter fun rule => !rule.kind.badThreshold value).filterMap outcome :=
    validateAll_failures field value hsteady state state' state
  have hsame := validateAll_failures_eq_iff field value hsteady state state'
  refine ⟨?_, ?_, ⟨hfirst, hsecond, ?_⟩, ?_, ?_⟩
  · have hfailures := failures_steady field value hsteady state
    apply (validateAll_failures_eq_iff field value hfailures state' state'').mpr
    intro failure hfailure _
    obtain ⟨rule, -, hfails⟩ := failureOn_of_validateAll hfailure
    exact badThreshold_failure hfails
  · rw [hfirst, hsecond]
    exact List.filter_sublist.filterMap outcome
  · intro rule _ hbad henabled
    exact (validate_value ..).trans ((if_pos henabled).trans (failureOn_of_badThreshold hbad))
  · intro text htext
    subst htext
    exact hsame.trans (badThreshold_false_iff text _ rules)
  · intro flag hflag
    subst hflag
    exact hsame.mpr fun _ _ _ => rfl

/-- A number against a threshold that is none, one that it fails and one behind a closed gate. -/
theorem revalidation_settles_seven :
    let rules : List (Rule Gate) := [((Rule.greater "five").on (.constant true)).withMessage "Low",
      (Rule.lower "4").on (.constant true), (Rule.lower "six").on (.constant false),
      (Rule.contains "x").withMessage ""]
    let state : GateState := {}
    let first := (validateAll "Gear" (.text "7") rules state).value
    let second := (validateAll "Gear" (.text "7") first state).value
    let third := (validateAll "Gear" (.text "7") second state).value
    (∀ rule ∈ rules, rule.Steady GateState) ∧
      first = [.isNumeric, (Rule.lower "4").on (.constant true), (Rule.contains "x").withMessage ""] ∧
      second = [(Rule.lower "4").on (.constant true), (Rule.contains "x").withMessage ""] ∧
      third = second ∧ second.Sublist first := by
  intro rules state first second third
  have hconstant : ∀ rule ∈ rules, ∀ gate ∈ rule.gate, ∃ answer, gate = .constant answer := by
    simp [rules, Rule.on, Rule.withMessage, Rule.greater, Rule.lower, Rule.contains, Rule.ofKind]
  have hsteady : ∀ rule ∈ rules, rule.Steady GateState := by
    intro rule hrule
    exact Rule.steady_of_constant (hconstant rule hrule)
  obtain ⟨hthird, hsublist, ⟨hfirst, hsecond, -⟩, -⟩ :=
    revalidation_settles "Gear" (.text "7") rules state state state hsteady
  refine ⟨hsteady, hfirst.trans ?_, hsecond.trans ?_, hthird, hsublist⟩
  · decide +kernel
  · decide +kernel

end FormRules
