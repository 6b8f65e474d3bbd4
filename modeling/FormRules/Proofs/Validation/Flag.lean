import FormRules.Proofs.Validation.Gating
import FormRules.Proofs.Validation.Text
import Mathlib.Data.Set.Basic

namespace FormRules

variable {γ σ : Type} [Gated γ σ]

/-- The answers of the rules' gates when these are asked one after the other; a rule without a gate
has none. -/
def gateAnswers (rules : List (Rule γ)) : Traced γ σ (List (Option Bool)) := rules.mapM askGate

theorem gateAnswers_cons_value (rule : Rule γ) (rules : List (Rule γ)) (state : σ) :
    (gateAnswers (rule :: rules) state).value =
      (askGate rule state).value :: (gateAnswers rules (askGate rule state).state).value := by
  rw [gateAnswers, List.mapM_cons]
  rfl

/-- A validation asks what the rule's gate alone would ask. -/
theorem validate_sameGating_askGate (field : String) (value : Value) (rule : Rule γ) (state : σ) :
    SameGating (validate field value rule state) (askGate rule state) :=
  ⟨validate_calls field value rule state, validate_state field value rule state⟩

theorem validateAll_sameGating_gateAnswers (field : String) (value : Value) (rules : List (Rule γ))
    (state : σ) : SameGating (validateAll field value rules state) (gateAnswers rules state) := by
  have hruns : List.Forall₂ SameGating (singles field value rules state)
      (Traced.traces askGate rules state) := by
    induction rules generalizing state with
    | nil => exact .nil
    | cons rule rules ih =>
      have hfirst := validate_sameGating_askGate field value rule state
      refine .cons hfirst ?_
      rw [← hfirst.state]
      exact ih (validate field value rule state).state
  obtain ⟨hcalls, hstate⟩ := SameGating.forall₂ hruns state
  constructor
  · rw [validateAll_calls, hcalls, gateAnswers, Traced.mapM_apply]
    exact (List.filterMap_flatMap ..).symm
  · rw [validateAll_state, hstate, gateAnswers, Traced.mapM_apply]

/-- The outcomes of a batch in terms of the gates' answers: the value decides on the rules that they
let through. -/
theorem outcomes_value (field : String) (value : Value) (rules : List (Rule γ)) (state : σ) :
    (outcomes field value rules state).value =
      (rules.zip (gateAnswers rules state).value).map fun (rule, answer) =>
        if answer.getD true then failureOn value rule else none := by
  induction rules generalizing state with
  | nil => rfl
  | cons rule rules ih =>
    have hfirst : (validate field value rule state).value =
        if (askGate rule state).value.getD true then failureOn value rule else none :=
      validate_value field value rule state
    have hcons : (outcomes field value (rule :: rules) state).value =
        (validate field value rule state).value ::
          (outcomes field value rules (validate field value rule state).state).value := by
      rw [outcomes_cons]
      rfl
    rw [hcons, gateAnswers_cons_value, List.zip_cons_cons, List.map_cons, hfirst, validate_state, ih]

/-- The rule stands at this place and is evaluated: it has no gate, or its gate answered true. -/
def EnabledAt (rules : List (Rule γ)) (state : σ) (place : Nat) (rule : Rule γ) : Prop :=
  ∃ answer, rules[place]? = some rule ∧ (gateAnswers rules state).value[place]? = some answer ∧
    answer.getD true = true

/-- The places at which a batch has a failure. -/
def failingPlaces (field : String) (value : Value) (rules : List (Rule γ)) (state : σ) : Set Nat :=
  {place | ∃ failure, (outcomes field value rules state).value[place]? = some (some failure)}

theorem mem_failingPlaces {field : String} {value : Value} {rules : List (Rule γ)} {state : σ}
    {place : Nat} :
    place ∈ failingPlaces field value rules state ↔
      ∃ rule, EnabledAt rules state place rule ∧ failureOn value rule ≠ none := by
  rw [failingPlaces, Set.mem_ofPred_eq, outcomes_value]
  simp only [List.getElem?_map, Option.map_eq_some_iff, List.getElem?_zip_eq_some]
  constructor
  · intro h
    obtain ⟨failure, ⟨rule, answer⟩, ⟨hrule, hanswer⟩, houtcome⟩ := h
    by_cases hopen : answer.getD true = true
    · rw [if_pos hopen] at houtcome
      have hfails : failureOn value rule ≠ none := Option.ne_none_iff_exists'.mpr ⟨failure, houtcome⟩
      exact ⟨rule, ⟨answer, hrule, hanswer, hopen⟩, hfails⟩
    · rw [if_neg hopen] at houtcome
      cases houtcome
  · intro h
    obtain ⟨rule, ⟨answer, hrule, hanswer, hopen⟩, hfails⟩ := h
    obtain ⟨failure, hfailure⟩ := Option.ne_none_iff_exists'.mp hfails
    exact ⟨failure, (rule, answer), ⟨hrule, hanswer⟩, (if_pos hopen).trans hfailure⟩

theorem EnabledAt.unique {rules : List (Rule γ)} {state : σ} {place : Nat} {rule rule' : Rule γ}
    (h : EnabledAt rules state place rule) (h' : EnabledAt rules state place rule') :
    rule = rule' := by
  obtain ⟨-, hrule, -⟩ := h
  obtain ⟨-, hrule', -⟩ := h'
  exact Option.some.inj (hrule.symm.trans hrule')

/-- A false flag fails wherever a rule is evaluated. -/
theorem failingPlaces_false (field : String) (rules : List (Rule γ)) (state : σ) :
    failingPlaces field (.flag false) rules state =
      {place | ∃ rule, EnabledAt rules state place rule} := by
  ext place
  rw [mem_failingPlaces, Set.mem_ofPred_eq]
  exact exists_congr fun rule => and_iff_left (Option.some_ne_none rule)

theorem failingPlaces_subset (field : String) (value : Value) (rules : List (Rule γ)) (state : σ) :
    failingPlaces field value rules state ⊆ failingPlaces field (.flag false) rules state := by
  intro place hplace
  obtain ⟨rule, henabled, -⟩ := mem_failingPlaces.mp hplace
  rw [failingPlaces_false]
  exact ⟨rule, henabled⟩

/-- Of the places where a false flag fails, a text passes those of the rules that accept it. -/
theorem failingPlaces_sdiff (field text : String) (rules : List (Rule γ)) (state : σ) :
    failingPlaces field (.flag false) rules state \ failingPlaces field (.text text) rules state =
      {place | ∃ rule, EnabledAt rules state place rule ∧ rule.kind.Accepts text} := by
  ext place
  rw [Set.mem_sdiff, failingPlaces_false, Set.mem_ofPred_eq, Set.mem_ofPred_eq, mem_failingPlaces]
  constructor
  · intro h
    obtain ⟨⟨rule, henabled⟩, hpasses⟩ := h
    refine ⟨rule, henabled, (failureOnText_eq_none_iff text rule).mp ?_⟩
    by_contra hfails
    exact hpasses ⟨rule, henabled, hfails⟩
  · intro h
    obtain ⟨rule, henabled, haccepts⟩ := h
    refine ⟨⟨rule, henabled⟩, ?_⟩
    intro hplace
    obtain ⟨rule', henabled', hfails⟩ := hplace
    have hsame : rule = rule' := henabled.unique henabled'
    rw [← hsame] at hfails
    exact hfails ((failureOnText_eq_none_iff text rule).mpr haccepts)

/-- The failures of a false flag are the rules that the gates let through. -/
theorem validateAll_false (field : String) (rules : List (Rule γ)) (state : σ) :
    (validateAll field (.flag false) rules state).value =
      (rules.zip (gateAnswers rules state).value).filterMap fun (rule, answer) =>
        if answer.getD true then some rule else none := by
  change (outcomes field (.flag false) rules state).value.filterMap id = _
  rw [outcomes_value, List.filterMap_map]
  rfl

theorem validateAll_true (field : String) (rules : List (Rule γ)) (state : σ) :
    (validateAll field (.flag true) rules state).value = [] := by
  apply List.eq_nil_iff_forall_not_mem.mpr
  intro failure hfailure
  obtain ⟨rule, -, hfails⟩ := failureOn_of_validateAll hfailure
  cases hfails

/-- A false flag fails every rule that is evaluated, as it stands; a true flag fails none, yet asks
the same gates. A text lies between the two: it fails where a false flag does, but for the rules that
accept it. -/
theorem flags_bound_texts (field text : String) (rules : List (Rule γ)) (state : σ) :
    let asked := gateAnswers rules state
    let onFalse := validateAll field (.flag false) rules state
    let onTrue := validateAll field (.flag true) rules state
    let onText := validateAll field (.text text) rules state
    let failing := fun value => failingPlaces field value rules state
    onFalse.value = ((rules.zip asked.value).filterMap fun (rule, answer) =>
        if answer.getD true then some rule else none) ∧
    onTrue.value = [] ∧
    (SameGating onFalse asked ∧ SameGating onTrue onFalse ∧ SameGating onText onFalse) ∧
    failing (.flag false) = {place | ∃ rule, EnabledAt rules state place rule} ∧
    failing (.text text) ⊆ failing (.flag false) ∧
    failing (.flag false) \ failing (.text text) =
      {place | ∃ rule, EnabledAt rules state place rule ∧ rule.kind.Accepts text} := by
  intro asked onFalse onTrue onText failing
  have hasked : SameGating onFalse asked :=
    validateAll_sameGating_gateAnswers field (.flag false) rules state
  have htrue : SameGating onTrue onFalse :=
    validateAll_sameGating field field (.flag true) (.flag false) state rfl
  have htext : SameGating onText onFalse :=
    validateAll_sameGating field field (.text text) (.flag false) state rfl
  exact ⟨validateAll_false field rules state, validateAll_true field rules state,
    ⟨hasked, htrue, htext⟩, failingPlaces_false field rules state,
    failingPlaces_subset field (.text text) rules state, failingPlaces_sdiff field text rules state⟩

end FormRules
