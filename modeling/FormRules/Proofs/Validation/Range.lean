import FormRules.Proofs.Validation.Batch
import FormRules.Proofs.Validation.Text

namespace FormRules

variable {γ σ : Type}

/-- Each bound fails with the code of the failure that a rule of that one bound would have. -/
theorem failedBounds_eq_codes (value low high : String) :
    failedBounds value low high =
      ([failureOnText value (Rule.greater low : Rule γ),
        failureOnText value (Rule.lower high : Rule γ)].filterMap id).map Rule.code := by
  change _ = ([afterComparison _ (Number.greaterThan value low),
    afterComparison _ (Number.lowerThan value high)].filterMap id).map Rule.code
  rw [failedBounds]
  cases Number.greaterThan value low <;> cases Number.lowerThan value high <;> rfl

variable [Gated γ σ]

/-- A rule without a gate is evaluated in every state. -/
theorem validate_ungated (field : String) (value : Value) (kind : Kind) (state : σ) :
    (validate field value (Rule.ofKind kind : Rule γ) state).value =
      failureOn value (Rule.ofKind kind) := validate_value_of_enabled rfl

/-- The two bounds of a range as a batch of their own. -/
theorem validateAll_bounds (field value low high : String) (state : σ) :
    (validateAll field (.text value) [Rule.greater low, Rule.lower high] state :
        Trace γ σ _).value.map Rule.code = failedBounds value low high := by
  rw [failedBounds_eq_codes (γ := γ), validateAll_apply]
  change List.map _ ([(validate _ _ _ _).value, (validate _ _ _ _).value].filterMap id) = _
  rw [Rule.greater, Rule.lower, validate_ungated, validate_ungated]
  rfl

/-- An enabled range is its two bounds. It fails as itself, asks no gate but its own and tells once,
in one event, which of the bounds failed. -/
theorem validate_range (field value low high : String) (message : Option String)
    (gate : Option γ) (state other : σ) (hopen : ∀ g ∈ gate, (Gated.ask g state).1 = true) :
    let rule : Rule γ := { kind := .between low high, message, gate }
    let run := validate field (.text value) rule state
    let lower := validate field (.text value) (Rule.greater low : Rule γ) other
    let upper := validate field (.text value) (Rule.lower high : Rule γ) other
    let bounds : Trace γ σ _ :=
      validateAll field (.text value) [Rule.greater low, Rule.lower high] other
    (run.value = none ↔ lower.value = none ∧ upper.value = none) ∧
    (run.value ≠ none → run.value = some rule) ∧
    (run.calls = gate.toList.map fun g => (g, true)) ∧
    run.events =
      (if run.value = none then [] else [.boundFailed field (bounds.value.map Rule.code)]) ++
        [.ruleEvaluated field rule.code run.value.isNone] := by
  intro rule run lower upper bounds
  have henabled : enabledIn state rule = true := (enabledIn_iff state rule).mpr hopen
  have hrun : run.value = failureOnText value rule :=
    (validate_value ..).trans (if_pos henabled)
  have haccepts := failureOnText_eq_none_iff value rule
  refine ⟨?_, ?_, ?_, ?_⟩
  · have hlower : lower.value = failureOnText value (Rule.greater low) := validate_ungated ..
    have hupper : upper.value = failureOnText value (Rule.lower high) := validate_ungated ..
    rw [hrun, haccepts, hlower, hupper, failureOnText_eq_none_iff, failureOnText_eq_none_iff]
    exact Kind.between_accepts_iff low high value
  · intro hfails
    rw [hrun, ne_eq, haccepts] at hfails
    rw [hrun]
    apply failureOnText_of_rejected hfails
    intro hread
    cases hread
  · have hcalls : run.calls = gate.toList.map fun g => (g, (Gated.ask g state).1) :=
      (validate_calls ..).trans (askGate_calls rule state)
    rw [hcalls]
    cases gate with
    | none => rfl
    | some g => rw [Option.toList_some, List.map_singleton, hopen g rfl, List.map_singleton]
  · have hbounds : bounds.value.map Rule.code = failedBounds value low high :=
      validateAll_bounds field value low high other
    have hempty : (failedBounds value low high).isEmpty = true ↔ failureOnText value rule = none :=
      (failedBounds_isEmpty_iff value low high).trans haccepts.symm
    have hevents : run.events = boundEvents field (.text value) rule ++
        [.ruleEvaluated field rule.code (failureOnText value rule).isNone] :=
      (validate_events ..).trans (if_pos henabled)
    rw [hevents, hrun, hbounds]
    congr 1
    by_cases hnone : failureOnText value rule = none
    · rw [if_pos hnone]
      exact if_pos (hempty.mpr hnone)
    · rw [if_neg hnone]
      exact if_neg (mt hempty.mp hnone)

/-- A number against a bound that is none fails as a range, behind a gate that closes after it. -/
theorem validate_range_unreadable_bound :
    let rule : Rule Gate :=
      ⟨.between "4" "six", some "No such gear", some (.flip "gears")⟩
    let state : GateState := { flags := fun _ => true }
    let run := validate "Gear Number" (.text "5") rule state
    (∀ g ∈ rule.gate, (Gated.ask g state).1 = true) ∧
      run.value = some rule ∧ run.calls = [(.flip "gears", true)] ∧
      run.events = [.boundFailed "Gear Number" ["is_numeric"],
        .ruleEvaluated "Gear Number" "between" false] := by
  intro rule state run
  have hopen : ∀ g ∈ rule.gate, (Gated.ask g state).1 = true := by
    intro g hg
    cases hg
    rfl
  have hfails : run.value ≠ none := by decide +kernel
  obtain ⟨-, hrule, hcalls, hevents⟩ :=
    validate_range "Gear Number" "5" "4" "six" rule.message rule.gate state state hopen
  refine ⟨hopen, hrule hfails, hcalls, hevents.trans ?_⟩
  decide +kernel

end FormRules
