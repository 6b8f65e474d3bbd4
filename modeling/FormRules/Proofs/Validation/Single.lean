import FormRules.Validation
import Mathlib.Tactic.SplitIfs

namespace FormRules

variable {γ σ : Type} [Gated γ σ]

/-- Whether the rule's gate lets it be evaluated in this state. -/
def enabledIn (state : σ) (rule : Rule γ) : Bool := (askGate rule state).value.getD true

theorem enabledIn_iff (state : σ) (rule : Rule γ) :
    enabledIn state rule = true ↔ ∀ gate ∈ rule.gate, (Gated.ask gate state).1 = true := by
  rw [enabledIn, askGate]
  cases rule.gate with
  | none => simp [Traced.pure_apply]
  | some gate => simp [Traced.bind_apply, Traced.pure_apply, Traced.ask]

/-- The calls of a rule's own gate, at most one. -/
theorem askGate_calls (rule : Rule γ) (state : σ) :
    (askGate rule state).calls =
      rule.gate.toList.map fun gate => (gate, (Gated.ask gate state).1) := by
  rw [askGate]
  cases rule.gate with
  | none => rfl
  | some gate => rfl

theorem askGate_events (rule : Rule γ) (state : σ) : (askGate rule state).events = [] := by
  rw [askGate]
  cases rule.gate with
  | none => rfl
  | some gate => rfl

/-- One validation spelled out: what follows the gate leaves the state alone. -/
theorem validate_apply (field : String) (value : Value) (rule : Rule γ) (state : σ) :
    validate field value rule state =
      if enabledIn state rule then
        ⟨failureOn value rule, (askGate rule state).state,
          (askGate rule state).log ++ ((boundEvents field value rule).map .logged ++
            [.logged (.ruleEvaluated field rule.code (failureOn value rule).isNone)])⟩
      else
        ⟨none, (askGate rule state).state,
          (askGate rule state).log ++ [.logged (.ruleSkipped field rule.code)]⟩ := by
  rw [validate, enabledIn, Traced.bind_apply]
  by_cases h : (askGate rule state).value.getD true
  · rw [if_pos h, if_pos h]
    rfl
  · rw [if_neg h, if_neg h]
    rfl

theorem validate_value (field : String) (value : Value) (rule : Rule γ) (state : σ) :
    (validate field value rule state).value =
      if enabledIn state rule then failureOn value rule else none := by
  rw [validate_apply]
  split_ifs <;> rfl

theorem validate_value_of_enabled {field : String} {value : Value} {rule : Rule γ} {state : σ}
    (h : enabledIn state rule = true) :
    (validate field value rule state).value = failureOn value rule := by
  rw [validate_value, if_pos h]

theorem failureOn_of_validate {field : String} {value : Value} {rule failure : Rule γ} {state : σ}
    (h : (validate field value rule state).value = some failure) :
    failureOn value rule = some failure := by
  rw [validate_value] at h
  by_cases henabled : enabledIn state rule
  · rwa [if_pos henabled] at h
  · rw [if_neg henabled] at h
    cases h

theorem validate_state (field : String) (value : Value) (rule : Rule γ) (state : σ) :
    (validate field value rule state).state = (askGate rule state).state := by
  rw [validate_apply]
  split_ifs <;> rfl

theorem validate_calls (field : String) (value : Value) (rule : Rule γ) (state : σ) :
    (validate field value rule state).calls = (askGate rule state).calls := by
  rw [validate_apply]
  by_cases h : enabledIn state rule
  · simp [Trace.calls, Entry.call?, h]
  · simp [Trace.calls, Entry.call?, h]

theorem validate_events (field : String) (value : Value) (rule : Rule γ) (state : σ) :
    (validate field value rule state).events =
      if enabledIn state rule then
        boundEvents field value rule ++
          [.ruleEvaluated field rule.code (failureOn value rule).isNone]
      else [.ruleSkipped field rule.code] := by
  have hgate := askGate_events rule state
  rw [Trace.events] at hgate
  have hlogged : ∀ events : List Event,
      events.filterMap (Entry.event? ∘ Entry.logged (γ := γ)) = events := by
    intro events
    exact List.filterMap_some
  rw [validate_apply]
  by_cases h : enabledIn state rule
  · simp [Trace.events, hgate, h, List.filterMap_map, hlogged, Entry.event?]
  · simp [Trace.events, hgate, h, Entry.event?]

end FormRules
