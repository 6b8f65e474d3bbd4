import FormRules.Proofs.Validation.Single
import Mathlib.Data.List.Basic

namespace FormRules

variable {γ σ : Type} [Gated γ σ]

/-- The single validations of a batch, one after the other. -/
def singles (field : String) (value : Value) (rules : List (Rule γ)) (state : σ) :
    List (Trace γ σ (Option (Rule γ))) :=
  Traced.traces (validate field value) rules state

/-- A batch is its single validations and one closing event. -/
theorem validateAll_apply (field : String) (value : Value) (rules : List (Rule γ)) (state : σ) :
    validateAll field value rules state =
      ⟨(singles field value rules state).filterMap Trace.value,
        Traced.endState state (singles field value rules state),
        (singles field value rules state).flatMap Trace.log ++
          [.logged (.fieldValidated field rules.length
            ((singles field value rules state).filterMap Trace.value).length)]⟩ := by
  rw [validateAll, outcomes, Traced.bind_apply, Traced.mapM_apply]
  simp only [List.filterMap_map, Function.id_comp]
  rfl

theorem validateAll_value (field : String) (value : Value) (rules : List (Rule γ)) (state : σ) :
    (validateAll field value rules state).value =
      (singles field value rules state).flatMap fun single => single.value.toList := by
  rw [validateAll_apply]
  exact List.filterMap_eq_flatMap_toList Trace.value _

theorem validateAll_cons_value (field : String) (value : Value) (rule : Rule γ)
    (rules : List (Rule γ)) (state : σ) :
    (validateAll field value (rule :: rules) state).value =
      (validate field value rule state).value.toList ++
        (validateAll field value rules (validate field value rule state).state).value := by
  rw [validateAll_value, validateAll_value]
  exact List.flatMap_cons

theorem failureOn_of_validateAll {field : String} {value : Value} {rules : List (Rule γ)}
    {failure : Rule γ} {state : σ} (h : failure ∈ (validateAll field value rules state).value) :
    ∃ rule ∈ rules, failureOn value rule = some failure := by
  rw [validateAll_value] at h
  obtain ⟨single, hsingle, hfailure⟩ := List.mem_flatMap.mp h
  obtain ⟨rule, hrule, before, hrun⟩ := Traced.mem_traces hsingle
  rw [hrun, Option.mem_toList] at hfailure
  exact ⟨rule, hrule, failureOn_of_validate hfailure⟩

theorem validateAll_state (field : String) (value : Value) (rules : List (Rule γ)) (state : σ) :
    (validateAll field value rules state).state =
      Traced.endState state (singles field value rules state) := by
  rw [validateAll_apply]

theorem validateAll_entries (field : String) (value : Value) (rules : List (Rule γ)) (state : σ) :
    (validateAll field value rules state).log =
      (singles field value rules state).flatMap Trace.log ++
        [.logged (.fieldValidated field rules.length
          (validateAll field value rules state).value.length)] := by
  rw [validateAll_apply]

theorem validateAll_calls (field : String) (value : Value) (rules : List (Rule γ)) (state : σ) :
    (validateAll field value rules state).calls =
      (singles field value rules state).flatMap Trace.calls := by
  rw [validateAll_apply]
  simp only [Trace.calls, List.filterMap_append, List.filterMap_flatMap]
  exact List.append_nil _

/-- Every rule asks its own gate once, in order, whatever became of the rules before it. -/
theorem singles_gates (field : String) (value : Value) (rules : List (Rule γ)) (state : σ) :
    (singles field value rules state).map (fun single => single.calls.map Prod.fst) =
      rules.map fun rule => rule.gate.toList := by
  simp only [singles]
  induction rules generalizing state with
  | nil => rfl
  | cons rule rules ih =>
    have first : (validate field value rule state).calls.map Prod.fst = rule.gate.toList := by
      rw [validate_calls, askGate_calls, List.map_map]
      exact List.map_id _
    rw [Traced.traces, List.map_cons, List.map_cons, first, ih]

theorem validateAll_gates (field : String) (value : Value) (rules : List (Rule γ)) (state : σ) :
    (validateAll field value rules state).calls.map Prod.fst = rules.filterMap Rule.gate := by
  rw [validateAll_calls, List.map_flatMap, List.flatMap_def, singles_gates, ← List.flatMap_def]
  exact (List.filterMap_eq_flatMap_toList Rule.gate rules).symm

theorem singles_append (field : String) (value : Value) (xs ys : List (Rule γ)) (state : σ) :
    singles field value (xs ++ ys) state =
      singles field value xs state ++
        singles field value ys (validateAll field value xs state).state := by
  rw [validateAll_state]
  exact Traced.traces_append _ xs ys state

/-- A batch is the chain of its single validations. A failure leaves nothing out, repeats nothing
and moves nothing, and a longer batch goes on where the shorter one stopped. -/
theorem validateAll_chain (field : String) (value : Value) (rules later : List (Rule γ))
    (state : σ) :
    let chain := singles field value rules state
    let batch := validateAll field value rules state
    let rest := validateAll field value later batch.state
    let whole := validateAll field value (rules ++ later) state
    (batch.value = chain.flatMap (fun single => single.value.toList) ∧
      batch.state = Traced.endState state chain ∧ batch.calls = chain.flatMap Trace.calls) ∧
    (chain.map (fun single => single.calls.map Prod.fst) =
        rules.map (fun rule => rule.gate.toList) ∧
      batch.calls.map Prod.fst = rules.filterMap Rule.gate) ∧
    (whole.value = batch.value ++ rest.value ∧ whole.state = rest.state ∧
      whole.calls = batch.calls ++ rest.calls) := by
  intro chain batch rest whole
  have joined : singles field value (rules ++ later) state =
      chain ++ singles field value later batch.state := singles_append field value rules later state
  refine ⟨⟨?_, ?_, ?_⟩, ⟨?_, ?_⟩, ?_, ?_, ?_⟩
  · exact validateAll_value field value rules state
  · exact validateAll_state field value rules state
  · exact validateAll_calls field value rules state
  · exact singles_gates field value rules state
  · exact validateAll_gates field value rules state
  · simp only [whole, batch, rest, validateAll_value, joined, List.flatMap_append, chain]
  · simp only [whole, rest, validateAll_state, joined, Traced.endState_append]
    simp only [batch, validateAll_state, chain]
  · simp only [whole, batch, rest, validateAll_calls, joined, List.flatMap_append, chain]

end FormRules
