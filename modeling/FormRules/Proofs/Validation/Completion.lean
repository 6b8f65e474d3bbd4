import FormRules.Proofs.Validation.Batch

namespace FormRules

variable {α β γ σ : Type}

/-- What a log has to say of a field with such a result: that the field passed, or each code of the
error with the message beside it. -/
def notices (field : String) : Except FieldError Unit → List Event
  | .ok _ => [.fieldPassed field]
  | .error error => List.zipWith (.fieldFailed field) error.codes error.messages

theorem failureEvents_eq_notices (failures : List (Rule γ)) (field : String) :
    failureEvents failures field =
      notices field (if failures.isEmpty then .ok () else .error (.ofFailures field failures)) := by
  rw [failureEvents]
  split
  · rfl
  · rw [notices, FieldError.ofFailures, List.zipWith_map, List.zipWith_self]

theorem length_failureEvents (failures : List (Rule γ)) (field : String) :
    (failureEvents failures field).length = if failures.isEmpty then 1 else failures.length := by
  rw [failureEvents]
  split
  · rfl
  · exact List.length_map _

theorem failureEvents_level (failures : List (Rule γ)) (field : String) :
    ∀ event ∈ failureEvents failures field,
      event.level = if failures.isEmpty then .debug else .warn := by
  intro event hevent
  rw [failureEvents] at hevent
  by_cases hempty : failures.isEmpty
  · rw [if_pos hempty, List.mem_singleton] at hevent
    rw [if_pos hempty, hevent]
    rfl
  · rw [if_neg hempty] at hevent
    obtain ⟨failure, -, rfl⟩ := List.mem_map.mp hevent
    rw [if_neg hempty]
    rfl

/-- The result that is an error exactly when there are failures, and then tells of each of them. -/
structure Reports (field : String) (failures : List (Rule γ)) (result : Except FieldError Unit) :
    Prop where
  ok_iff : result = .ok () ↔ failures = []
  error_iff : result = .error (.ofFailures field failures) ↔ failures ≠ []
  of_error : ∀ error, result = .error error →
    error = .ofFailures field failures ∧ error.isEmpty = false ∧ error.size = failures.length ∧
      error.codes.length = failures.length ∧ error.messages.length = failures.length

theorem reports_failures (field : String) (failures : List (Rule γ)) :
    Reports field failures
      (if failures.isEmpty then .ok () else .error (.ofFailures field failures)) := by
  cases failures with
  | nil => exact ⟨by simp, by simp, by simp⟩
  | cons failure rest =>
    refine ⟨iff_of_false ?_ (List.cons_ne_nil _ _), iff_of_true rfl (List.cons_ne_nil _ _), ?_⟩
    · intro h
      cases h
    · intro error herror
      cases herror
      exact ⟨rfl, rfl, List.length_map _, List.length_map _, List.length_map _⟩

/-- What a computation is followed by runs once, on its value and in the state that it left. -/
theorem Traced.followed_apply (first : Traced γ σ α) (next : α → Traced γ σ β) (state : σ) :
    let before := first state
    let after := next before.value before.state
    (do
      let value ← first
      return (value, ← next value) : Traced γ σ (α × β)) state =
      ⟨(before.value, after.value), after.state, before.log ++ after.log⟩ := by
  intro before after
  rw [Traced.bind_apply, Traced.bind_apply]
  simp only [Traced.pure_apply, List.append_nil, before, after]

variable [Gated γ σ]

theorem ensure_apply (field : String) (value : Value) (rules : List (Rule γ)) (state : σ) :
    let batch := validateAll field value rules state
    ensure field value rules state =
      ⟨if batch.value.isEmpty then .ok () else .error (.ofFailures field batch.value),
        batch.state, batch.log⟩ := by
  intro batch
  rw [ensure, Traced.bind_apply]
  simp only [Traced.pure_apply, List.append_nil, batch]

/-- A batch, its result as an error, a hook after it and a log of it agree. All do what the batch
does, and then one call of the hook, on the batch's failures, does what it does. The log has the
codes and messages of the error. -/
theorem completions_agree (field : String) (value : Value) (rules : List (Rule γ)) (rule : Rule γ)
    (hook : List (Rule γ) → String → Traced γ σ β) (state : σ) :
    let runs := singles field value rules state
    let batch := validateAll field value rules state
    let failures := batch.value
    let closing := Event.fieldValidated field rules.length failures.length
    let ensured := ensure field value rules state
    let call := hook failures field batch.state
    let told := notices field ensured.value
    let single := validate field value rule state
    let toldSingle := single.value.elim [Event.fieldPassed field] fun failure =>
      [.fieldFailed field failure.code (failure.messageFor field none)]
    (ensured.log = batch.log ∧ ensured.state = batch.state ∧
      Reports field failures ensured.value) ∧
    (batch.log = runs.flatMap Trace.log ++ [.logged closing] ∧
      validateAllWith field value rules hook state =
        ⟨(failures, call.value), call.state, batch.log ++ call.log⟩) ∧
    (validateAllWith field value rules logFailures state =
        ⟨(failures, ()), batch.state, batch.log ++ told.map .logged⟩ ∧
      told.length = (if failures.isEmpty then 1 else failures.length) ∧
      ∀ event ∈ told, event.level = if failures.isEmpty then .debug else .warn) ∧
    (validateWith field value rule logFailure state =
        ⟨(single.value, ()), single.state, single.log ++ toldSingle.map .logged⟩ ∧
      (logFailure single.value field single.state).events = toldSingle) := by
  intro runs batch failures closing ensured call told single toldSingle
  have hensured := ensure_apply field value rules state
  have hresult : ensured.value =
      if failures.isEmpty then .ok () else .error (.ofFailures field failures) :=
    congrArg Trace.value hensured
  have htold : told = failureEvents failures field := by
    rw [failureEvents_eq_notices, ← hresult]
  have htoldSingle : toldSingle = failureEvents single.value.toList field := by
    simp only [toldSingle]
    cases single.value <;> rfl
  refine ⟨⟨congrArg Trace.log hensured, congrArg Trace.state hensured, ?_⟩,
    ⟨validateAll_entries .., ?_⟩, ⟨?_, ?_, ?_⟩, ?_, ?_⟩
  · rw [hresult]
    exact reports_failures field failures
  · exact Traced.followed_apply (validateAll field value rules) (hook · field) state
  · rw [htold]
    exact Traced.followed_apply (validateAll field value rules) (logFailures · field) state
  · rw [htold]
    exact length_failureEvents failures field
  · rw [htold]
    exact failureEvents_level failures field
  · rw [htoldSingle]
    exact Traced.followed_apply (validate field value rule) (logFailure · field) state
  · rw [htoldSingle]
    exact Traced.logAll_events _ single.state

example :
    let rules := [Rule.nonEmpty.on (Gate.constant false), Rule.isNumeric.withMessage ""]
    let state : GateState := {}
    (validateAllWith "Gear" (.text "five") rules logFailures state).events =
      [.ruleSkipped "Gear" "non_empty", .ruleEvaluated "Gear" "is_numeric" false,
        .fieldValidated "Gear" 2 1, .fieldFailed "Gear" "is_numeric" ""] := by
  decide +kernel

end FormRules
