import FormRules.Proofs.Validation.Batch
import Mathlib.Data.List.Forall2

namespace FormRules

variable {γ σ α β α' β' : Type}

/-- The two runs asked the same gates, got the same answers and left the same state. -/
structure SameGating (run : Trace γ σ α) (run' : Trace γ σ β) : Prop where
  calls : run.calls = run'.calls
  state : run.state = run'.state

/-- The computation asks no gate. What the gates read it may still change. -/
def AsksNone (computation : Traced γ σ α) : Prop := ∀ state, (computation state).calls = []

/-- The computation leaves what the gates read as it finds it. -/
def LeavesState (computation : Traced γ σ α) : Prop := ∀ state, (computation state).state = state

theorem AsksNone.ofPure (value : α) : AsksNone (pure value : Traced γ σ α) := fun _ => rfl

theorem AsksNone.bind {first : Traced γ σ α} {next : α → Traced γ σ β} (h : AsksNone first)
    (hnext : ∀ value, AsksNone (next value)) : AsksNone (first >>= next) := by
  intro state
  rw [Traced.bind_calls, h, hnext, List.append_nil]

theorem AsksNone.logAll (events : List Event) :
    AsksNone (Traced.logAll events : Traced γ σ Unit) := Traced.logAll_calls events

theorem LeavesState.ofPure (value : α) : LeavesState (pure value : Traced γ σ α) := fun _ => rfl

theorem LeavesState.bind {first : Traced γ σ α} {next : α → Traced γ σ β} (h : LeavesState first)
    (hnext : ∀ value, LeavesState (next value)) : LeavesState (first >>= next) := by
  intro state
  rw [Traced.bind_state, hnext, h]

theorem LeavesState.logAll (events : List Event) :
    LeavesState (Traced.logAll events : Traced γ σ Unit) := fun _ => rfl

namespace SameGating

variable {first : Traced γ σ α} {first' : Traced γ σ α'} {next : α → Traced γ σ β}
  {next' : α' → Traced γ σ β'} {state : σ}

/-- What follows without a question adds none. -/
theorem bind_calls (h : SameGating (first state) (first' state))
    (hnext : ∀ value, AsksNone (next value)) (hnext' : ∀ value, AsksNone (next' value)) :
    ((first >>= next) state).calls = ((first' >>= next') state).calls := by
  rw [Traced.bind_calls, Traced.bind_calls, hnext, hnext', h.calls]

theorem bind (h : SameGating (first state) (first' state))
    (hnext : ∀ value, AsksNone (next value)) (hnext' : ∀ value, AsksNone (next' value))
    (hleaves : ∀ value, LeavesState (next value)) (hleaves' : ∀ value, LeavesState (next' value)) :
    SameGating ((first >>= next) state) ((first' >>= next') state) := by
  constructor
  · exact h.bind_calls hnext hnext'
  · rw [Traced.bind_state, Traced.bind_state, hleaves, hleaves', h.state]

end SameGating

theorem SameGating.forall₂ {runs : List (Trace γ σ α)} {runs' : List (Trace γ σ β)}
    (h : List.Forall₂ SameGating runs runs') (state : σ) :
    runs.flatMap Trace.calls = runs'.flatMap Trace.calls ∧
      Traced.endState state runs = Traced.endState state runs' := by
  induction h generalizing state with
  | nil => exact ⟨rfl, rfl⟩
  | @cons run run' runs runs' hrun _ ih =>
    obtain ⟨hcalls, hstate⟩ := ih run.state
    constructor
    · rw [List.flatMap_cons, List.flatMap_cons, hrun.calls, hcalls]
    · change Traced.endState run.state runs = Traced.endState run'.state runs'
      rw [hstate, hrun.state]

section Gated

variable [Gated γ σ] {rule rule' : Rule γ} {rules rules' : List (Rule γ)}

/-- One validation asks what its rule's gate makes it ask. -/
theorem validate_sameGating (field field' : String) (value value' : Value) (state : σ)
    (h : rule.gate = rule'.gate) :
    SameGating (validate field value rule state) (validate field' value' rule' state) := by
  have hask : (askGate rule : Traced γ σ _) = askGate rule' := by
    rw [askGate, askGate, h]
  constructor
  · rw [validate_calls, validate_calls, hask]
  · rw [validate_state, validate_state, hask]

theorem validate_value_of_closed {field : String} {value : Value} {state : σ} {gate : γ}
    (h : (gate, false) ∈ (validate field value rule state).calls) :
    (validate field value rule state).value = none := by
  rw [validate_calls, askGate_calls, List.mem_map] at h
  obtain ⟨g, hg, hcall⟩ := h
  have hclosed : (Gated.ask g state).1 = false := congrArg Prod.snd hcall
  rw [validate_value, if_neg]
  intro henabled
  rw [(enabledIn_iff state rule).mp henabled g (Option.mem_toList.mp hg)] at hclosed
  cases hclosed

/-- Two batches with the same gates, rule by rule, ask alike at every place. -/
theorem singles_sameGating (field field' : String) (value value' : Value) (state : σ)
    (h : rules.map Rule.gate = rules'.map Rule.gate) :
    List.Forall₂ SameGating (singles field value rules state)
      (singles field' value' rules' state) := by
  induction rules generalizing rules' state with
  | nil =>
    cases rules' with
    | nil => exact .nil
    | cons rule' rules' => cases h
  | cons rule rules ih =>
    cases rules' with
    | nil => cases h
    | cons rule' rules' =>
      rw [List.map_cons, List.map_cons, List.cons.injEq] at h
      have hfirst := validate_sameGating field field' value value' state h.1
      refine .cons hfirst ?_
      -- Both tails start where the first validation of either batch left off.
      rw [← hfirst.state]
      exact ih (validate field value rule state).state h.2

theorem validateAll_sameGating (field field' : String) (value value' : Value) (state : σ)
    (h : rules.map Rule.gate = rules'.map Rule.gate) :
    SameGating (validateAll field value rules state) (validateAll field' value' rules' state) := by
  obtain ⟨hcalls, hstate⟩ :=
    SameGating.forall₂ (singles_sameGating field field' value value' state h) state
  constructor
  · rw [validateAll_calls, validateAll_calls, hcalls]
  · rw [validateAll_state, validateAll_state, hstate]

theorem value_of_closed {field : String} {value : Value} {state : σ}
    {run : Trace γ σ (Option (Rule γ))} {gate : γ} (hrun : run ∈ singles field value rules state)
    (hclosed : (gate, false) ∈ run.calls) : run.value = none := by
  obtain ⟨rule, -, before, rfl⟩ := Traced.mem_traces hrun
  exact validate_value_of_closed hclosed

theorem outcomes_getElem? (field : String) (value : Value) (state : σ) (place : Nat) :
    (outcomes field value rules state).value[place]? =
      (singles field value rules state)[place]?.map Trace.value := by
  rw [outcomes, Traced.mapM_apply]
  exact List.getElem?_map

/-- Where a gate was closed, neither batch has a failure. -/
theorem outcomes_none_of_closed (field field' : String) (value value' : Value) {state : σ}
    (h : rules.map Rule.gate = rules'.map Rule.gate) {place : Nat}
    {run : Trace γ σ (Option (Rule γ))} {gate : γ}
    (hrun : (singles field value rules state)[place]? = some run)
    (hclosed : (gate, false) ∈ run.calls) :
    (outcomes field value rules state).value[place]? = some none ∧
      (outcomes field' value' rules' state).value[place]? = some none := by
  obtain ⟨run', hrun', hsame⟩ : ∃ run', (singles field' value' rules' state)[place]? = some run' ∧
      SameGating run run' := by
    obtain ⟨hlength, hget⟩ :=
      List.forall₂_iff_get.mp (singles_sameGating field field' value value' state h)
    obtain ⟨hplace, rfl⟩ := List.getElem?_eq_some_iff.mp hrun
    rw [hlength] at hplace
    exact ⟨_, List.getElem?_eq_getElem hplace, hget place _ hplace⟩
  rw [outcomes_getElem?, outcomes_getElem?, hrun, hrun', Option.map_some, Option.map_some,
    value_of_closed (List.mem_of_getElem? hrun) hclosed]
  rw [hsame.calls] at hclosed
  rw [value_of_closed (List.mem_of_getElem? hrun') hclosed]
  exact ⟨rfl, rfl⟩

variable {hook : List (Rule γ) → String → Traced γ σ α}

/-- The hook comes last and starts where the batch left off. -/
theorem validateAllWith_state (field : String) (value : Value) (rules : List (Rule γ)) (state : σ) :
    (validateAllWith field value rules hook state).state =
      (hook (validateAll field value rules state).value field
        (validateAll field value rules state).state).state := rfl

/-- Which gates are asked, what they answer and in which state they are left depends on the gates
alone: neither the field and the value, nor what the rules check, nor their messages play a part. A
hook that asks no gate adds no question. It starts in the state that the gates were left in, and what
it makes of that state is up to the hook. -/
theorem gating_ignores_values (field field' : String) (value value' : Value)
    (rules rules' : List (Rule γ)) (hook : List (Rule γ) → String → Traced γ σ α)
    (hook' : List (Rule γ) → String → Traced γ σ α') (state : σ)
    (hgates : rules.map Rule.gate = rules'.map Rule.gate)
    (hhook : ∀ failures field, AsksNone (hook failures field))
    (hhook' : ∀ failures field, AsksNone (hook' failures field)) :
    let batch := validateAll field value rules state
    let batch' := validateAll field' value' rules' state
    let hooked := validateAllWith field value rules hook state
    let hooked' := validateAllWith field' value' rules' hook' state
    SameGating batch batch' ∧
    SameGating (ensure field value rules state) (ensure field' value' rules' state) ∧
    hooked.calls = hooked'.calls ∧
    (hooked.state = (hook batch.value field batch.state).state ∧
      hooked'.state = (hook' batch'.value field' batch.state).state) ∧
    ((∀ failures field, LeavesState (hook failures field)) →
      (∀ failures field, LeavesState (hook' failures field)) → SameGating hooked hooked') ∧
    ∀ (place : Nat) (run : Trace γ σ (Option (Rule γ))) (gate : γ),
      (singles field value rules state)[place]? = some run → (gate, false) ∈ run.calls →
      (outcomes field value rules state).value[place]? = some none ∧
        (outcomes field' value' rules' state).value[place]? = some none := by
  intro batch batch' hooked hooked'
  have hall : SameGating batch batch' :=
    validateAll_sameGating field field' value value' state hgates
  have hasks : ∀ failures, AsksNone do return (failures, ← hook failures field) := by
    intro failures
    exact (hhook failures field).bind fun _ => .ofPure _
  have hasks' : ∀ failures, AsksNone do return (failures, ← hook' failures field') := by
    intro failures
    exact (hhook' failures field').bind fun _ => .ofPure _
  refine ⟨hall, ?_, hall.bind_calls hasks hasks', ⟨rfl, ?_⟩, ?_, ?_⟩
  · exact hall.bind (fun _ => .ofPure _) (fun _ => .ofPure _) (fun _ => .ofPure _) fun _ => .ofPure _
  · rw [hall.state]
    exact validateAllWith_state field' value' rules' state
  · intro hleaves hleaves'
    apply hall.bind hasks hasks'
    · intro failures
      exact (hleaves failures field).bind fun _ => .ofPure _
    · intro failures
      exact (hleaves' failures field').bind fun _ => .ofPure _
  · intro place run gate hrun hclosed
    exact outcomes_none_of_closed field field' value value' hgates hrun hclosed

end Gated

/-- A text that fails a range and a flag that passes an entirely different rule, behind the same
closed gate and the same open one. -/
theorem gating_ignores_text_and_flag :
    let rules : List (Rule Gate) :=
      [(Rule.greater "5").on (.countdown "tries"), (Rule.between "1" "2").on (.flip "shown"), .isTrue]
    let rules' : List (Rule Gate) :=
      [Rule.isTrue.on (.countdown "tries"), (Rule.nonEmpty.withMessage "Well?").on (.flip "shown"),
        .contains "on"]
    let state : GateState := { flags := fun _ => true }
    let text := validateAllWith "Gear" (.text "9") rules logFailures state
    let flag := validateAllWith "Active" (.flag true) rules' logFailures state
    rules.map Rule.gate = rules'.map Rule.gate ∧
      (∀ failures field, AsksNone (logFailures failures field : Traced Gate GateState Unit)) ∧
      (∀ failures field, LeavesState (logFailures failures field : Traced Gate GateState Unit)) ∧
      text.value.1 = [(Rule.between "1" "2").on (.flip "shown")] ∧ flag.value.1 = [] ∧
      text.calls = [(.countdown "tries", false), (.flip "shown", true)] ∧
      SameGating text flag ∧
      (outcomes "Gear" (.text "9") rules state).value[0]? = some none ∧
      (outcomes "Active" (.flag true) rules' state).value[0]? = some none := by
  intro rules rules' state text flag
  have hasks : ∀ (failures : List (Rule Gate)) (field : String),
      AsksNone (logFailures failures field : Traced Gate GateState Unit) := by
    intro failures field
    exact .logAll _
  have hleaves : ∀ (failures : List (Rule Gate)) (field : String),
      LeavesState (logFailures failures field : Traced Gate GateState Unit) := by
    intro failures field
    exact .logAll _
  obtain ⟨-, -, -, -, hwith, hclosed⟩ := gating_ignores_values "Gear" "Active" (.text "9")
    (.flag true) rules rules' logFailures logFailures state rfl hasks hasks
  refine ⟨rfl, hasks, hleaves, ?_, ?_, ?_, hwith hleaves hleaves, ?_⟩
  · decide +kernel
  · decide +kernel
  · decide +kernel
  · exact hclosed 0 _ (.countdown "tries") rfl (by decide)

/-- Asking no gate is not enough for the state to end alike. This hook asks none, and opens one after
a failure: the two runs ask alike, and the gate of the second rule ends open in one of them only. -/
theorem hook_opens_gate :
    let rules : List (Rule Gate) :=
      [Rule.nonEmpty.on (.constant true), (Rule.contains " ").on (.flag "hint")]
    let hook : List (Rule Gate) → String → Traced Gate GateState Unit := fun failures _ =>
      if failures.isEmpty then pure () else Traced.modify (·.setFlag "hint" true)
    let failed := validateAllWith "Name" (.text "") rules hook {}
    let passed := validateAllWith "Name" (.text "Ann") rules hook {}
    (∀ failures field, AsksNone (hook failures field)) ∧
      failed.calls = [(.constant true, true), (.flag "hint", false)] ∧
      passed.calls = [(.constant true, true), (.flag "hint", false)] ∧
      (Gate.ask (.flag "hint") failed.state).1 = true ∧
      (Gate.ask (.flag "hint") passed.state).1 = false ∧ ¬SameGating failed passed := by
  intro rules hook failed passed
  have hasks : ∀ failures field, AsksNone (hook failures field) := by
    intro failures field state
    change Trace.calls ((if failures.isEmpty then pure () else Traced.modify _) state) = []
    split_ifs
    · rfl
    · rfl
  have hopen : (Gate.ask (.flag "hint") failed.state).1 = true := by decide +kernel
  have hclosed : (Gate.ask (.flag "hint") passed.state).1 = false := by decide +kernel
  refine ⟨hasks, by decide +kernel, by decide +kernel, hopen, hclosed, ?_⟩
  intro hsame
  rw [hsame.state, hclosed] at hopen
  cases hopen

end FormRules
