import FormRules.Proofs.Gate.Stream
import FormRules.Proofs.Validation.Single
import FormRules.Session.Run

namespace FormRules

variable {γ σ α β : Type} [Gated γ σ]

/-- Asks the gates of some rules one after the other; a rule without a gate asks none. -/
def askGates (rules : List (Rule γ)) : Traced γ σ (List Bool) :=
  askAll (rules.filterMap Rule.gate)

theorem askGates_append_calls (rules later : List (Rule γ)) (state : σ) :
    (askGates (rules ++ later) state).calls =
      (askGates rules state).calls ++ (askGates later (askGates rules state).state).calls := by
  rw [askGates, List.filterMap_append]
  exact askAll_append_calls ..

theorem askGates_append_state (rules later : List (Rule γ)) (state : σ) :
    (askGates (rules ++ later) state).state =
      (askGates later (askGates rules state).state).state := by
  rw [askGates, List.filterMap_append]
  exact askAll_append_state ..

/-- In this session the computation asks the gates of these rules in turn and changes nothing but
what they read. -/
structure AsksIn (session : Session γ σ) (rules : List (Rule γ))
    (computation : Traced γ (Session γ σ) α) : Prop where
  calls : (computation session).calls = (askGates rules session.gates).calls
  state : (computation session).state =
    { session with gates := (askGates rules session.gates).state }

namespace AsksIn

variable {session : Session γ σ}

theorem ofPure (value : α) : AsksIn session [] (pure value : Traced γ (Session γ σ) α) :=
  ⟨rfl, rfl⟩

theorem bind {rules later : List (Rule γ)} {first : Traced γ (Session γ σ) α}
    {next : α → Traced γ (Session γ σ) β} (h : AsksIn session rules first)
    (h' : AsksIn { session with gates := (askGates rules session.gates).state } later
      (next (first session).value)) : AsksIn session (rules ++ later) (first >>= next) := by
  constructor
  · rw [Traced.bind_calls, askGates_append_calls, h.calls, h.state, h'.calls]
  · rw [Traced.bind_state, askGates_append_state, h.state, h'.state]

/-- What asks no gate can follow without adding to the gates asked. -/
theorem andThen {rules : List (Rule γ)} {first : Traced γ (Session γ σ) α}
    {next : α → Traced γ (Session γ σ) β} (h : AsksIn session rules first)
    (silent : ∀ value after, AsksIn after [] (next value)) :
    AsksIn session rules (first >>= next) := by
  rw [← List.append_nil rules]
  exact h.bind (silent _ _)

theorem map {rules : List (Rule γ)} {first : Traced γ (Session γ σ) α} (f : α → β)
    (h : AsksIn session rules first) : AsksIn session rules (first >>= fun a => pure (f a)) :=
  h.andThen fun _ _ => ofPure _

theorem logAll (events : List Event) : AsksIn session [] (Traced.logAll events) :=
  ⟨Traced.logAll_calls events session, rfl⟩

theorem askGate (rule : Rule γ) : AsksIn session [rule] (FormRules.askGate rule) := by
  obtain ⟨kind, message, gate⟩ := rule
  cases gate with
  | none => exact ⟨rfl, rfl⟩
  | some gate => exact ⟨rfl, rfl⟩

theorem validate (field : String) (value : Value) (rule : Rule γ) :
    AsksIn session [rule] (FormRules.validate field value rule) := by
  constructor
  · rw [validate_calls, (askGate rule).calls]
  · rw [validate_state, (askGate rule).state]

theorem outcomes (field : String) (value : Value) (rules : List (Rule γ)) :
    AsksIn session rules (FormRules.outcomes field value rules) := by
  induction rules generalizing session with
  | nil => exact ofPure _
  | cons rule rules ih =>
    rw [outcomes_cons]
    exact (validate field value rule).bind (ih.map _)

theorem validateAll (field : String) (value : Value) (rules : List (Rule γ)) :
    AsksIn session rules (FormRules.validateAll field value rules) :=
  (outcomes field value rules).andThen fun _ _ => (logAll [_]).map _

theorem ensure (field : String) (value : Value) (rules : List (Rule γ)) :
    AsksIn session rules (FormRules.ensure field value rules) :=
  (validateAll field value rules).map _

theorem onOutcome (completion : Completion) (failure : Option (Rule γ)) (field : String) :
    AsksIn session [] (completion.onOutcome failure field) := by
  cases completion with
  | plain => exact ofPure _
  | record => exact ofPure _
  | log => exact (logAll _).map _

theorem onFailures (completion : Completion) (failures : List (Rule γ)) (field : String) :
    AsksIn session [] (completion.onFailures failures field) := by
  cases completion with
  | plain => exact ofPure _
  | record => exact ofPure _
  | log => exact (logAll _).map _

theorem validateWith (field : String) (value : Value) (rule : Rule γ) (completion : Completion) :
    AsksIn session [rule] (FormRules.validateWith field value rule completion.onOutcome) :=
  (validate field value rule).andThen fun _ _ => (onOutcome completion _ field).map _

theorem validateAllWith (field : String) (value : Value) (rules : List (Rule γ))
    (completion : Completion) :
    AsksIn session rules
      (FormRules.validateAllWith field value rules completion.onFailures) :=
  (validateAll field value rules).andThen fun _ _ => (onFailures completion _ field).map _

end AsksIn

end FormRules
