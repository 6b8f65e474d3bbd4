import FormRules.Proofs.Session.Asking

namespace FormRules

variable {γ σ α β : Type}

namespace Session

/-- What storing a value does to a session, when there is a value and a slot for it. -/
def stored (set : Session γ σ → String → α → Session γ σ) (slot : Option String)
    (value : Option α) (session : Session γ σ) : Session γ σ :=
  match slot, value with
  | some name, some value => set session name value
  | _, _ => session

theorem store_apply (set : Session γ σ → String → α → Session γ σ) (slot : Option String)
    (value : Option α) (session : Session γ σ) :
    store set slot value session = ⟨(), stored set slot value session, []⟩ := by
  cases slot with
  | none => rfl
  | some name => cases value <;> rfl

theorem withSource_apply (resolve : Session γ σ → Option α)
    (next : α → Traced γ (Session γ σ) Reply) (session : Session γ σ) :
    withSource resolve next session =
      match resolve session with
      | some value => next value session
      | none => ⟨.unsetSlot, session, []⟩ := by
  change (match resolve session with
    | some value => next value
    | none => pure Reply.unsetSlot : Traced γ (Session γ σ) Reply) session = _
  cases resolve session <;> rfl

end Session

variable [Gated γ σ]

/-- The rules that a step evaluates, as the session holds them. -/
def Step.evaluated (session : Session γ σ) : Step γ σ → List (Rule γ)
  | .askGate source | .validate _ _ source _ _ => (source.resolve session).elim [] fun rule => [rule]
  | .validateAll _ _ source _ _ | .ensure _ _ source => (source.resolve session).elim [] id
  | _ => []

/-- What a step does to a session besides asking the gates of the rules that it evaluates. -/
def Step.effect (session : Session γ σ) : Step γ σ → Session γ σ → Session γ σ
  | .adjust change => fun after => { after with gates := change after.gates }
  | .validate field value source _ slot => (source.resolve session).elim id fun rule =>
    Session.stored Session.setRule slot (FormRules.validate field value rule session).value
  | .validateAll field value source _ slot => (source.resolve session).elim id fun rules =>
    Session.stored Session.setList slot (some (FormRules.validateAll field value rules session).value)
  | .rule source words newGate _ slot => (source.resolve session).elim id fun rule =>
    let worded := words.elim rule rule.withMessage
    Session.stored Session.setRule slot (some (newGate.elim worded worded.on))
  | .list source _ slot => (source.resolve session).elim id fun rules =>
    Session.stored Session.setList slot (some rules)
  | .format source _ failures _ slot => (source.resolve session).elim id fun formatter =>
    (failures.resolve session).elim id fun _ =>
      Session.stored Session.setFormatter slot (some formatter)
  | _ => id

/-- The trace of something that asks the gates of some rules in turn and then has an effect. -/
structure Acts (session : Session γ σ) (rules : List (Rule γ))
    (effect : Session γ σ → Session γ σ) (trace : Trace γ (Session γ σ) α) : Prop where
  calls : trace.calls = (askGates rules session.gates).calls
  state : trace.state = effect { session with gates := (askGates rules session.gates).state }

namespace Acts

variable {session : Session γ σ} {rules : List (Rule γ)}

theorem ofAsks {computation : Traced γ (Session γ σ) α} (h : AsksIn session rules computation) :
    Acts session rules id (computation session) :=
  ⟨h.calls, h.state⟩

theorem store {first : Traced γ (Session γ σ) α} (h : AsksIn session rules first)
    (set : Session γ σ → String → β → Session γ σ) (slot : Option String) (f : α → Option β)
    (reply : α → Reply) :
    Acts session rules (Session.stored set slot (f (first session).value))
      ((do
        let a ← first
        Session.store set slot (f a)
        return reply a) session) := by
  constructor
  · rw [Traced.bind_calls, Traced.bind_calls, Session.store_apply, h.calls]
    exact List.append_nil _
  · rw [Traced.bind_state, Traced.bind_state, Session.store_apply, h.state]
    rfl

theorem storing (set : Session γ σ → String → β → Session γ σ) (slot : Option String)
    (value : Option β) (reply : Reply) :
    Acts session [] (Session.stored set slot value)
      ((do
        Session.store set slot value
        return reply) session) := by
  constructor
  · rw [Traced.bind_calls, Session.store_apply]
    rfl
  · rw [Traced.bind_state, Session.store_apply]
    rfl

theorem idle (reply : Reply) : Acts session [] id ⟨reply, session, []⟩ := ⟨rfl, rfl⟩

end Acts

/-- Every step asks the gates of the rules that it evaluates, in turn, and then has its effect. -/
theorem perform_acts (session : Session γ σ) (step : Step γ σ) :
    Acts session (step.evaluated session) (step.effect session) (session.perform step) := by
  cases step <;> simp only [Session.perform, Session.withSource_apply, Step.evaluated, Step.effect]
  case query query => exact .idle _
  case adjust change => exact ⟨rfl, rfl⟩
  case askGate source =>
    cases source.resolve session with
    | none => exact .idle _
    | some rule => exact .ofAsks ((AsksIn.askGate rule).map _)
  case validate field value source completion slot =>
    cases source.resolve session with
    | none => exact .idle _
    | some rule =>
      exact .store (AsksIn.validateWith field value rule completion) Session.setRule slot Prod.fst _
  case validateAll field value source completion slot =>
    cases source.resolve session with
    | none => exact .idle _
    | some rules =>
      exact .store (AsksIn.validateAllWith field value rules completion) Session.setList slot
        (fun result => some result.1) _
  case ensure field value source =>
    cases source.resolve session with
    | none => exact .idle _
    | some rules => exact .ofAsks ((AsksIn.ensure field value rules).map _)
  case rule source words newGate field slot =>
    cases source.resolve session with
    | none => exact .idle _
    | some rule => exact .storing _ _ _ _
  case list source field slot =>
    cases source.resolve session with
    | none => exact .idle _
    | some rules => exact .storing _ _ _ _
  case format source field failures codes slot =>
    cases source.resolve session with
    | none => exact .idle _
    | some formatter =>
      cases failures.resolve session with
      | none => exact .idle _
      | some failures => exact .storing _ _ _ _
  case message source field should => cases source.resolve session <;> exact .idle _
  case inspect source => cases source.resolve session <;> exact .idle _
  case formatMessages field source separator => cases source.resolve session <;> exact .idle _
  case fieldError field source => cases source.resolve session <;> exact .idle _
  case sameError field source field' source' =>
    cases source.resolve session with
    | none => exact .idle _
    | some failures => cases source'.resolve session <;> exact .idle _
  case log field source =>
    cases source.resolve session with
    | none => exact .idle _
    | some failures => exact .ofAsks ((AsksIn.logAll _).map _)
  case logFirst field source =>
    cases source.resolve session with
    | none => exact .idle _
    | some failures => exact .ofAsks ((AsksIn.logAll _).map _)

end FormRules
