import FormRules.Rule.Inspect
import FormRules.Session.Step

namespace FormRules

/-- The state that steps share: what the gates read, and named slots for rules, lists of rules
and formatters. -/
structure Session (γ σ : Type) where
  gates : σ
  rules : String → Option (Rule γ) := fun _ => none
  lists : String → Option (List (Rule γ)) := fun _ => none
  formatters : String → Option MessageFormatter := fun _ => none

variable {γ σ : Type}

/-- Gates are asked in the part of the session that they read. -/
instance [Gated γ σ] : Gated γ (Session γ σ) where
  ask gate session :=
    ((Gated.ask gate session.gates).1, { session with gates := (Gated.ask gate session.gates).2 })

def RuleSource.resolve (session : Session γ σ) : RuleSource γ → Option (Rule γ)
  | slot name => session.rules name
  | given rule => some rule

def ListSource.resolve (session : Session γ σ) : ListSource γ → Option (List (Rule γ))
  | slot name => session.lists name
  | given rules => rules.mapM (·.resolve session)

def FormatterSource.resolve (session : Session γ σ) : FormatterSource → Option MessageFormatter
  | slot name => session.formatters name
  | built none settings => some (MessageFormatter.setAll {} settings)
  | built (some base) settings => (session.formatters base).map (·.setAll settings)

namespace Session

def setRule (session : Session γ σ) (name : String) (rule : Rule γ) : Session γ σ :=
  { session with rules := assign session.rules name (some rule) }

def setList (session : Session γ σ) (name : String) (rules : List (Rule γ)) : Session γ σ :=
  { session with lists := assign session.lists name (some rules) }

def setFormatter (session : Session γ σ) (name : String) (formatter : MessageFormatter) :
    Session γ σ :=
  { session with formatters := assign session.formatters name (some formatter) }

/-- Stores a value when there is a value and a slot for it. -/
def store {α : Type} (set : Session γ σ → String → α → Session γ σ) (slot : Option String)
    (value : Option α) : Traced γ (Session γ σ) Unit :=
  match slot, value with
  | some name, some value => Traced.modify fun session => set session name value
  | _, _ => pure ()

/-- Goes on with what a source stands for in the session, unless its slot is unset. -/
def withSource {α : Type} (resolve : Session γ σ → Option α)
    (next : α → Traced γ (Session γ σ) Reply) : Traced γ (Session γ σ) Reply := do
  match resolve (← Traced.get) with
  | some value => next value
  | none => return .unsetSlot

end Session

/-- The hook of a single validation, with the calls it records. -/
def Completion.onOutcome : Completion → Option (Rule γ) → String →
    Traced γ (Session γ σ) (List (String × Option RuleView))
  | plain, _, _ => pure []
  | record, failure, field => pure [(field, failure.map (·.view field))]
  | log, failure, field => do
    logFailure failure field
    return []

/-- The hook of a validation against many rules, with the calls it records. -/
def Completion.onFailures : Completion → List (Rule γ) → String →
    Traced γ (Session γ σ) (List (String × List RuleView))
  | plain, _, _ => pure []
  | record, failures, field => pure [(field, failures.map (·.view field))]
  | log, failures, field => do
    logFailures failures field
    return []

namespace Session

/-- Runs one step. Only validations and a direct question ask gates; all rendering leaves them
alone. -/
def perform [Gated γ σ] : Step γ σ → Traced γ (Session γ σ) Reply
  | .query query => return .answer query.answer
  | .adjust change => do
    Traced.modify fun session => { session with gates := change session.gates }
    return .done
  | .askGate source => withSource (source.resolve ·) fun rule => do
    return .gate (← FormRules.askGate rule)
  | .validate field value source completion slot => withSource (source.resolve ·) fun rule => do
    let (failure, hooked) ← validateWith field value rule completion.onOutcome
    store setRule slot failure
    return .validated (failure.map (·.view field)) hooked
  | .validateAll field value source completion slot => withSource (source.resolve ·) fun rules => do
    let (failures, hooked) ← validateAllWith field value rules completion.onFailures
    store setList slot (some failures)
    return .validatedAll (failures.map (·.view field)) hooked
      (formatLines field failures)
  | .ensure field value source => withSource (source.resolve ·) fun rules => do
    return .ensured (← FormRules.ensure field value rules)
  | .rule source message gate field slot => withSource (source.resolve ·) fun rule => do
    let worded := message.elim rule rule.withMessage
    let built := gate.elim worded worded.on
    store setRule slot (some built)
    return .rule (built.view field)
  | .list source field slot => withSource (source.resolve ·) fun rules => do
    store setList slot (some rules)
    return .list (rules.map (·.view field))
  | .message source field should => withSource (source.resolve ·) fun rule =>
    return .message rule.code (rule.messageFor field should)
  | .inspect source => withSource (source.resolve ·) fun rule => return .text rule.inspect
  | .formatMessages field source separator => withSource (source.resolve ·) fun failures =>
    return .text (FormRules.formatMessages field failures separator)
  | .format source field failures codes slot =>
    withSource (source.resolve ·) fun formatter =>
    withSource (failures.resolve ·) fun failures => do
      store setFormatter slot (some formatter)
      return .formatted formatter.separator (codes.map fun code => (code, formatter.predicate? code))
        (failures.map (formatter.message field)) (formatter.format field failures)
  | .fieldError field source => withSource (source.resolve ·) fun failures =>
    return .fieldError (.ofFailures field failures)
  | .sameError field source field' source' =>
    withSource (source.resolve ·) fun failures =>
    withSource (source'.resolve ·) fun failures' =>
      return .truth (FieldError.ofFailures field failures == .ofFailures field' failures')
  | .log field source => withSource (source.resolve ·) fun failures => do
    logFailures failures field
    return .done
  | .logFirst field source => withSource (source.resolve ·) fun failures => do
    logFailure failures.head? field
    return .done

/-- Runs steps one after the other, each in the session that the one before it left. -/
def run [Gated γ σ] : Session γ σ → List (Step γ σ) → List (Trace γ (Session γ σ) Reply)
  | _, [] => []
  | session, step :: steps =>
    let trace := perform step session
    trace :: trace.state.run steps

end Session

end FormRules
