import FormRules.FieldError
import FormRules.Number.Comparison
import FormRules.Text.Search
import FormRules.Traced

namespace FormRules

open Number Text

/-- What a form field holds. -/
inductive Value where
  | text (value : String)
  | flag (value : Bool)
  deriving DecidableEq, Repr

variable {γ σ β : Type}

/-- A check that holds has no failure; one that does not fails with its rule. -/
def failUnless (passed : Bool) (rule : Rule γ) : Option (Rule γ) :=
  if passed then none else some rule

/-- A comparison that could not be made fails as a bare numeric check, whatever the rule was. -/
def afterComparison (rule : Rule γ) : Comparison → Option (Rule γ)
  | .holds => none
  | .violated => some rule
  | .notNumeric => some .isNumeric

/-- The code that the comparison with one bound fails with. -/
def boundCode? (bound : Kind) : Comparison → Option String
  | .holds => none
  | .violated => some bound.code
  | .notNumeric => some Kind.isNumeric.code

/-- The codes of the bounds that a value fails, the lower one first. Bounds are exclusive. -/
def failedBounds (value low high : String) : List String :=
  [boundCode? (.greater low) (greaterThan value low),
    boundCode? (.lower high) (lowerThan value high)].filterMap id

/-- The failure of an enabled rule on a text. A text is neither true nor false, so it passes a
rule that asks for truth. -/
def failureOnText (value : String) (rule : Rule γ) : Option (Rule γ) :=
  match rule.kind with
  | .isTrue => none
  | .nonEmpty => failUnless (isNonEmpty value) rule
  | .isNumeric => failUnless (isNumeric value) rule
  | .contains needle => failUnless (containsIgnoreCase value needle) rule
  | .greater threshold => afterComparison rule (greaterThan value threshold)
  | .lower threshold => afterComparison rule (lowerThan value threshold)
  | .between low high => failUnless (failedBounds value low high).isEmpty rule

/-- The failure of an enabled rule. A flag passes or fails every rule alike. -/
def failureOn (value : Value) (rule : Rule γ) : Option (Rule γ) :=
  match value with
  | .text value => failureOnText value rule
  | .flag value => failUnless value rule

/-- A failed range says which of its bounds failed; no other check has more to report than its
outcome. -/
def boundEvents (field : String) (value : Value) (rule : Rule γ) : List Event :=
  match value, rule.kind with
  | .text value, .between low high =>
    if (failedBounds value low high).isEmpty then []
    else [.boundFailed field (failedBounds value low high)]
  | _, _ => []

section Gated

variable [Gated γ σ]

/-- Asks the rule's gate once, if it has one. -/
def askGate (rule : Rule γ) : Traced γ σ (Option Bool) :=
  match rule.gate with
  | none => pure none
  | some gate => do return some (← Traced.ask gate)

/-- Evaluates one rule. The gate is asked before the value is looked at, and a closed gate skips
the rule. -/
def validate (field : String) (value : Value) (rule : Rule γ) : Traced γ σ (Option (Rule γ)) := do
  if (← askGate rule).getD true then
    let failure := failureOn value rule
    Traced.logAll (boundEvents field value rule)
    Traced.log (.ruleEvaluated field rule.code failure.isNone)
    return failure
  else
    Traced.log (.ruleSkipped field rule.code)
    return none

/-- The outcome of every rule, in order; a failure never keeps a later rule from being asked. -/
def outcomes (field : String) (value : Value) (rules : List (Rule γ)) :
    Traced γ σ (List (Option (Rule γ))) :=
  rules.mapM (validate field value)

theorem outcomes_cons (field : String) (value : Value) (rule : Rule γ) (rules : List (Rule γ)) :
    (outcomes field value (rule :: rules) : Traced γ σ _) = do
      let outcome ← validate field value rule
      let rest ← outcomes field value rules
      return outcome :: rest := List.mapM_cons

/-- The failures of all rules, in rule order. -/
def validateAll (field : String) (value : Value) (rules : List (Rule γ)) :
    Traced γ σ (List (Rule γ)) := do
  let failures := (← outcomes field value rules).filterMap id
  Traced.log (.fieldValidated field rules.length failures.length)
  return failures

/-- Evaluates one rule and then runs the hook once, whether the rule failed, passed or was
skipped. -/
def validateWith (field : String) (value : Value) (rule : Rule γ)
    (hook : Option (Rule γ) → String → Traced γ σ β) : Traced γ σ (Option (Rule γ) × β) := do
  let failure ← validate field value rule
  return (failure, ← hook failure field)

/-- Evaluates all rules and then runs the hook once on their failures. -/
def validateAllWith (field : String) (value : Value) (rules : List (Rule γ))
    (hook : List (Rule γ) → String → Traced γ σ β) : Traced γ σ (List (Rule γ) × β) := do
  let failures ← validateAll field value rules
  return (failures, ← hook failures field)

/-- Evaluates all rules; any failure is an error. -/
def ensure (field : String) (value : Value) (rules : List (Rule γ)) :
    Traced γ σ (Except FieldError Unit) := do
  let failures ← validateAll field value rules
  return if failures.isEmpty then .ok () else .error (.ofFailures field failures)

end Gated

/-- The events that tell of a field's failures: one for each, or one that there are none. -/
def failureEvents (failures : List (Rule γ)) (field : String) : List Event :=
  if failures.isEmpty then [.fieldPassed field]
  else failures.map fun failure =>
    .fieldFailed field failure.code (failure.messageFor field none)

/-- A hook that logs the outcome of all rules. -/
def logFailures (failures : List (Rule γ)) (field : String) : Traced γ σ Unit :=
  Traced.logAll (failureEvents failures field)

/-- A hook that logs the outcome of one rule. -/
def logFailure (failure : Option (Rule γ)) (field : String) : Traced γ σ Unit :=
  logFailures failure.toList field

end FormRules
