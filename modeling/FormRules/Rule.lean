import FormRules.Kind

namespace FormRules

/-- A check with an optional message of its own and an optional gate of type `γ`. A failed rule
is its own failure: it holds all that is needed to explain it. -/
structure Rule (γ : Type) where
  kind : Kind
  message : Option String := none
  gate : Option γ := none
  deriving DecidableEq, Repr

namespace Rule

variable {γ : Type}

/-- A rule without a message of its own and without a gate. -/
def ofKind (kind : Kind) : Rule γ := { kind }

def isTrue : Rule γ := ofKind .isTrue

def nonEmpty : Rule γ := ofKind .nonEmpty

def isNumeric : Rule γ := ofKind .isNumeric

def contains (needle : String) : Rule γ := ofKind (.contains needle)

def greater (threshold : String) : Rule γ := ofKind (.greater threshold)

def lower (threshold : String) : Rule γ := ofKind (.lower threshold)

def between (lower upper : String) : Rule γ := ofKind (.between lower upper)

def withMessage (rule : Rule γ) (message : String) : Rule γ := { rule with message := some message }

/-- Evaluates the rule only while the gate is open. -/
def on (rule : Rule γ) (gate : γ) : Rule γ := { rule with gate := some gate }

def code (rule : Rule γ) : String := rule.kind.code

/-- The rule's own message as it is, and otherwise the message of its kind. -/
def messageFor (rule : Rule γ) (field : String) (should : Option String) : String :=
  rule.message.getD (rule.kind.messageFor field should)

end Rule

/-- What a caller sees of a rule, with its message for a field. -/
structure RuleView where
  kind : Kind
  message : Option String
  gated : Bool
  text : String
  deriving DecidableEq, Repr

def Rule.view {γ : Type} (rule : Rule γ) (field : String) : RuleView where
  kind := rule.kind
  message := rule.message
  gated := rule.gate.isSome
  text := rule.messageFor field none

end FormRules
