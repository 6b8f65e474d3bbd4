import FormRules.Text.Quoted

namespace FormRules

/-- How much an event matters. -/
inductive Level where
  | error
  | warn
  | info
  | debug
  | trace
  deriving DecidableEq, Repr

/-- Zero for the most severe level. -/
def Level.rank : Level → Nat
  | error => 0
  | warn => 1
  | info => 2
  | debug => 3
  | trace => 4

/-- A log kept at one level shows the events of that level and the more severe ones. -/
def Level.shows (threshold level : Level) : Bool := level.rank ≤ threshold.rank

/-- What is logged in the course of a validation. -/
inductive Event where
  | ruleSkipped (field code : String)
  | ruleEvaluated (field code : String) (passed : Bool)
  | boundFailed (field : String) (failed : List String)
  | fieldValidated (field : String) (rules failures : Nat)
  | fieldPassed (field : String)
  | fieldFailed (field code message : String)
  deriving DecidableEq, Repr

inductive EventValue where
  | text (value : String)
  | truth (value : Bool)
  | count (value : Nat)
  deriving DecidableEq, Repr

namespace Event

def level : Event → Level
  | ruleSkipped _ _ | ruleEvaluated _ _ _ | boundFailed _ _ => .trace
  | fieldValidated _ _ _ | fieldPassed _ => .debug
  | fieldFailed _ _ _ => .warn

/-- The event as named values, its headline first. A failed field names its rendered message
`message` as well. -/
def fields : Event → List (String × EventValue)
  | ruleSkipped field code =>
    [("message", .text "rule skipped by gate"), ("field", .text field), ("code", .text code)]
  | ruleEvaluated field code passed =>
    [("message", .text "rule evaluated"), ("field", .text field), ("code", .text code),
      ("passed", .truth passed)]
  | boundFailed field failed =>
    [("message", .text "between bound failed"), ("field", .text field),
      ("failed", .text (Text.quotedList failed))]
  | fieldValidated field rules failures =>
    [("message", .text "field validated"), ("field", .text field), ("rules", .count rules),
      ("failures", .count failures)]
  | fieldPassed field =>
    [("message", .text "field passed validation"), ("field", .text field)]
  | fieldFailed field code message =>
    [("message", .text "field failed validation"), ("field", .text field), ("code", .text code),
      ("message", .text message)]

end Event

end FormRules
