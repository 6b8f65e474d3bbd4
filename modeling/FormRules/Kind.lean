namespace FormRules

/-- What a rule asks of a value. Thresholds and bounds are texts, read as numbers only when a
value is checked, so that messages can repeat them as they were written. -/
inductive Kind where
  | isTrue
  | nonEmpty
  | isNumeric
  | contains (needle : String)
  | greater (threshold : String)
  | lower (threshold : String)
  | between (lower upper : String)
  deriving DecidableEq, Repr

namespace Kind

/-- The kind's name, each of its words with a capital. -/
def name : Kind → String
  | isTrue => "IsTrue"
  | nonEmpty => "NonEmpty"
  | isNumeric => "IsNumeric"
  | contains _ => "Contains"
  | greater _ => "Greater"
  | lower _ => "Lower"
  | between _ _ => "Between"

/-- The texts that the kind holds, each after its name. -/
def payload : Kind → List (String × String)
  | isTrue | nonEmpty | isNumeric => []
  | contains needle => [("needle", needle)]
  | greater threshold | lower threshold => [("threshold", threshold)]
  | between low high => [("lower", low), ("upper", high)]

/-- The kind's short name, its key in message overrides. -/
def code : Kind → String
  | isTrue => "is_true"
  | nonEmpty => "non_empty"
  | isNumeric => "is_numeric"
  | contains _ => "contains"
  | greater _ => "greater"
  | lower _ => "lower"
  | between _ _ => "between"

instance : ToString Kind := ⟨code⟩

/-- What the value should do, in words. -/
def predicate : Kind → String
  | isTrue => "be true"
  | nonEmpty => "not be empty"
  | isNumeric => "be a number"
  | contains needle => "contain `" ++ needle ++ "`"
  | greater threshold => "be greater than " ++ threshold
  | lower threshold => "be lower than " ++ threshold
  | between low high => "be between " ++ low ++ " and " ++ high

/-- The message for a field; `should` stands in for the kind's own words. -/
def messageFor (kind : Kind) (field : String) (should : Option String) : String :=
  field ++ " should " ++ should.getD kind.predicate

end Kind

end FormRules
