import FormRules.Kind
import FormRules.Number.Comparison
import FormRules.Text.Search

namespace FormRules

open Number Text

/-- A question about texts, flags and kinds alone. -/
inductive Query where
  | number (text : String)
  | isNumeric (value : String)
  | greaterThan (value threshold : String)
  | lowerThan (value threshold : String)
  | isNonEmpty (value : String)
  | contains (value needle : String)
  | isTrue (value : Bool)
  | sameKind (a b : Kind)
  | kindMessage (kind : Kind) (field : String) (should : Option String)
  deriving DecidableEq, Repr

inductive Answer where
  | number (parsed : Option Binary64)
  | comparison (outcome : Comparison)
  | truth (holds : Bool)
  | kindMessage (kind : Kind) (text : String)
  deriving DecidableEq

def Query.answer : Query → Answer
  | number text => .number (Binary64.ofText? text)
  | isNumeric value => .truth (Number.isNumeric value)
  | greaterThan value threshold => .comparison (Number.greaterThan value threshold)
  | lowerThan value threshold => .comparison (Number.lowerThan value threshold)
  | isNonEmpty value => .truth (Text.isNonEmpty value)
  | contains value needle => .truth (containsIgnoreCase value needle)
  | isTrue value => .truth value
  | sameKind a b => .truth (a == b)
  | kindMessage kind field should => .kindMessage kind (kind.messageFor field should)

end FormRules
