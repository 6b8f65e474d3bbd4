import FormRules.FieldError

namespace FormRules

/-- A value of a record. -/
inductive Member where
  | text (value : String)
  | texts (values : List String)
  deriving DecidableEq, Repr

/-- The form in which kinds and errors are exchanged: named members, in order. -/
abbrev Record := List (String × Member)

/-- The member of a name, when it is a single text. -/
def Record.text? (record : Record) (name : String) : Option String :=
  match record.lookup name with
  | some (.text value) => some value
  | _ => none

/-- The name in small letters, an underscore before each of its capitals but the first letter. -/
def snakeCase (name : String) : String :=
  match name.toList with
  | [] => ""
  | c :: cs =>
    String.ofList (c.toLower :: cs.flatMap fun c => if c.isUpper then ['_', c.toLower] else [c.toLower])

/-- The kind's name stands under `kind`, the texts that the kind holds beside it. -/
def Kind.record (kind : Kind) : Record :=
  ("kind", .text (snakeCase kind.name)) :: kind.payload.map fun (name, text) => (name, .text text)

/-- Reads a kind back. Members that the kind does not need are ignored. -/
def Kind.ofRecord? (record : Record) : Option Kind :=
  match record.text? "kind" with
  | some "is_true" => some .isTrue
  | some "non_empty" => some .nonEmpty
  | some "is_numeric" => some .isNumeric
  | some "contains" => (record.text? "needle").map .contains
  | some "greater" => (record.text? "threshold").map .greater
  | some "lower" => (record.text? "threshold").map .lower
  | some "between" => do return .between (← record.text? "lower") (← record.text? "upper")
  | _ => none

def FieldError.record (error : FieldError) : Record :=
  [("field", .text error.field), ("codes", .texts error.codes), ("messages", .texts error.messages)]

end FormRules
