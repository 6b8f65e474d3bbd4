import FormRules.Rule

namespace FormRules

/-- The failures of one field, rendered. -/
structure FieldError where
  field : String
  codes : List String
  messages : List String
  deriving DecidableEq, Repr

namespace FieldError

def ofFailures {γ : Type} (field : String) (failures : List (Rule γ)) : FieldError where
  field := field
  codes := failures.map Rule.code
  messages := failures.map (·.messageFor field none)

def size (error : FieldError) : Nat := error.codes.length

def isEmpty (error : FieldError) : Bool := error.codes.isEmpty

/-- The messages, one a line. -/
def display (error : FieldError) : String := "\n".intercalate error.messages

instance : ToString FieldError := ⟨display⟩

end FieldError

end FormRules
