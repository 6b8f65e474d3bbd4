import FormRules.Formatter
import FormRules.Query
import FormRules.Validation

namespace FormRules

/-- A rule, written out or taken from a slot. A rule from a slot brings its gate along. -/
inductive RuleSource (γ : Type) where
  | slot (name : String)
  | given (rule : Rule γ)

inductive ListSource (γ : Type) where
  | slot (name : String)
  | given (rules : List (RuleSource γ))

/-- A formatter from a slot, or one built from a slot or the default by further settings. -/
inductive FormatterSource where
  | slot (name : String)
  | built (base : Option String) (settings : List MessageFormatter.Setting)

/-- What happens to the outcome of a validation before it is returned. -/
inductive Completion where
  | plain
  | record
  | log

/-- One step of a session. A step that stores its result names the slot. -/
inductive Step (γ σ : Type) where
  | query (query : Query)
  | adjust (change : σ → σ)
  | askGate (rule : RuleSource γ)
  | validate (field : String) (value : Value) (rule : RuleSource γ) (completion : Completion)
      (store : Option String)
  | validateAll (field : String) (value : Value) (rules : ListSource γ) (completion : Completion)
      (store : Option String)
  | ensure (field : String) (value : Value) (rules : ListSource γ)
  | rule (rule : RuleSource γ) (message : Option String) (gate : Option γ) (field : String)
      (store : Option String)
  | list (rules : ListSource γ) (field : String) (store : Option String)
  | message (rule : RuleSource γ) (field : String) (should : Option String)
  | inspect (rule : RuleSource γ)
  | formatMessages (field : String) (failures : ListSource γ) (separator : String)
  | format (formatter : FormatterSource) (field : String) (failures : ListSource γ)
      (codes : List String) (store : Option String)
  | fieldError (field : String) (failures : ListSource γ)
  | sameError (field : String) (failures : ListSource γ) (field' : String)
      (failures' : ListSource γ)
  | log (field : String) (failures : ListSource γ)
  | logFirst (field : String) (failures : ListSource γ)

/-- The result of a step. -/
inductive Reply where
  | done
  | unsetSlot
  | answer (answer : Answer)
  | gate (answer : Option Bool)
  | validated (failure : Option RuleView) (hooked : List (String × Option RuleView))
  | validatedAll (failures : List RuleView) (hooked : List (String × List RuleView))
      (text : String)
  | ensured (result : Except FieldError Unit)
  | rule (view : RuleView)
  | list (views : List RuleView)
  | message (code text : String)
  | text (text : String)
  | formatted (separator : String) (predicates : List (String × Option String))
      (messages : List String) (text : String)
  | fieldError (error : FieldError)
  | truth (holds : Bool)

end FormRules
