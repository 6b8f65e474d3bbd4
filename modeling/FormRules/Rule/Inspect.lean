import FormRules.Rule
import FormRules.Text.Quoted

namespace FormRules

open Text (quoted)

/-- The kind spelled out, the texts that it holds quoted between braces. -/
def Kind.inspect (kind : Kind) : String :=
  if kind.payload.isEmpty then kind.name
  else
    kind.name ++ " \x7b " ++
      ", ".intercalate (kind.payload.map fun (name, text) => name ++ ": " ++ quoted text) ++ " \x7d"

def inspectMessage : Option String → String
  | none => "None"
  | some message => "Some(" ++ quoted message ++ ")"

/-- Only the presence of a gate is shown. -/
def inspectGate (present : Bool) : String :=
  if present then "Some(Gate \x7b .. \x7d)" else "None"

/-- The rule spelled out for a developer. -/
def Rule.inspect {γ : Type} (rule : Rule γ) : String :=
  "Rule \x7b kind: " ++ rule.kind.inspect ++ ", message: " ++ inspectMessage rule.message ++
    ", gate: " ++ inspectGate rule.gate.isSome ++ " \x7d"

end FormRules
