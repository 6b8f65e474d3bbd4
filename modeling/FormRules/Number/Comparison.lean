import FormRules.Number.Binary64

namespace FormRules.Number

/-- How a text stands to a threshold. -/
inductive Comparison where
  | holds
  | violated
  | notNumeric
  deriving DecidableEq, Repr

def isNumeric (value : String) : Bool := (Binary64.ofText? value).isSome

/-- Both texts are read as numbers; when either is not one, the relation is not tried. -/
def compareBy (relation : Binary64 → Binary64 → Bool) (value threshold : String) : Comparison :=
  match Binary64.ofText? value, Binary64.ofText? threshold with
  | some x, some y => if relation x y then .holds else .violated
  | _, _ => .notNumeric

def greaterThan (value threshold : String) : Comparison :=
  compareBy (fun x y => y.lessThan x) value threshold

def lowerThan (value threshold : String) : Comparison :=
  compareBy (fun x y => x.lessThan y) value threshold

end FormRules.Number
