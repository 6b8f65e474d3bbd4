import FormRules.Rule

namespace FormRules

def defaultSeparator : String := "\n"

/-- The messages of the failures in order, with the separator between them. -/
def formatMessages {γ : Type} (field : String) (failures : List (Rule γ)) (separator : String) :
    String :=
  separator.intercalate (failures.map (·.messageFor field none))

/-- A validator's rendering of failures, one message a line. -/
def formatLines {γ : Type} (field : String) (failures : List (Rule γ)) : String :=
  formatMessages field failures defaultSeparator

/-- A validator's rendering of failures with a separator of the caller's. -/
def formatWith {γ : Type} (field : String) (failures : List (Rule γ)) (separator : String) : String :=
  formatMessages field failures separator

/-- A renderer of failures with wordings of its own, keyed by the code of a kind. -/
structure MessageFormatter where
  separator : String := defaultSeparator
  predicates : List (String × String) := []
  deriving DecidableEq, Repr

namespace MessageFormatter

def withSeparator (formatter : MessageFormatter) (separator : String) : MessageFormatter :=
  { formatter with separator }

/-- Sets the wording for a code, in place of an earlier one. -/
def withPredicate (formatter : MessageFormatter) (code predicate : String) : MessageFormatter :=
  { formatter with
    predicates := formatter.predicates.filter (·.1 != code) ++ [(code, predicate)] }

def predicate? (formatter : MessageFormatter) (code : String) : Option String :=
  formatter.predicates.lookup code

theorem lookup_filter_ne (predicates : List (String × String)) (code key : String) :
    (predicates.filter (·.1 != code)).lookup key =
      if key = code then none else predicates.lookup key := by
  induction predicates with
  | nil => simp
  | cons entry rest ih =>
    obtain ⟨name, wording⟩ := entry
    rw [List.filter_cons, List.lookup_cons]
    by_cases hn : name = code
    · subst hn
      by_cases hk : key = name
      · simp only [bne_self_eq_false, Bool.false_eq_true, if_false, ih, if_pos hk]
      · have other : (key == name) = false := beq_false_of_ne hk
        simp only [bne_self_eq_false, Bool.false_eq_true, if_false, ih, if_neg hk, other]
    · have kept : (name != code) = true := bne_iff_ne.mpr hn
      by_cases hk : key = name
      · subst hk
        simp only [kept, if_true, List.lookup_cons, beq_self_eq_true, if_neg hn]
      · have other : (key == name) = false := beq_false_of_ne hk
        simp only [kept, if_true, List.lookup_cons, other, ih]

/-- The last wording set for a code is the one in force. -/
theorem predicate?_withPredicate (formatter : MessageFormatter) (code predicate key : String) :
    (formatter.withPredicate code predicate).predicate? key =
      if key = code then some predicate else formatter.predicate? key := by
  have filtered := lookup_filter_ne formatter.predicates code key
  by_cases hk : key = code
  · subst hk
    simp only [if_true] at filtered
    simp [predicate?, withPredicate, List.lookup_append, filtered]
  · have hb : (key == code) = false := by simpa using hk
    simp only [if_neg hk] at filtered
    simp [predicate?, withPredicate, List.lookup_append, filtered, List.lookup_cons, hb, hk]

/-- A message set on the failure itself goes before any wording of the formatter. -/
def message {γ : Type} (formatter : MessageFormatter) (field : String) (failure : Rule γ) : String :=
  failure.messageFor field (formatter.predicate? failure.code)

def format {γ : Type} (formatter : MessageFormatter) (field : String) (failures : List (Rule γ)) :
    String :=
  formatter.separator.intercalate (failures.map (formatter.message field))

/-- One call on a formatter under construction. -/
inductive Setting where
  | separator (separator : String)
  | predicate (code predicate : String)
  deriving DecidableEq, Repr

def set (formatter : MessageFormatter) : Setting → MessageFormatter
  | .separator separator => formatter.withSeparator separator
  | .predicate code predicate => formatter.withPredicate code predicate

/-- Applies the settings in order. -/
def setAll (formatter : MessageFormatter) (settings : List Setting) : MessageFormatter :=
  settings.foldl set formatter

end MessageFormatter

end FormRules
