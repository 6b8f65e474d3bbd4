import FormRules.Formatter
import FormRules.Proofs.Validation.Completion
import FormRules.Proofs.Validation.Text

namespace FormRules

/-- The pieces of a text between the places where a character stands. -/
def Text.pieces (c : Char) (text : String) : List String :=
  (text.split c).toList.map fun piece => piece.copy

open Text (pieces)

/-- There is no line break in the text. -/
def OneLine (text : String) : Prop := '\n' ∉ text.toList

instance (text : String) : Decidable (OneLine text) :=
  inferInstanceAs (Decidable ('\n' ∉ text.toList))

theorem oneLine_append {a b : String} : OneLine (a ++ b) ↔ OneLine a ∧ OneLine b := by
  rw [OneLine, String.toList_append, List.mem_append, not_or]
  rfl

theorem Kind.oneLine_predicate {kind : Kind} (h : ∀ entry ∈ kind.payload, OneLine entry.2) :
    OneLine kind.predicate := by
  cases kind with
  | isTrue => decide
  | nonEmpty => decide
  | isNumeric => decide
  | contains needle =>
    have hneedle : OneLine needle := h ("needle", needle) List.mem_cons_self
    change OneLine ("contain `" ++ needle ++ "`")
    rw [oneLine_append, oneLine_append]
    exact ⟨⟨by decide, hneedle⟩, by decide⟩
  | greater threshold =>
    have hthreshold : OneLine threshold := h ("threshold", threshold) List.mem_cons_self
    change OneLine ("be greater than " ++ threshold)
    exact oneLine_append.mpr ⟨by decide, hthreshold⟩
  | lower threshold =>
    have hthreshold : OneLine threshold := h ("threshold", threshold) List.mem_cons_self
    change OneLine ("be lower than " ++ threshold)
    exact oneLine_append.mpr ⟨by decide, hthreshold⟩
  | between low high =>
    have hlow : OneLine low := h ("lower", low) List.mem_cons_self
    have hhigh : OneLine high := h ("upper", high) (List.mem_cons_of_mem _ List.mem_cons_self)
    change OneLine ("be between " ++ low ++ " and " ++ high)
    rw [oneLine_append, oneLine_append, oneLine_append]
    exact ⟨⟨⟨by decide, hlow⟩, by decide⟩, hhigh⟩

variable {γ σ : Type}

/-- There is no line break in any text that the rule was given. -/
structure Rule.OneLine (rule : Rule γ) : Prop where
  message : ∀ text ∈ rule.message, FormRules.OneLine text
  payload : ∀ entry ∈ rule.kind.payload, FormRules.OneLine entry.2

namespace Rule.OneLine

variable {rule failure : Rule γ}

theorem messageFor (h : rule.OneLine) {field : String} (hfield : FormRules.OneLine field) :
    FormRules.OneLine (rule.messageFor field none) := by
  rw [Rule.messageFor]
  cases hmessage : rule.message with
  | some message => exact h.message message hmessage
  | none =>
    change FormRules.OneLine (field ++ " should " ++ rule.kind.predicate)
    rw [oneLine_append, oneLine_append]
    exact ⟨⟨hfield, by decide⟩, Kind.oneLine_predicate h.payload⟩

/-- The numeric check that stands for a rule has no text at all. -/
theorem of_failureOn {value : Value} (h : rule.OneLine) (hfails : failureOn value rule = some failure) :
    failure.OneLine := by
  rcases failureOn_cases hfails with hsame | hbare
  · rw [hsame]
    exact h
  · rw [hbare]
    constructor
    · intro text htext
      cases htext
    · intro entry hentry
      cases hentry

end Rule.OneLine

/-- What stands between the separators is the messages, as long as none of them has a separator in
it. -/
theorem pieces_formatMessages {field : String} {c : Char} {failures : List (Rule γ)}
    (hsome : failures ≠ [])
    (h : ∀ failure ∈ failures, c ∉ (failure.messageFor field none).toList) :
    pieces c (formatMessages field failures (String.singleton c)) =
      failures.map (·.messageFor field none) := by
  have hmessages : ∀ message ∈ failures.map (·.messageFor field none), c ∉ message.toList := by
    intro message hmessage
    obtain ⟨failure, hfailure, rfl⟩ := List.mem_map.mp hmessage
    exact h failure hfailure
  rw [formatMessages, pieces, String.toList_split_intercalate hmessages, if_neg]
  exact mt List.map_eq_nil_iff.mp hsome

variable [Gated γ σ]

theorem validateAll_oneLine {field : String} (value : Value) {rules : List (Rule γ)} (state : σ)
    (h : ∀ rule ∈ rules, rule.OneLine) :
    ∀ failure ∈ (validateAll field value rules state).value, failure.OneLine := by
  intro failure hfailure
  obtain ⟨rule, hrule, hfails⟩ := failureOn_of_validateAll hfailure
  exact (h rule hrule).of_failureOn hfails

/-- The rendered failures are taken apart again at the separator, message by message. Lines come
apart as they were put together whenever there was no line break in what the rules and the field were
given, be they rendered by themselves or by the error. -/
theorem lines_are_messages (field : String) :
    (∀ (c : Char) (failures : List (Rule γ)), failures ≠ [] →
      (∀ failure ∈ failures, c ∉ (failure.messageFor field none).toList) →
      pieces c (formatMessages field failures (String.singleton c)) =
        failures.map (·.messageFor field none)) ∧
    ∀ (value : Value) (rules : List (Rule γ)) (state : σ), OneLine field →
      (∀ rule ∈ rules, rule.OneLine) →
      let failures := (validateAll field value rules state).value
      let messages := failures.map (·.messageFor field none)
      failures ≠ [] →
      pieces '\n' (formatLines field failures) = messages ∧
      ∃ error, (ensure field value rules state).value = .error error ∧
        pieces '\n' (toString error) = messages := by
  refine ⟨fun c failures => pieces_formatMessages, ?_⟩
  intro value rules state hfield hrules failures messages hsome
  have hlines : pieces '\n' (formatLines field failures) = messages := by
    apply pieces_formatMessages hsome
    intro failure hfailure
    exact (validateAll_oneLine value state hrules failure hfailure).messageFor hfield
  refine ⟨hlines, .ofFailures field failures, ?_, hlines⟩
  rw [ensure_apply]
  exact if_neg (mt List.isEmpty_iff.mp hsome)

/-- Empty messages at both ends, and between them a failure that is not the rule. -/
theorem lines_are_messages_empty_ends :
    let rules : List (Rule Gate) :=
      [Rule.nonEmpty.withMessage "", Rule.greater "4", (Rule.contains "x").withMessage ""]
    let state : GateState := {}
    let failures := (validateAll "Gear" (.text "") rules state).value
    OneLine "Gear" ∧ (∀ rule ∈ rules, rule.OneLine) ∧ failures ≠ [] ∧
      formatLines "Gear" failures = "\nGear should be a number\n" ∧
      pieces '\n' (formatLines "Gear" failures) = ["", "Gear should be a number", ""] ∧
      pieces ';' (formatMessages "Gear" failures ";") = ["", "Gear should be a number", ""] := by
  intro rules state failures
  have hfailures : failures =
      [Rule.nonEmpty.withMessage "", .isNumeric, (Rule.contains "x").withMessage ""] := by
    decide +kernel
  have hfield : OneLine "Gear" := by decide
  have hrules : ∀ rule ∈ rules, rule.OneLine := by
    intro rule hrule
    constructor
    · revert rule
      decide
    · revert rule
      decide
  have hsome : failures ≠ [] := by
    rw [hfailures]
    exact List.cons_ne_nil _ _
  have hfree : ∀ failure ∈ failures, ';' ∉ (failure.messageFor "Gear" none).toList := by
    rw [hfailures]
    decide
  have hmessages : failures.map (·.messageFor "Gear" none) = ["", "Gear should be a number", ""] := by
    rw [hfailures]
    decide
  obtain ⟨hpieces, hlines⟩ := lines_are_messages (γ := Gate) (σ := GateState) "Gear"
  refine ⟨hfield, hrules, hsome, ?_, ?_, ?_⟩
  · rw [hfailures]
    decide +kernel
  · exact (hlines (.text "") rules state hfield hrules hsome).1.trans hmessages
  · exact (hpieces ';' failures hsome hfree).trans hmessages

end FormRules
