import FormRules.FieldError
import FormRules.Formatter

namespace FormRules

variable {γ : Type}

/-- No wording of the formatter is for the code of a failure that lacks a message of its own. -/
def MessageFormatter.Bypasses (formatter : MessageFormatter) (failures : List (Rule γ)) : Prop :=
  ∀ failure ∈ failures, failure.message = none →
    ∀ entry ∈ formatter.predicates, entry.1 ≠ failure.code

instance (formatter : MessageFormatter) (failures : List (Rule γ)) :
    Decidable (formatter.Bypasses failures) :=
  inferInstanceAs (Decidable (∀ failure ∈ failures, failure.message = none →
    ∀ entry ∈ formatter.predicates, entry.1 ≠ failure.code))

namespace MessageFormatter

theorem predicate?_eq_none {formatter : MessageFormatter} {code : String}
    (h : ∀ entry ∈ formatter.predicates, entry.1 ≠ code) : formatter.predicate? code = none := by
  apply List.lookup_eq_none_iff.mpr
  intro entry hentry
  exact bne_iff_ne.mpr (h entry hentry).symm

theorem Bypasses.message {formatter : MessageFormatter} {failures : List (Rule γ)}
    (h : formatter.Bypasses failures) (field : String) {failure : Rule γ}
    (hfailure : failure ∈ failures) :
    formatter.message field failure = failure.messageFor field none := by
  rw [MessageFormatter.message, Rule.messageFor, Rule.messageFor]
  cases hmessage : failure.message with
  | some message => rfl
  | none => rw [predicate?_eq_none (h failure hfailure hmessage)]

theorem Bypasses.format {formatter : MessageFormatter} {failures : List (Rule γ)}
    (h : formatter.Bypasses failures) (field : String) :
    formatter.format field failures = formatMessages field failures formatter.separator := by
  have hmessages : failures.map (formatter.message field) =
      failures.map (·.messageFor field none) :=
    List.map_congr_left fun _ hfailure => h.message field hfailure
  rw [MessageFormatter.format, formatMessages, hmessages]

/-- A formatter without wordings of its own has none that could matter. -/
theorem bypasses_plain (separator : String) (failures : List (Rule γ)) :
    (withSeparator {} separator).Bypasses failures := by
  intro failure _ _ entry hentry
  cases hentry

end MessageFormatter

theorem formatMessages_append (field separator : String) {xs ys : List (Rule γ)} (hxs : xs ≠ [])
    (hys : ys ≠ []) :
    formatMessages field (xs ++ ys) separator =
      formatMessages field xs separator ++ separator ++ formatMessages field ys separator := by
  rw [formatMessages, List.map_append]
  apply String.intercalate_append_of_ne_nil
  · exact mt List.map_eq_nil_iff.mp hxs
  · exact mt List.map_eq_nil_iff.mp hys

/-- All ways to render failures give one text: with a separator, by themselves or by a validator, line
by line, as an error, and by a formatter whose wordings are all for other failures. The text of a list
is put together from the texts of its parts. -/
theorem renderers_agree (field separator : String) (failures : List (Rule γ)) :
    let text := formatMessages field failures separator
    let lines := formatMessages field failures "\n"
    let plain : MessageFormatter := {}
    let error := FieldError.ofFailures field failures
    (formatWith field failures separator = text ∧
      (plain.withSeparator separator).format field failures = text ∧
      ∀ formatter : MessageFormatter, formatter.separator = separator →
        formatter.Bypasses failures → formatter.format field failures = text) ∧
    (formatLines field failures = lines ∧ plain.format field failures = lines ∧
      error.display = lines ∧
      ∀ k : Nat, error.messages[k]? = failures[k]?.map (plain.message field)) ∧
    (∀ xs ys : List (Rule γ), xs ≠ [] → ys ≠ [] →
      formatMessages field (xs ++ ys) separator =
        formatMessages field xs separator ++ separator ++ formatMessages field ys separator) ∧
    formatMessages field ([] : List (Rule γ)) separator = "" := by
  intro text lines plain error
  have hplain : plain.Bypasses failures := MessageFormatter.bypasses_plain "\n" failures
  refine ⟨⟨rfl, ?_, ?_⟩, ⟨rfl, ?_, rfl, ?_⟩, ?_, ?_⟩
  · exact (MessageFormatter.bypasses_plain separator failures).format field
  · intro formatter hseparator hbypasses
    rw [hbypasses.format field, hseparator]
  · exact hplain.format field
  · intro k
    have hmessages : error.messages = failures.map (plain.message field) :=
      (List.map_congr_left fun _ hfailure => hplain.message field hfailure).symm
    rw [hmessages, List.getElem?_map]
  · intro xs ys hxs hys
    exact formatMessages_append field separator hxs hys
  · exact String.intercalate_nil

/-- A wording for a failure that has a message of its own, if an empty one, and a wording that no
failure asks for. -/
theorem renderers_agree_beside_wordings :
    let formatter := ((MessageFormatter.withSeparator {} " | ").withPredicate "is_numeric"
      "be digits").withPredicate "odd" "be odd"
    let failures : List (Rule Unit) := [.nonEmpty, Rule.isNumeric.withMessage "", .greater "4"]
    formatter.separator = " | " ∧ formatter.Bypasses failures ∧
      formatter.format "Gear" failures = formatMessages "Gear" failures " | " ∧
      formatMessages "Gear" failures " | " =
        "Gear should not be empty" ++ " | " ++ " | Gear should be greater than 4" := by
  intro formatter failures
  have hbypasses : formatter.Bypasses failures := by decide
  obtain ⟨⟨-, -, hformat⟩, -, happend, -⟩ := renderers_agree "Gear" " | " failures
  refine ⟨rfl, hbypasses, hformat formatter rfl hbypasses, ?_⟩
  exact happend [.nonEmpty] [Rule.isNumeric.withMessage "", .greater "4"] (by simp) (by simp)

end FormRules
