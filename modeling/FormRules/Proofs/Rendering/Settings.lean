import FormRules.Formatter
import Mathlib.Data.List.Nodup

namespace FormRules

variable {γ : Type}

namespace MessageFormatter

def Setting.separator? : Setting → Option String
  | .separator text => some text
  | .predicate _ _ => none

/-- The wording that a setting gives to a code. -/
def Setting.predicateFor? (code : String) : Setting → Option String
  | .separator _ => none
  | .predicate key wording => if code = key then some wording else none

/-- The separator set last, a newline before any is set. -/
def lastSeparator (settings : List Setting) : String :=
  (settings.filterMap Setting.separator?).getLast?.getD "\n"

/-- The wording set last for a code. -/
def lastPredicate? (code : String) (settings : List Setting) : Option String :=
  (settings.filterMap (Setting.predicateFor? code)).getLast?

theorem lastSeparator_concat (settings : List Setting) (setting : Setting) :
    lastSeparator (settings ++ [setting]) = setting.separator?.getD (lastSeparator settings) := by
  rw [lastSeparator, List.filterMap_append]
  cases h : setting.separator? with
  | none => simp [lastSeparator, h]
  | some separator => simp [h]

theorem lastPredicate?_concat (code : String) (settings : List Setting) (setting : Setting) :
    lastPredicate? code (settings ++ [setting]) =
      (setting.predicateFor? code).or (lastPredicate? code settings) := by
  rw [lastPredicate?, List.filterMap_append]
  cases h : setting.predicateFor? code with
  | none => simp [lastPredicate?, h]
  | some predicate => simp [h]

/-- What a formatter holds after some settings: for each code one wording at most, namely the last,
and the last separator. -/
structure Reflects (formatter : MessageFormatter) (settings : List Setting) : Prop where
  nodup : (formatter.predicates.map Prod.fst).Nodup
  predicate : ∀ code, formatter.predicate? code = lastPredicate? code settings
  separator : formatter.separator = lastSeparator settings

theorem reflects_nil : Reflects {} [] := ⟨List.nodup_nil, fun _ => rfl, rfl⟩

theorem nodup_withPredicate {formatter : MessageFormatter}
    (h : (formatter.predicates.map Prod.fst).Nodup) (code predicate : String) :
    ((formatter.withPredicate code predicate).predicates.map Prod.fst).Nodup := by
  rw [withPredicate, List.map_append, List.nodup_append]
  refine ⟨h.sublist (List.filter_sublist.map Prod.fst), List.nodup_singleton _, ?_⟩
  intro kept hkept set hset
  obtain ⟨entry, hentry, rfl⟩ := List.mem_map.mp hkept
  rw [List.mem_singleton.mp hset]
  exact bne_iff_ne.mp (List.mem_filter.mp hentry).2

namespace Reflects

variable {formatter : MessageFormatter} {settings : List Setting}

theorem set (h : formatter.Reflects settings) (setting : Setting) :
    (formatter.set setting).Reflects (settings ++ [setting]) := by
  cases setting with
  | separator separator =>
    refine ⟨h.nodup, ?_, ?_⟩
    · intro code
      rw [lastPredicate?_concat]
      exact h.predicate code
    · rw [lastSeparator_concat]
      rfl
  | predicate key predicate =>
    refine ⟨nodup_withPredicate h.nodup key predicate, ?_, ?_⟩
    · intro code
      rw [lastPredicate?_concat, MessageFormatter.set, predicate?_withPredicate, h.predicate,
        Setting.predicateFor?]
      split <;> rfl
    · rw [lastSeparator_concat]
      exact h.separator

theorem setAll (h : formatter.Reflects settings) (later : List Setting) :
    (formatter.setAll later).Reflects (settings ++ later) := by
  induction later generalizing formatter settings with
  | nil =>
    rw [List.append_nil]
    exact h
  | cons setting later ih =>
    rw [List.append_cons]
    exact ih (h.set setting)

/-- A formatter renders by the last settings alone. -/
theorem format (h : formatter.Reflects settings) (field : String) (failures : List (Rule γ)) :
    formatter.format field failures =
      (lastSeparator settings).intercalate (failures.map fun failure =>
        failure.message.getD (field ++ " should " ++
          (lastPredicate? failure.code settings).getD failure.kind.predicate)) := by
  have hmessage : formatter.message field = fun failure : Rule γ =>
      failure.message.getD (field ++ " should " ++
        (lastPredicate? failure.code settings).getD failure.kind.predicate) := by
    funext failure
    rw [MessageFormatter.message, h.predicate]
    rfl
  rw [MessageFormatter.format, hmessage, h.separator]

end Reflects

/-- In a formatter built by any settings the last one of each kind is in force: the last wording of
each code, stored once, and the last separator. So settings that end alike render alike, in whatever
order they came. -/
theorem last_settings_in_force (earlier later : List Setting) :
    let formatter := (setAll {} earlier).setAll later
    let settings := earlier ++ later
    (formatter.predicates.map Prod.fst).Nodup ∧
    (∀ code, formatter.predicate? code = lastPredicate? code settings) ∧
    formatter.separator = lastSeparator settings ∧
    (∀ (field : String) (failures : List (Rule γ)),
      formatter.format field failures =
        (lastSeparator settings).intercalate (failures.map fun failure =>
          failure.message.getD (field ++ " should " ++
            (lastPredicate? failure.code settings).getD failure.kind.predicate))) ∧
    ∀ others : List Setting, lastSeparator others = lastSeparator settings →
      (∀ code, lastPredicate? code others = lastPredicate? code settings) →
      ∀ (field : String) (failures : List (Rule γ)),
        (setAll {} others).format field failures = formatter.format field failures := by
  intro formatter settings
  have hreflects : formatter.Reflects settings := (reflects_nil.setAll earlier).setAll later
  refine ⟨hreflects.nodup, hreflects.predicate, hreflects.separator, hreflects.format, ?_⟩
  intro others hseparator hpredicate field failures
  have hothers : (setAll {} others).Reflects others := reflects_nil.setAll others
  rw [hreflects.format, hothers.format, hseparator]
  simp only [hpredicate]

/-- Two formatters that hold the same wordings in another order, one of them after a change of mind,
and one of the codes unknown. -/
theorem last_settings_in_force_reordered :
    let settings : List Setting := [.predicate "greater" "be bigger", .separator "; ",
      .predicate "odd" "be odd", .predicate "greater" "exceed the minimum"]
    let others : List Setting := [.predicate "greater" "exceed the minimum", .separator "\n",
      .predicate "odd" "be odd", .separator "; "]
    let formatter := (setAll {} (settings.take 2)).setAll (settings.drop 2)
    let failures : List (Rule Unit) := [.greater "1", Rule.nonEmpty.withMessage "", .isNumeric]
    lastSeparator others = lastSeparator settings ∧
      (∀ code, lastPredicate? code others = lastPredicate? code settings) ∧
      formatter.predicates ≠ (setAll {} others).predicates ∧
      (setAll {} others).format "Price" failures = formatter.format "Price" failures ∧
      formatter.format "Price" failures =
        "Price should exceed the minimum; ; Price should be a number" := by
  intro settings others formatter failures
  have hseparator : lastSeparator others = lastSeparator settings := by decide
  have hpredicate : ∀ code, lastPredicate? code others = lastPredicate? code settings := by
    intro code
    by_cases hgreater : code = "greater"
    · subst hgreater
      decide
    · simp [lastPredicate?, Setting.predicateFor?, List.findSome?_cons, settings, others, hgreater]
  obtain ⟨-, -, -, hformat, hsame⟩ :=
    last_settings_in_force (γ := Unit) (settings.take 2) (settings.drop 2)
  refine ⟨hseparator, hpredicate, by decide, hsame others hseparator hpredicate "Price" failures,
    (hformat "Price" failures).trans ?_⟩
  decide +kernel

end MessageFormatter

end FormRules
