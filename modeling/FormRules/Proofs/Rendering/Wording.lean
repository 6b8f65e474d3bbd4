import FormRules.Proofs.Kind.Payload
import FormRules.Proofs.Number.Grammar

namespace FormRules

namespace Kind

/-- A kind that is no range, or a range that begins at a number. -/
def BeginsAtNumber (kind : Kind) : Prop :=
  ∀ low high, kind = .between low high → Number.isNumeric low = true

/-- The range whose bounds are written out in these words. The lower one is taken to end at the first
space. -/
def ofBounds (words : List Char) : Kind :=
  .between (String.ofList (words.takeWhile (· ≠ ' ')))
    (String.ofList ((words.dropWhile (· ≠ ' ')).drop " and ".toList.length))

/-- Reads a kind back from its words. -/
def ofPredicate? (words : List Char) : Option Kind :=
  if words = "be true".toList then some .isTrue
  else if words = "not be empty".toList then some .nonEmpty
  else if words = "be a number".toList then some .isNumeric
  else
    match words.dropPrefix? "contain `".toList, words.dropPrefix? "be greater than ".toList,
      words.dropPrefix? "be lower than ".toList, words.dropPrefix? "be between ".toList with
    | some rest, _, _, _ => some (.contains (String.ofList rest.dropLast))
    | _, some rest, _, _ => some (.greater (String.ofList rest))
    | _, _, some rest, _ => some (.lower (String.ofList rest))
    | _, _, _, some rest => some (ofBounds rest)
    | _, _, _, _ => none

/-- Reads a kind back from its message for a field. -/
def ofMessage? (field message : String) : Option Kind :=
  (message.toList.dropPrefix? (field ++ " should ").toList).bind ofPredicate?

theorem ofBounds_bounds {low : String} (h : ' ' ∉ low.toList) (high : String) :
    ofBounds (low.toList ++ (" and ".toList ++ high.toList)) = .between low high := by
  have hlow : ∀ c ∈ low.toList, decide (c ≠ ' ') = true := by
    intro c hc
    rw [decide_eq_true_eq]
    intro hspace
    rw [hspace] at hc
    exact h hc
  have htake : (low.toList ++ (" and ".toList ++ high.toList)).takeWhile (· ≠ ' ') = low.toList := by
    rw [List.takeWhile_append_of_pos hlow]
    exact List.append_nil _
  have hdrop : (low.toList ++ (" and ".toList ++ high.toList)).dropWhile (· ≠ ' ') =
      " and ".toList ++ high.toList := by
    rw [List.dropWhile_append_of_pos hlow]
    rfl
  rw [ofBounds, htake, hdrop, List.drop_left, String.ofList_toList, String.ofList_toList]

theorem toList_predicate_contains (needle : String) :
    (contains needle).predicate.toList =
      "contain `".toList ++ (needle.toList ++ "`".toList) := by
  change ("contain `" ++ needle ++ "`").toList = _
  simp only [String.toList_append, List.append_assoc]

theorem toList_predicate_greater (threshold : String) :
    (greater threshold).predicate.toList = "be greater than ".toList ++ threshold.toList :=
  String.toList_append

theorem toList_predicate_lower (threshold : String) :
    (lower threshold).predicate.toList = "be lower than ".toList ++ threshold.toList :=
  String.toList_append

theorem toList_predicate_between (low high : String) :
    (between low high).predicate.toList =
      "be between ".toList ++ (low.toList ++ (" and ".toList ++ high.toList)) := by
  change ("be between " ++ low ++ " and " ++ high).toList = _
  simp only [String.toList_append, List.append_assoc]

theorem ofPredicate?_predicate {kind : Kind} (h : kind.BeginsAtNumber) :
    ofPredicate? kind.predicate.toList = some kind := by
  cases kind with
  | isTrue => rfl
  | nonEmpty => rfl
  | isNumeric => rfl
  | contains needle =>
    rw [toList_predicate_contains]
    simp [ofPredicate?, List.dropPrefix?]
  | greater threshold =>
    rw [toList_predicate_greater]
    simp [ofPredicate?, List.dropPrefix?]
  | lower threshold =>
    rw [toList_predicate_lower]
    simp [ofPredicate?, List.dropPrefix?]
  | between low high =>
    have hwritten := (Number.isNumeric_iff_written low).mp (h low high rfl)
    have hread (rest : List Char) :
        ofPredicate? ("be between ".toList ++ rest) = some (ofBounds rest) := by
      simp [ofPredicate?, List.dropPrefix?]
    rw [toList_predicate_between, hread, ofBounds_bounds hwritten.not_mem_space]

theorem dropPrefix?_append (lead rest : List Char) : (lead ++ rest).dropPrefix? lead = some rest :=
  List.dropPrefix?_eq_some_iff.mpr ⟨lead, rfl, beq_self_eq_true lead⟩

theorem ofMessage?_messageFor (field : String) {kind : Kind} (h : kind.BeginsAtNumber) :
    ofMessage? field (kind.messageFor field none) = some kind := by
  rw [ofMessage?, messageFor, String.toList_append, dropPrefix?_append]
  exact ofPredicate?_predicate h

/-- The texts of a kind stand in its words as they were written. -/
theorem Holds.infix_predicate {kind : Kind} {name text : String} (h : kind.Holds name text) :
    text.toList <:+: kind.predicate.toList := by
  cases h with
  | needle =>
    rw [toList_predicate_contains]
    exact List.infix_append' ..
  | greater =>
    rw [toList_predicate_greater]
    exact (List.suffix_append _ _).isInfix
  | lower =>
    rw [toList_predicate_lower]
    exact (List.suffix_append _ _).isInfix
  | low =>
    rw [toList_predicate_between]
    exact List.infix_append' ..
  | high =>
    rw [toList_predicate_between, ← List.append_assoc, ← List.append_assoc]
    exact (List.suffix_append _ _).isInfix

/-- Of a range alone the words do not tell where one bound ends and the other begins. -/
theorem between_predicate_regrouped (low middle high : String) :
    (between (low ++ " and " ++ middle) high).predicate =
      (between low (middle ++ " and " ++ high)).predicate := by
  apply String.toList_injective
  simp only [toList_predicate_between, String.toList_append, List.append_assoc]

end Kind

/-- Different kinds have different messages, as long as ranges begin at numbers: the message repeats
the texts of the kind as they were written, and the kind can be read back from it. -/
theorem messages_tell_kinds (field : String) (a b : Kind) (ha : a.BeginsAtNumber)
    (hb : b.BeginsAtNumber) :
    (a.messageFor field none = b.messageFor field none ↔ a = b) ∧
    Kind.ofMessage? field (a.messageFor field none) = some a ∧
    ∀ name text, a.Holds name text → text.toList <:+: (a.messageFor field none).toList := by
  have hread : Kind.ofMessage? field (a.messageFor field none) = some a :=
    Kind.ofMessage?_messageFor field ha
  refine ⟨?_, hread, ?_⟩
  · constructor
    · intro hsame
      rw [hsame, Kind.ofMessage?_messageFor field hb] at hread
      exact (Option.some.inj hread).symm
    · intro hsame
      rw [hsame]
  · intro name text htext
    have hlead : a.predicate.toList <:+: (a.messageFor field none).toList := by
      rw [Kind.messageFor, String.toList_append]
      exact (List.suffix_append _ _).isInfix
    exact htext.infix_predicate.trans hlead

/-- A range and a search whose texts quote the words of other kinds. -/
theorem messages_tell_kinds_quoting :
    let range : Kind := .between "-1e3" " and 2` and be true"
    let search : Kind := .contains "-1e3 and  and 2` and be true"
    range.BeginsAtNumber ∧ search.BeginsAtNumber ∧
      range.messageFor "Gear" none ≠ search.messageFor "Gear" none ∧
      range.messageFor "Gear" none = "Gear should be between -1e3 and  and 2` and be true" ∧
      Kind.ofMessage? "Gear" "Gear should be between -1e3 and  and 2` and be true" = some range := by
  intro range search
  have hrange : range.BeginsAtNumber := by
    intro low high hkind
    obtain ⟨rfl, -⟩ := Kind.between.inj hkind
    decide +kernel
  have hsearch : search.BeginsAtNumber := by
    intro low high hkind
    change Kind.contains _ = _ at hkind
    cases hkind
  obtain ⟨hsame, hread, -⟩ := messages_tell_kinds "Gear" range search hrange hsearch
  have hmessage : range.messageFor "Gear" none =
      "Gear should be between -1e3 and  and 2` and be true" := by decide +kernel
  rw [hmessage] at hread
  exact ⟨hrange, hsearch, fun h => absurd (hsame.mp h) (by decide), hmessage, hread⟩

end FormRules
