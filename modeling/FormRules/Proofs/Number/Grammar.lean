import FormRules.Proofs.Number.Reading
import FormRules.Proofs.Number.TextOrder
import FormRules.Proofs.Text.Lowercase
import FormRules.Proofs.Validation.Text
import Mathlib.Data.List.Forall2
import Mathlib.Tactic.SplitIfs

namespace FormRules.Number

open Binary64 (ofText?)
open Text (IsCapital forall_ascii toLower_of_not_capital)

/-- The names of the values that have no digits. -/
def names : List (List Char) := ["inf".toList, "infinity".toList, "nan".toList]

/-- The word is the name, each letter of it small or capital. -/
def Spells (word name : List Char) : Prop :=
  List.Forall₂ (fun c letter => c = letter ∨ c = letter.toUpper) word name

/-- The texts of numbers: after an optional sign a name in any letter case or the digits of a
decimal. -/
inductive Written : String → Prop where
  | decimal (d : Decimal) : Written d.text
  | name (sign : Sign) {word name : List Char} :
    name ∈ names → Spells word name → Written (String.ofList (sign.chars ++ word))

/-- Only a small letter and its capital have that small letter as their lower case. -/
theorem toLower_eq_iff {c letter : Char} (h : letter.isLower = true) :
    c.toLower = letter ↔ c = letter ∨ c = letter.toUpper := by
  have hascii : letter.toNat < 128 := by
    have hbound : letter.val ≤ 'z'.val := of_decide_eq_true (Bool.and_eq_true_iff.mp h).2
    exact Nat.lt_of_le_of_lt (UInt32.le_iff_toNat_le.mp hbound) (by decide)
  obtain ⟨hsmall, hcapital⟩ : letter.toLower = letter ∧ letter.toUpper.toLower = letter :=
    forall_ascii (P := fun letter => letter.isLower = true →
      letter.toLower = letter ∧ letter.toUpper.toLower = letter) (by decide +kernel) letter hascii h
  constructor
  · intro hlower
    rw [← hlower]
    by_cases hc : IsCapital c
    · right
      have hback : c.toLower.toUpper = c :=
        forall_ascii (P := fun c => IsCapital c → c.toLower.toUpper = c) (by decide +kernel) c
          (Nat.lt_of_le_of_lt hc.2 (by decide)) hc
      exact hback.symm
    · left
      exact (toLower_of_not_capital hc).symm
  · intro hcases
    cases hcases with
    | inl hsame => rw [hsame, hsmall]
    | inr hupper => rw [hupper, hcapital]

theorem names_small : ∀ name ∈ names, ∀ letter ∈ name, letter.isLower = true := by
  have hall : names.all (·.all Char.isLower) = true := by decide
  simpa only [List.all_eq_true] using hall

theorem map_toLower_eq_iff {name : List Char} (h : ∀ letter ∈ name, letter.isLower = true)
    (word : List Char) : word.map Char.toLower = name ↔ Spells word name := by
  induction name generalizing word with
  | nil => rw [List.map_eq_nil_iff, Spells, List.forall₂_nil_right_iff]
  | cons letter name ih =>
    cases word with
    | nil => simp [Spells]
    | cons c word =>
      have hrest := ih (fun l hl => h l (List.mem_cons_of_mem _ hl)) word
      rw [List.map_cons, List.cons.injEq, hrest, Spells, Spells, List.forall₂_cons,
        toLower_eq_iff (h letter List.mem_cons_self)]

/-- A name does not begin with a sign. -/
theorem Spells.head {word name : List Char} (hname : name ∈ names) (h : Spells word name) :
    ∀ c ∈ word.head?, c ≠ '+' ∧ c ≠ '-' := by
  intro c hc
  have hsmall : c.toLower.isLower = true := by
    rw [← map_toLower_eq_iff (names_small name hname)] at h
    apply names_small name hname
    rw [← h]
    exact List.mem_map_of_mem (List.mem_of_mem_head? hc)
  constructor
  · rintro rfl
    exact absurd hsmall (by decide)
  · rintro rfl
    exact absurd hsmall (by decide)

theorem not_mem_digitChars {c : Char} (h : c.isDigit = false) (digits : List (Fin 10)) :
    c ∉ digitChars digits := by
  intro hc
  have hdigit := List.all_eq_true.mp (all_digitChars digits) c hc
  rw [h] at hdigit
  cases hdigit

/-- There is no space in a number. -/
theorem Written.not_mem_space {text : String} (h : Written text) : ' ' ∉ text.toList := by
  have hsign (sign : Sign) : ' ' ∉ sign.chars := by cases sign <;> decide
  cases h with
  | decimal d =>
    have hdigits := not_mem_digitChars (c := ' ') rfl
    have hfraction : ' ' ∉ d.fractionChars := by
      rw [Decimal.fractionChars]
      cases d.fraction with
      | none => exact List.not_mem_nil
      | some digits => simpa using hdigits digits
    have hpower : ' ' ∉ d.powerChars := by
      rw [Decimal.powerChars]
      cases d.power with
      | none => exact List.not_mem_nil
      | some p =>
        have hmark : ' ' ≠ if p.capital then 'E' else 'e' := by cases p.capital <;> decide
        simpa [Power.chars, hmark] using ⟨hsign p.sign, hdigits p.digits⟩
    simpa [Decimal.text, Decimal.body] using ⟨hsign d.sign, hdigits d.whole, hfraction, hpower⟩
  | @name sign word name hname hspells =>
    have hword : ' ' ∉ word := by
      intro hspace
      have hlower : ' '.toLower ∈ word.map Char.toLower := List.mem_map_of_mem hspace
      rw [(map_toLower_eq_iff (names_small name hname) word).mpr hspells] at hlower
      exact absurd (names_small name hname _ hlower) (by decide)
    simpa using ⟨hsign sign, hword⟩

namespace Numeral

theorem word?_isSome_iff (negative : Bool) (word : List Char) :
    (word? negative word).isSome = true ↔ ∃ name ∈ names, Spells word name := by
  have hlower : (word? negative word).isSome = true ↔ word.map Char.toLower ∈ names := by
    simp only [word?, names, List.mem_cons, List.not_mem_nil, or_false, ← or_assoc]
    split_ifs with hinfinite hnan
    · exact iff_of_true rfl (Or.inl hinfinite)
    · exact iff_of_true rfl (Or.inr hnan)
    · exact iff_of_false Bool.false_ne_true (not_or.mpr ⟨hinfinite, hnan⟩)
  rw [hlower]
  constructor
  · intro h
    exact ⟨_, h, (map_toLower_eq_iff (names_small _ h) word).mp rfl⟩
  · rintro ⟨name, hname, hspells⟩
    rwa [(map_toLower_eq_iff (names_small _ hname) word).mpr hspells]

/-- What can be read is what can be written. -/
theorem ofText?_isSome_iff (text : String) : (ofText? text).isSome = true ↔ Written text := by
  constructor
  · intro h
    change ((word? (splitSign text.toList).1 (splitSign text.toList).2).or
      (decimal? (splitSign text.toList).1 (splitSign text.toList).2)).isSome = true at h
    rw [Option.isSome_or, Bool.or_eq_true] at h
    cases h with
    | inl hword =>
      obtain ⟨name, hname, hspells⟩ := (word?_isSome_iff _ _).mp hword
      obtain ⟨sign, -, hcs⟩ := exists_sign text.toList
      have hwritten := Written.name sign hname hspells
      rwa [hcs, String.ofList_toList] at hwritten
    | inr hdecimal =>
      obtain ⟨n, hn⟩ := Option.isSome_iff_exists.mp hdecimal
      obtain ⟨d, rfl⟩ := exists_text hn
      exact .decimal d
  · intro h
    cases h with
    | decimal d =>
      rw [ofText?_text]
      rfl
    | @name sign word name hname hspells =>
      have hsplit : splitSign (sign.chars ++ word) = (sign.negative, word) :=
        splitSign_append sign word (hspells.head hname)
      have hword := (word?_isSome_iff sign.negative word).mpr ⟨name, hname, hspells⟩
      rw [ofText?, String.toList_ofList, ofChars?, hsplit]
      change ((word? _ _).or (decimal? _ _)).isSome = true
      rw [Option.isSome_or, hword, Bool.true_or]

end Numeral

instance : DecidablePred Written := fun text => decidable_of_iff _ (Numeral.ofText?_isSome_iff text)

theorem isNumeric_iff_written (text : String) : isNumeric text = true ↔ Written text := by
  rw [isNumeric, ofText?, Option.isSome_map, Numeral.ofText?_isSome_iff]

theorem greaterThan_readable_iff (a b : String) :
    greaterThan a b ≠ .notNumeric ↔ isNumeric a = true ∧ isNumeric b = true := by
  rw [ne_eq, greaterThan_notNumeric_iff, not_or, Bool.not_eq_false, Bool.not_eq_false]

/-- The texts that are read as numbers are the ones of the grammar, and all who ask go by the same
reading: the numeric check, a numeric rule without a gate and the comparison with a threshold that
is a number. -/
theorem read_iff_written {γ σ : Type} [Gated γ σ] (value : String) :
    ((ofText? value).isSome = true ↔ Written value) ∧
    (isNumeric value = true ↔ Written value) ∧
    (∀ (field : String) (message : Option String) (state : σ),
      (validate field (.text value) (Rule.mk .isNumeric message none : Rule γ) state).value = none ↔
        Written value) ∧
    ∀ threshold,
      (greaterThan value threshold ≠ .notNumeric ↔ Written value ∧ isNumeric threshold = true) ∧
      (lowerThan value threshold ≠ .notNumeric ↔ Written value ∧ isNumeric threshold = true) := by
  have hread := isNumeric_iff_written value
  refine ⟨hread, hread, ?_, ?_⟩
  · intro field message state
    rw [validate_value_of_enabled rfl, ← hread, isNumeric_iff]
    exact failureOnText_eq_none_iff value (Rule.mk .isNumeric message none)
  · intro threshold
    rw [lowerThan_eq_greaterThan, greaterThan_readable_iff, greaterThan_readable_iff, hread]
    exact ⟨Iff.rfl, and_comm⟩

example : Written "+.5E-03" ∧ Written "-iNFinity" ∧ ¬ Written "." ∧ ¬ Written "5_000" ∧
    ¬ Written "1e" ∧ ¬ Written " 5" ∧ ¬ Written "٣" := by decide +kernel

end FormRules.Number
