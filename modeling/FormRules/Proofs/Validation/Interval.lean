import FormRules.Proofs.Number.TextOrder
import FormRules.Proofs.Validation.Text

namespace FormRules

open Number Text

/-- A range accepts the texts that are read as numbers between those of its bounds. -/
theorem Kind.between_accepts_iff_mem_Ioo (low high value : String) :
    (Kind.between low high).Accepts value ↔
      ∃ a b x, reading? low = some a ∧ reading? high = some b ∧ reading? value = some x ∧
        x ∈ Set.Ioo a b := by
  rw [between_accepts_iff, ← greaterThan_holds_iff, ← lowerThan_holds_iff,
    lowerThan_eq_greaterThan, greaterThan_holds_iff_reading, greaterThan_holds_iff_reading]
  constructor
  · rintro ⟨⟨x, a, hx, ha, hax⟩, b, x', hb, hx', hxb⟩
    obtain rfl := Option.some.inj (hx.symm.trans hx')
    exact ⟨a, b, x, ha, hb, hx, hax, hxb⟩
  · rintro ⟨a, b, x, ha, hb, hx, hax, hxb⟩
    exact ⟨⟨x, a, hx, ha, hax⟩, b, x, hb, hx, hxb⟩

theorem accepts_of_readsNumber {value : String} (h : ReadsNumber value) :
    Kind.isNumeric.Accepts value ∧ Kind.nonEmpty.Accepts value := by
  obtain ⟨x, hx, -⟩ := h
  refine ⟨.isNumeric hx, .nonEmpty ?_⟩
  rintro rfl
  have hempty : Binary64.ofText? "" = none := by decide +kernel
  rw [hempty] at hx
  cases hx

theorem Kind.between_accepts_bounds {low high value : String}
    (h : (Kind.between low high).Accepts value) :
    (ReadsNumber low ∧ ReadsNumber high ∧ ReadsNumber value) ∧ lowerThan low high = .holds := by
  obtain ⟨a, b, x, ha, hb, hx, hax, hxb⟩ := (between_accepts_iff_mem_Ioo low high value).mp h
  refine ⟨⟨(readsNumber_iff low).mpr ⟨a, ha⟩, (readsNumber_iff high).mpr ⟨b, hb⟩,
    (readsNumber_iff value).mpr ⟨x, hx⟩⟩, ?_⟩
  rw [lowerThan_eq_greaterThan, greaterThan_holds_iff_reading]
  exact ⟨b, a, hb, ha, hax.trans hxb⟩

theorem Kind.between_accepts_wider {low high low' high' value : String}
    (hlow' : ReadsNumber low') (hhigh' : ReadsNumber high')
    (hlow : greaterThan low' low ≠ .holds) (hhigh : lowerThan high' high ≠ .holds)
    (h : (Kind.between low high).Accepts value) : (Kind.between low' high').Accepts value := by
  rw [between_accepts_iff_mem_Ioo] at h ⊢
  obtain ⟨a, b, x, ha, hb, hx, hmem⟩ := h
  obtain ⟨a', ha'⟩ := (readsNumber_iff low').mp hlow'
  obtain ⟨b', hb'⟩ := (readsNumber_iff high').mp hhigh'
  rw [not_greaterThan_iff_le ha' ha] at hlow
  rw [lowerThan_eq_greaterThan, not_greaterThan_iff_le hb hb'] at hhigh
  exact ⟨a', b', x, ha', hb', hx, Set.Ioo_subset_Ioo hlow hhigh hmem⟩

/-- A rule of a kind, with any message and any gate, in a state in which the gate is open. -/
structure EnabledRule (γ σ : Type) [Gated γ σ] (kind : Kind) where
  message : Option String
  gate : Option γ
  state : σ
  enabled : enabledIn state (Rule.mk kind message gate) = true

namespace EnabledRule

variable {γ σ : Type} [Gated γ σ] {kind : Kind}

def rule (enabled : EnabledRule γ σ kind) : Rule γ := ⟨kind, enabled.message, enabled.gate⟩

def outcome (enabled : EnabledRule γ σ kind) (field value : String) : Option (Rule γ) :=
  (validate field (.text value) enabled.rule enabled.state).value

theorem outcome_eq (enabled : EnabledRule γ σ kind) (field value : String) :
    enabled.outcome field value = failureOnText value enabled.rule :=
  validate_value_of_enabled enabled.enabled

theorem outcome_eq_none_iff (enabled : EnabledRule γ σ kind) (field value : String) :
    enabled.outcome field value = none ↔ kind.Accepts value := by
  rw [outcome_eq]
  exact failureOnText_eq_none_iff value enabled.rule

theorem outcome_of_rejected {low high : String} (range : EnabledRule γ σ (.between low high))
    (field : String) {value : String} (h : ¬ (Kind.between low high).Accepts value) :
    range.outcome field value = some range.rule := by
  rw [outcome_eq]
  apply failureOnText_of_rejected h
  intro hread
  cases hread

end EnabledRule

/-- Ranges are open intervals of numbers. What passes one is a number between two numbers, so that a
range whose lower bound is not below its upper one fails on every text; moving the bounds apart never
makes a text fail; and the texts that pass two ranges are those above both lower bounds and below
both upper ones. -/
theorem ranges_are_open_intervals {γ σ : Type} [Gated γ σ] {low high low' high' : String}
    (range : EnabledRule γ σ (.between low high)) (range' : EnabledRule γ σ (.between low' high'))
    (above : EnabledRule γ σ (.greater low)) (above' : EnabledRule γ σ (.greater low'))
    (below : EnabledRule γ σ (.lower high)) (below' : EnabledRule γ σ (.lower high'))
    (numeric : EnabledRule γ σ .isNumeric) (nonEmpty : EnabledRule γ σ .nonEmpty)
    (field : String) :
    (∀ value, range.outcome field value = none ↔
      ∃ a b x, reading? low = some a ∧ reading? high = some b ∧ reading? value = some x ∧
        x ∈ Set.Ioo a b) ∧
    (∀ value, range.outcome field value = none →
      (ReadsNumber low ∧ ReadsNumber high ∧ ReadsNumber value) ∧ lowerThan low high = .holds ∧
      numeric.outcome field value = none ∧ nonEmpty.outcome field value = none) ∧
    (lowerThan low high ≠ .holds → ∀ value, range.outcome field value = some range.rule) ∧
    (ReadsNumber low' → ReadsNumber high' →
      greaterThan low' low ≠ .holds → lowerThan high' high ≠ .holds →
        ∀ value, range.outcome field value = none → range'.outcome field value = none) ∧
    ∀ value, (range.outcome field value = none ∧ range'.outcome field value = none ↔
      above.outcome field value = none ∧ above'.outcome field value = none ∧
        below.outcome field value = none ∧ below'.outcome field value = none) := by
  simp only [EnabledRule.outcome_eq_none_iff]
  refine ⟨Kind.between_accepts_iff_mem_Ioo low high, ?_, ?_, ?_, ?_⟩
  · intro value haccepts
    obtain ⟨hnumbers, hordered⟩ := Kind.between_accepts_bounds haccepts
    exact ⟨hnumbers, hordered, accepts_of_readsNumber hnumbers.2.2⟩
  · intro hordered value
    apply range.outcome_of_rejected
    intro haccepts
    exact hordered (Kind.between_accepts_bounds haccepts).2
  · intro hlow' hhigh' hlow hhigh value
    exact Kind.between_accepts_wider hlow' hhigh' hlow hhigh
  · intro value
    rw [Kind.between_accepts_iff, Kind.between_accepts_iff, and_and_and_comm, and_assoc]

/-- A range widened to all numbers below an upper bound that is only written otherwise, and one that
is empty. Each gate is open for one more question. -/
theorem ranges_are_open_intervals_gears :
    let enabled := fun kind : Kind => (⟨some "No such gear", some (.countdown "tries"),
      { counters := fun _ => 1 }, rfl⟩ : EnabledRule Gate GateState kind)
    ReadsNumber "-inf" ∧ ReadsNumber "6e0" ∧ greaterThan "-inf" "4" ≠ .holds ∧
      lowerThan "6e0" "6" ≠ .holds ∧
    (enabled (.between "4" "6")).outcome "Gear" "5" = none ∧
    (enabled (.between "-inf" "6e0")).outcome "Gear" "5" = none ∧
    lowerThan "0" "-0" ≠ .holds ∧
    (enabled (.between "0" "-0")).outcome "Gear" "5" = some (enabled (.between "0" "-0")).rule := by
  intro enabled
  have hnumbers : ReadsNumber "-inf" ∧ ReadsNumber "6e0" :=
    ⟨⟨_, rfl, nofun⟩, ⟨_, rfl, nofun⟩⟩
  have hwider : greaterThan "-inf" "4" ≠ .holds ∧ lowerThan "6e0" "6" ≠ .holds := by decide +kernel
  have hpasses : (enabled (.between "4" "6")).outcome "Gear" "5" = none := by decide +kernel
  have hempty : lowerThan "0" "-0" ≠ .holds := by decide +kernel
  have hgears := ranges_are_open_intervals (enabled (.between "4" "6"))
    (enabled (.between "-inf" "6e0")) (enabled (.greater "4")) (enabled (.greater "-inf"))
    (enabled (.lower "6")) (enabled (.lower "6e0")) (enabled .isNumeric) (enabled .nonEmpty) "Gear"
  have hnone := ranges_are_open_intervals (enabled (.between "0" "-0"))
    (enabled (.between "0" "-0")) (enabled (.greater "0")) (enabled (.greater "0"))
    (enabled (.lower "-0")) (enabled (.lower "-0")) (enabled .isNumeric) (enabled .nonEmpty) "Gear"
  exact ⟨hnumbers.1, hnumbers.2, hwider.1, hwider.2, hpasses,
    hgears.2.2.2.1 hnumbers.1 hnumbers.2 hwider.1 hwider.2 "5" hpasses, hempty,
    hnone.2.2.1 hempty "5"⟩

end FormRules
