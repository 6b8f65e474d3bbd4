import FormRules.Proofs.Session.Perform
import FormRules.Proofs.Validation.Batch
import FormRules.Proofs.Validation.Text

namespace FormRules

variable {γ σ S : Type}

/-- What can stand for a rule later on: the rule, a copy with another message, and the failure that
is reported for any of them. -/
inductive Rule.Copy (original : Rule γ) : Rule γ → Prop where
  | same : Copy original original
  | reworded {rule : Rule γ} (message : String) :
    Copy original rule → Copy original (rule.withMessage message)
  | failure {rule failure : Rule γ} (value : Value) :
    Copy original rule → failureOn value rule = some failure → Copy original failure

theorem Rule.Copy.trans {original rule copy : Rule γ} (h : original.Copy rule)
    (h' : rule.Copy copy) : original.Copy copy := by
  induction h' with
  | same => exact h
  | reworded message _ ih => exact .reworded message ih
  | failure value _ hfailure ih => exact .failure value ih hfailure

/-- A copy has its original's gate, unless it comes from a bare numeric check: then it has none. -/
theorem Rule.Copy.gate_cases {original copy : Rule γ} (h : original.Copy copy) :
    copy.gate = original.gate ∨ copy.gate = none ∧ copy.kind = .isNumeric := by
  induction h with
  | same => exact .inl rfl
  | reworded message _ ih => exact ih
  | failure value _ hfailure ih =>
    cases failureOn_cases hfailure with
    | inl hsame =>
      rw [hsame]
      exact ih
    | inr hbare =>
      rw [hbare]
      exact .inr ⟨rfl, rfl⟩

/-- The rules that a step has to do with, as the session holds them. -/
def Step.sources (session : Session γ σ) : Step γ σ → List (Rule γ)
  | .rule source _ _ _ _ => (source.resolve session).elim [] fun rule => [rule]
  | .list source _ _ => (source.resolve session).elim [] id
  | step => step.evaluated session

/-- The gate that a step puts on a rule. -/
def Step.newGate? : Step γ σ → Option γ
  | .rule _ _ newGate _ _ => newGate
  | _ => none

/-- The rule is a copy of one that the step has to do with, under the step's new gate if there is
one. -/
def Step.Makes (session : Session γ σ) (step : Step γ σ) (rule : Rule γ) : Prop :=
  ∃ original ∈ step.sources session, ∃ copy, original.Copy copy ∧
    rule = step.newGate?.elim copy copy.on

/-- What a step does to the gates' state from outside. -/
def Step.change : Step γ σ → σ → σ
  | .adjust change => change
  | _ => id

/-- How a step can leave the session in which the gates have been asked: adjusted from outside, or
with one slot set. What it puts into a slot it has made from what it found. -/
inductive Step.Leaves (session : Session γ σ) (step : Step γ σ) (after : Session γ σ) :
    Session γ σ → Prop where
  | adjusted : Leaves session step after { after with gates := step.change after.gates }
  | setRule {name : String} {rule : Rule γ} : step.change = id → step.Makes session rule →
    Leaves session step after (after.setRule name rule)
  | setList {name : String} {rules : List (Rule γ)} : step.change = id →
    (∀ rule ∈ rules, step.Makes session rule) → Leaves session step after (after.setList name rules)
  | setFormatter {name : String} {formatter : MessageFormatter} : step.change = id →
    Leaves session step after (after.setFormatter name formatter)

namespace Step.Leaves

variable {session after final : Session γ σ} {step : Step γ σ}

theorem unchanged (hchange : step.change = id) : step.Leaves session after after := by
  have h : step.Leaves session after { after with gates := step.change after.gates } := .adjusted
  rwa [hchange] at h

theorem storedRule {slot : Option String} {outcome : Option (Rule γ)} (hchange : step.change = id)
    (hmakes : ∀ rule ∈ outcome, step.Makes session rule) :
    step.Leaves session after (Session.stored Session.setRule slot outcome after) := by
  cases slot with
  | none => exact unchanged hchange
  | some name =>
    cases outcome with
    | none => exact unchanged hchange
    | some rule => exact .setRule hchange (hmakes rule rfl)

theorem storedList {slot : Option String} {rules : List (Rule γ)} (hchange : step.change = id)
    (hmakes : ∀ rule ∈ rules, step.Makes session rule) :
    step.Leaves session after (Session.stored Session.setList slot (some rules) after) := by
  cases slot with
  | none => exact unchanged hchange
  | some name => exact .setList hchange hmakes

theorem gates (h : step.Leaves session after final) : final.gates = step.change after.gates := by
  cases h with
  | adjusted => rfl
  | setRule hchange _ => rw [hchange]; rfl
  | setList hchange _ => rw [hchange]; rfl
  | setFormatter hchange => rw [hchange]; rfl

/-- After a step a rule slot holds what it held, or a rule that the step has made. -/
theorem rules (h : step.Leaves session after final) (name : String) :
    final.rules name = after.rules name ∨
      ∃ rule, final.rules name = some rule ∧ step.Makes session rule := by
  cases h with
  | @setRule slot rule _ hmakes =>
    by_cases hname : name = slot
    · subst hname
      exact .inr ⟨rule, assign_same .., hmakes⟩
    · exact .inl (assign_other _ _ hname)
  | adjusted => exact .inl rfl
  | setList _ _ => exact .inl rfl
  | setFormatter _ => exact .inl rfl

theorem lists (h : step.Leaves session after final) (name : String) :
    final.lists name = after.lists name ∨
      ∃ rules, final.lists name = some rules ∧ ∀ rule ∈ rules, step.Makes session rule := by
  cases h with
  | @setList slot rules _ hmakes =>
    by_cases hname : name = slot
    · subst hname
      exact .inr ⟨rules, assign_same .., hmakes⟩
    · exact .inl (assign_other _ _ hname)
  | adjusted => exact .inl rfl
  | setRule _ _ => exact .inl rfl
  | setFormatter _ => exact .inl rfl

end Step.Leaves

variable [Gated γ σ]

/-- What a step evaluates and stores is made from the rules that it was given. -/
theorem effect_leaves (session after : Session γ σ) (step : Step γ σ) :
    step.Leaves session after (step.effect session after) := by
  cases step
  case validate field value source completion slot =>
    rw [Step.effect]
    cases hsource : source.resolve session with
    | none => exact .adjusted
    | some rule =>
      apply Step.Leaves.storedRule rfl
      intro failure hfailure
      refine ⟨rule, ?_, failure, .failure value .same (failureOn_of_validate hfailure), rfl⟩
      simp [Step.sources, Step.evaluated, hsource]
  case validateAll field value source completion slot =>
    rw [Step.effect]
    cases hsource : source.resolve session with
    | none => exact .adjusted
    | some rules =>
      apply Step.Leaves.storedList rfl
      intro failure hmem
      obtain ⟨rule, hrule, hfailure⟩ := failureOn_of_validateAll hmem
      refine ⟨rule, ?_, failure, .failure value .same hfailure, rfl⟩
      simpa [Step.sources, Step.evaluated, hsource] using hrule
  case rule source words newGate field slot =>
    rw [Step.effect]
    cases hsource : source.resolve session with
    | none => exact .adjusted
    | some rule =>
      have hcopy : rule.Copy (words.elim rule rule.withMessage) := by
        cases words with
        | none => exact .same
        | some words => exact .reworded words .same
      apply Step.Leaves.storedRule rfl
      intro built hbuilt
      refine ⟨rule, ?_, _, hcopy, (Option.some.inj hbuilt).symm⟩
      simp [Step.sources, hsource]
  case list source field slot =>
    rw [Step.effect]
    cases hsource : source.resolve session with
    | none => exact .adjusted
    | some rules =>
      apply Step.Leaves.storedList rfl
      intro rule hmem
      refine ⟨rule, ?_, rule, .same, rfl⟩
      simpa [Step.sources, hsource] using hmem
  case format source field failures codes slot =>
    rw [Step.effect]
    cases source.resolve session with
    | none => exact .adjusted
    | some formatter =>
      cases failures.resolve session with
      | none => exact .adjusted
      | some failures =>
        cases slot with
        | none => exact .adjusted
        | some name => exact .setFormatter rfl
  all_goals exact .adjusted

end FormRules
