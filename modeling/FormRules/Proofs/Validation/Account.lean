import FormRules.Proofs.Validation.Batch
import Mathlib.Data.List.Forall2

namespace FormRules

variable {γ σ : Type}

def Event.isSkip : Event → Bool
  | ruleSkipped _ _ => true
  | _ => false

def Event.isVerdict : Event → Bool
  | ruleEvaluated _ _ _ => true
  | _ => false

def Event.isFailure : Event → Bool
  | ruleEvaluated _ _ passed => !passed
  | _ => false

/-- A text that does not pass a range. -/
def FailsRange (value : Value) (kind : Kind) (outcome : Option (Rule γ)) : Prop :=
  (∃ text, value = .text text) ∧ (∃ low high, kind = .between low high) ∧ outcome ≠ none

/-- How the log tells of one validation. A closed gate is all there is to say. Otherwise the last
event gives the rule's own code, whatever the failure is, and whether it passed; before it stands
nothing, or, for a failed range, one event on its bounds. -/
inductive Accounts (field : String) (value : Value) (rule : Rule γ)
    (run : Trace γ σ (Option (Rule γ))) : Prop where
  | skipped {gate : γ} : rule.gate = some gate → run.calls = [(gate, false)] → run.value = none →
      run.events = [.ruleSkipped field rule.code] → Accounts field value rule run
  | evaluated : run.calls = rule.gate.toList.map (fun gate => (gate, true)) →
      ¬ FailsRange value rule.kind run.value →
      run.events = [.ruleEvaluated field rule.code run.value.isNone] →
      Accounts field value rule run
  | outOfRange {codes : List String} :
      run.calls = rule.gate.toList.map (fun gate => (gate, true)) →
      FailsRange value rule.kind run.value →
      run.events =
        [.boundFailed field codes, .ruleEvaluated field rule.code run.value.isNone] →
      Accounts field value rule run

namespace Accounts

variable {field : String} {value : Value} {rule : Rule γ} {run : Trace γ σ (Option (Rule γ))}

theorem level (h : Accounts field value rule run) : ∀ event ∈ run.events, event.level = .trace := by
  cases h with
  | skipped _ _ _ hevents => simp [hevents, Event.level]
  | evaluated _ _ hevents => simp [hevents, Event.level]
  | outOfRange _ _ hevents => simp [hevents, Event.level]

/-- Each rule has one event of its own: that it was skipped or what became of it. -/
theorem countP_rules (h : Accounts field value rule run) :
    run.events.countP Event.isSkip + run.events.countP Event.isVerdict = 1 := by
  cases h with
  | skipped _ _ _ hevents => rw [hevents]; rfl
  | evaluated _ _ hevents => rw [hevents]; rfl
  | outOfRange _ _ hevents => rw [hevents]; rfl

theorem countP_failures (h : Accounts field value rule run) :
    run.events.countP Event.isFailure = run.value.toList.length := by
  cases h with
  | skipped _ _ hvalue hevents => rw [hevents, hvalue]; rfl
  | evaluated _ _ hevents =>
    rw [hevents]
    cases run.value <;> rfl
  | outOfRange _ _ hevents =>
    rw [hevents]
    cases run.value <;> rfl

variable {rules : List (Rule γ)} {runs : List (Trace γ σ (Option (Rule γ)))}

theorem countP_all_rules (h : List.Forall₂ (Accounts field value) rules runs) :
    (runs.flatMap Trace.events).countP Event.isSkip +
      (runs.flatMap Trace.events).countP Event.isVerdict = rules.length := by
  induction h with
  | nil => rfl
  | cons hfirst _ ih =>
    have hone := hfirst.countP_rules
    simp only [List.flatMap_cons, List.countP_append, List.length_cons]
    omega

theorem countP_all_failures (h : List.Forall₂ (Accounts field value) rules runs) :
    (runs.flatMap Trace.events).countP Event.isFailure =
      (runs.flatMap fun run => run.value.toList).length := by
  induction h with
  | nil => rfl
  | cons hfirst _ ih =>
    simp only [List.flatMap_cons, List.countP_append, List.length_append, hfirst.countP_failures, ih]

end Accounts

/-- The bounds have an event exactly when a text fails the range. -/
theorem boundEvents_cases (field : String) (value : Value) (rule : Rule γ) :
    (FailsRange value rule.kind (failureOn value rule) ∧
      ∃ codes, boundEvents field value rule = [.boundFailed field codes]) ∨
    (¬ FailsRange value rule.kind (failureOn value rule) ∧ boundEvents field value rule = []) := by
  cases value with
  | flag value =>
    right
    refine ⟨?_, rfl⟩
    rintro ⟨⟨text, htext⟩, -⟩
    cases htext
  | text value =>
    obtain ⟨kind, message, gate⟩ := rule
    cases kind with
    | between low high =>
      change FailsRange _ _ (failUnless _ _) ∧ (∃ _, ite _ _ _ = _) ∨
        ¬ FailsRange _ _ (failUnless _ _) ∧ ite _ _ _ = _
      by_cases hempty : (failedBounds value low high).isEmpty
      · right
        simp [FailsRange, failUnless, hempty]
      · left
        simp [FailsRange, failUnless, hempty]
    | _ =>
      right
      refine ⟨?_, rfl⟩
      rintro ⟨-, ⟨low, high, hkind⟩, -⟩
      cases hkind

variable [Gated γ σ]

theorem validate_accounts (field : String) (value : Value) (rule : Rule γ) (state : σ) :
    Accounts field value rule (validate field value rule state) := by
  have hcalls : (validate field value rule state).calls =
      rule.gate.toList.map fun gate => (gate, (Gated.ask gate state).1) :=
    (validate_calls ..).trans (askGate_calls ..)
  have hvalue := validate_value field value rule state
  have hevents := validate_events field value rule state
  by_cases henabled : enabledIn state rule
  · rw [if_pos henabled] at hvalue hevents
    have hopen : (validate field value rule state).calls =
        rule.gate.toList.map fun gate => (gate, true) := by
      rw [hcalls]
      apply List.map_congr_left
      intro gate hgate
      rw [(enabledIn_iff state rule).mp henabled gate (Option.mem_toList.mp hgate)]
    -- From here on the failure is the run's own outcome.
    have hbounds := boundEvents_cases field value rule
    rw [← hvalue] at hevents hbounds
    rcases hbounds with ⟨hfails, codes, hcodes⟩ | ⟨hfits, hnone⟩
    · rw [hcodes] at hevents
      exact .outOfRange hopen hfails hevents
    · rw [hnone] at hevents
      exact .evaluated hopen hfits hevents
  · rw [if_neg henabled] at hvalue hevents
    obtain ⟨gate, hgate, hclosed⟩ : ∃ gate, rule.gate = some gate ∧
        (Gated.ask gate state).1 = false := by
      simpa [enabledIn_iff] using henabled
    rw [hgate, Option.toList_some, List.map_singleton, hclosed] at hcalls
    exact .skipped hgate hcalls hvalue hevents

theorem singles_account (field : String) (value : Value) (rules : List (Rule γ)) (state : σ) :
    List.Forall₂ (Accounts field value) rules (singles field value rules state) := by
  induction rules generalizing state with
  | nil => exact .nil
  | cons rule rules ih => exact .cons (validate_accounts field value rule state) (ih _)

theorem validateAll_events (field : String) (value : Value) (rules : List (Rule γ)) (state : σ) :
    (validateAll field value rules state).events =
      (singles field value rules state).flatMap Trace.events ++
        [.fieldValidated field rules.length (validateAll field value rules state).value.length] := by
  rw [validateAll_apply]
  simp only [Trace.events, List.filterMap_append, List.filterMap_flatMap]
  rfl

/-- The log of a batch is what it tells of each rule, in order, and one closing event, whose two
counts are those of the events before it. -/
theorem validateAll_log (field : String) (value : Value) (rules : List (Rule γ)) (state : σ) :
    let runs := singles field value rules state
    let batch := validateAll field value rules state
    let closing := Event.fieldValidated field rules.length batch.value.length
    List.Forall₂ (Accounts field value) rules runs ∧
      batch.calls = runs.flatMap Trace.calls ∧
      batch.value = runs.flatMap (fun run => run.value.toList) ∧
      batch.events = runs.flatMap Trace.events ++ [closing] ∧
      (∀ event ∈ runs.flatMap Trace.events, event.level = .trace) ∧ closing.level = .debug ∧
      batch.events.countP Event.isSkip + batch.events.countP Event.isVerdict = rules.length ∧
      batch.events.countP Event.isFailure = batch.value.length := by
  intro runs batch closing
  have haccount : List.Forall₂ (Accounts field value) rules runs :=
    singles_account field value rules state
  have hvalue : batch.value = runs.flatMap fun run => run.value.toList :=
    validateAll_value field value rules state
  have hevents : batch.events = runs.flatMap Trace.events ++ [closing] :=
    validateAll_events field value rules state
  have hclosing (p : Event → Bool) (h : p closing = false) :
      batch.events.countP p = (runs.flatMap Trace.events).countP p := by
    rw [hevents, List.countP_append, List.countP_singleton, h]
    rfl
  refine ⟨haccount, validateAll_calls field value rules state, hvalue, hevents, ?_, rfl, ?_, ?_⟩
  · intro event hevent
    obtain ⟨run, hrun, hevent⟩ := List.mem_flatMap.mp hevent
    obtain ⟨rule, -, before, rfl⟩ := Traced.mem_traces hrun
    exact (validate_accounts field value rule before).level event hevent
  · rw [hclosing _ rfl, hclosing _ rfl]
    exact Accounts.countP_all_rules haccount
  · rw [hclosing _ rfl, hvalue]
    exact Accounts.countP_all_failures haccount

end FormRules
