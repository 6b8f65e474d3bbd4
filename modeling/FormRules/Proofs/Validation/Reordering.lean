import FormRules.Proofs.Gate.Independence
import FormRules.Proofs.Validation.Batch

namespace FormRules

variable {α γ σ : Type}

/-- The list with the element at a place and the one after it exchanged. -/
def exchange : Nat → List α → List α
  | 0, a :: b :: rest => b :: a :: rest
  | place + 1, a :: rest => a :: exchange place rest
  | _, list => list

/-- The list after exchanges at these places, one after the other. -/
def reorder (places : List Nat) (list : List α) : List α :=
  places.foldl (fun list place => exchange place list) list

theorem exchange_perm (place : Nat) (list : List α) : (exchange place list).Perm list := by
  fun_induction exchange place list with
  | case1 a b rest => exact .swap a b rest
  | case2 place a rest ih => exact ih.cons a
  | case3 => exact .refl _

theorem reorder_perm (places : List Nat) (list : List α) : (reorder places list).Perm list := by
  induction places generalizing list with
  | nil => exact .refl _
  | cons place places ih => exact (ih (exchange place list)).trans (exchange_perm place list)

section Gated

variable [Gated γ σ]

/-- Each rule of a batch with its outcome. -/
def judged (field : String) (value : Value) (rules : List (Rule γ)) (state : σ) :
    List (Rule γ × Option (Rule γ)) :=
  rules.zip (outcomes field value rules state).value

theorem judged_cons (field : String) (value : Value) (rule : Rule γ) (rules : List (Rule γ))
    (state : σ) :
    judged field value (rule :: rules) state =
      (rule, (validate field value rule state).value) ::
        judged field value rules (validate field value rule state).state := by
  rw [judged, outcomes_cons]
  rfl

theorem validateAll_cons_state (field : String) (value : Value) (rule : Rule γ)
    (rules : List (Rule γ)) (state : σ) :
    (validateAll field value (rule :: rules) state).state =
      (validateAll field value rules (validate field value rule state).state).state := by
  rw [validateAll_state, validateAll_state]
  rfl

theorem validateAll_value_judged (field : String) (value : Value) (rules : List (Rule γ))
    (state : σ) :
    (validateAll field value rules state).value =
      (judged field value rules state).filterMap Prod.snd := by
  induction rules generalizing state with
  | nil => rfl
  | cons rule rules ih =>
    rw [judged_cons, List.filterMap_cons, validateAll_cons_value, ih]
    cases (validate field value rule state).value <;> rfl

/-- Each of the two rules has its outcome whichever is evaluated first. -/
structure Rule.Interchangeable (σ : Type) [Gated γ σ] (a b : Rule γ) : Prop where
  first : ∀ s : σ, enabledIn (askGate b s).state a = enabledIn s a
  second : ∀ s : σ, enabledIn (askGate a s).state b = enabledIn s b
  state : ∀ s : σ, (askGate a (askGate b s).state).state = (askGate b (askGate a s).state).state

theorem Rule.interchangeable {a b : Rule γ}
    (h : ∀ g ∈ a.gate, ∀ g' ∈ b.gate, FormRules.Interchangeable σ g g') :
    Rule.Interchangeable σ a b := by
  obtain ⟨_, _, gate⟩ := a
  obtain ⟨_, _, gate'⟩ := b
  cases gate with
  | none => exact ⟨fun _ => rfl, fun _ => rfl, fun _ => rfl⟩
  | some g =>
    cases gate' with
    | none => exact ⟨fun _ => rfl, fun _ => rfl, fun _ => rfl⟩
    | some g' =>
      have hgates := h g rfl g' rfl
      exact ⟨hgates.first, hgates.second, hgates.state⟩

/-- Two neighbours that are interchangeable keep their outcomes and the state that they leave. -/
theorem judged_exchange (field : String) (value : Value) (place : Nat) (rules : List (Rule γ))
    (state : σ)
    (h : ∀ a b, rules[place]? = some a → rules[place + 1]? = some b →
      Rule.Interchangeable σ a b) :
    judged field value (exchange place rules) state =
        exchange place (judged field value rules state) ∧
      (validateAll field value (exchange place rules) state).state =
        (validateAll field value rules state).state := by
  -- The rules before the place are evaluated as they were, so all that changes is the state in
  -- which the two neighbours are reached.
  induction place generalizing rules state with
  | zero =>
    match rules with
    | [] => exact ⟨rfl, rfl⟩
    | [rule] => exact ⟨rfl, rfl⟩
    | a :: b :: rest =>
      have hab := h a b rfl rfl
      have hfirst : (validate field value a (validate field value b state).state).value =
          (validate field value a state).value := by
        rw [validate_value, validate_value, validate_state, hab.first]
      have hsecond : (validate field value b (validate field value a state).state).value =
          (validate field value b state).value := by
        rw [validate_value, validate_value, validate_state, hab.second]
      have hstate : (validate field value a (validate field value b state).state).state =
          (validate field value b (validate field value a state).state).state := by
        rw [validate_state, validate_state, validate_state, validate_state, hab.state]
      constructor
      · simp only [exchange, judged_cons, hfirst, hsecond, hstate]
      · simp only [exchange, validateAll_cons_state, hstate]
  | succ place ih =>
    match rules with
    | [] => exact ⟨rfl, rfl⟩
    | rule :: rest =>
      obtain ⟨hjudged, hstate⟩ := ih rest (validate field value rule state).state fun a b ha hb =>
        h a b (by simpa using ha) (by simpa using hb)
      constructor
      · simp only [exchange, judged_cons, hjudged]
      · simp only [exchange, validateAll_cons_state, hstate]

end Gated

section Apart

variable [Gated γ GateState]

/-- The gates of the two rules do not interfere, be it that one of the rules has none. -/
def Rule.Apart (a b : Rule γ) : Prop := ∀ g ∈ a.gate, ∀ g' ∈ b.gate, FormRules.Apart g g'

/-- Every exchange is of two neighbours whose gates do not interfere. -/
def Harmless : List Nat → List (Rule γ) → Prop
  | [], _ => True
  | place :: places, rules =>
    (∀ a b, rules[place]? = some a → rules[place + 1]? = some b → a.Apart b) ∧
      Harmless places (exchange place rules)

theorem judged_reorder (field : String) (value : Value) (places : List Nat)
    (rules : List (Rule γ)) (state : GateState) (h : Harmless places rules) :
    judged field value (reorder places rules) state =
        reorder places (judged field value rules state) ∧
      (validateAll field value (reorder places rules) state).state =
        (validateAll field value rules state).state := by
  induction places generalizing rules with
  | nil => exact ⟨rfl, rfl⟩
  | cons place places ih =>
    obtain ⟨hplace, hplaces⟩ := h
    obtain ⟨hjudged, hstate⟩ := judged_exchange field value place rules state fun a b ha hb =>
      Rule.interchangeable fun g hg g' hg' => (hplace a b ha hb g hg g' hg').interchangeable
    obtain ⟨hrest, hend⟩ := ih (exchange place rules) hplaces
    rw [hjudged] at hrest
    rw [hstate] at hend
    exact ⟨hrest, hend⟩

/-- Exchanging neighbours whose gates do not interfere, any number of times, leaves every rule its
outcome and the gates their final state. The failures move with their rules. -/
theorem validateAll_reordered (field : String) (value : Value) (places : List Nat)
    (rules : List (Rule γ)) (state : GateState) (h : Harmless places rules) :
    let given := validateAll field value rules state
    let moved := validateAll field value (reorder places rules) state
    let outcome := judged field value rules state
    judged field value (reorder places rules) state = reorder places outcome ∧
      moved.state = given.state ∧
      given.value = outcome.filterMap Prod.snd ∧
      moved.value = (reorder places outcome).filterMap Prod.snd ∧
      moved.value.Perm given.value := by
  intro given moved outcome
  obtain ⟨hjudged, hstate⟩ := judged_reorder field value places rules state h
  have hgiven : given.value = outcome.filterMap Prod.snd := validateAll_value_judged ..
  have hmoved : moved.value = (reorder places outcome).filterMap Prod.snd := by
    rw [← hjudged]
    exact validateAll_value_judged ..
  refine ⟨hjudged, hstate, hgiven, hmoved, ?_⟩
  rw [hgiven, hmoved]
  exact (reorder_perm places outcome).filterMap Prod.snd

/-- A gate that only looks, two gates on different flags and a rule without a gate: the first rule
can go last. -/
theorem validateAll_reordered_first_to_last :
    let first := Rule.nonEmpty.on (Gate.flag "open")
    let rest := [(Rule.greater "4").on (Gate.flag "open"),
      (Rule.contains "z").on (Gate.flip "seen"), Rule.isNumeric]
    let state : GateState := { flags := fun _ => true }
    let given := validateAll "Gear" (.text "") (first :: rest) state
    let moved := validateAll "Gear" (.text "") (reorder [0, 1, 2] (first :: rest)) state
    Harmless [0, 1, 2] (first :: rest) ∧ reorder [0, 1, 2] (first :: rest) = rest ++ [first] ∧
      moved.state = given.state ∧
      given.value = [first, .isNumeric, (Rule.contains "z").on (.flip "seen"), .isNumeric] ∧
      moved.value = [.isNumeric, (Rule.contains "z").on (.flip "seen"), .isNumeric, first] := by
  intro first rest state given moved
  have hopen : Apart (Gate.flag "open") (Gate.flag "open") := .still (fun _ => rfl) fun _ => rfl
  have hseen : Apart (Gate.flag "open") (Gate.flip "seen") := by
    refine .disjoint (Gate.uses_cells _) (Gate.uses_cells _) ?_
    rintro cell rfl
    show Cell.flag "open" ≠ Cell.flag "seen"
    decide
  have harmless : Harmless [0, 1, 2] (first :: rest) := by
    refine ⟨?_, ?_, ?_, trivial⟩
    · rintro a b ⟨⟩ ⟨⟩ g ⟨⟩ g' ⟨⟩
      exact hopen
    · rintro a b ⟨⟩ ⟨⟩ g ⟨⟩ g' ⟨⟩
      exact hseen
    · rintro a b ⟨⟩ ⟨⟩ g ⟨⟩ g' ⟨⟩
  obtain ⟨-, hstate, hgiven, hmoved, -⟩ :=
    validateAll_reordered "Gear" (.text "") [0, 1, 2] (first :: rest) state harmless
  refine ⟨harmless, rfl, hstate, hgiven.trans ?_, hmoved.trans ?_⟩
  · decide +kernel
  · decide +kernel

end Apart

end FormRules
