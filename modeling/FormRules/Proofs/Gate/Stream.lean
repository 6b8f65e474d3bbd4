import FormRules.Traced
import Mathlib.Logic.Function.Iterate

namespace FormRules

variable {γ σ S : Type} [Gated γ σ]

/-- Asks gates one after the other. -/
def askAll (gates : List γ) : Traced γ σ (List Bool) := gates.mapM Traced.ask

theorem askAll_append (gates later : List γ) :
    (askAll (gates ++ later) : Traced γ σ (List Bool)) = do
      let before ← askAll gates
      let after ← askAll later
      return before ++ after := List.mapM_append

theorem askAll_append_calls (gates later : List γ) (state : σ) :
    (askAll (gates ++ later) state).calls =
      (askAll gates state).calls ++ (askAll later (askAll gates state).state).calls := by
  rw [askAll_append, Traced.bind_calls, Traced.bind_calls]
  exact congrArg _ (List.append_nil _)

theorem askAll_append_state (gates later : List γ) (state : σ) :
    (askAll (gates ++ later) state).state = (askAll later (askAll gates state).state).state := by
  rw [askAll_append]
  rfl

theorem askAll_cons_calls (gate : γ) (gates : List γ) (state : σ) :
    (askAll (gate :: gates) state).calls =
      (gate, (Gated.ask gate state).1) :: (askAll gates (Gated.ask gate state).2).calls :=
  askAll_append_calls [gate] gates state

theorem askAll_cons_state (gate : γ) (gates : List γ) (state : σ) :
    (askAll (gate :: gates) state).state = (askAll gates (Gated.ask gate state).2).state :=
  askAll_append_state [gate] gates state

theorem askAll_calls_fst (gates : List γ) (state : σ) :
    (askAll gates state).calls.map Prod.fst = gates := by
  induction gates generalizing state with
  | nil => rfl
  | cons gate gates ih => rw [askAll_cons_calls, List.map_cons, ih]

/-- A gate's predicate: it answers from a state of its own and moves that state on, and no other
gate takes notice of it. -/
structure StatefulPredicate (σ : Type) [Gated γ σ] (gate : γ) (S : Type) where
  view : σ → S
  answer : S → Bool
  next : S → S
  ask_answer : ∀ state, (Gated.ask gate state).1 = answer (view state)
  ask_next : ∀ state, view (Gated.ask gate state).2 = next (view state)
  ask_other : ∀ other ≠ gate, ∀ state : σ, view (Gated.ask other state).2 = view state

namespace StatefulPredicate

variable {gate : γ}

/-- Calls in which the predicate, from one state of its own to another, gave all the answers of
its gate. -/
inductive Follows (predicate : StatefulPredicate σ gate S) : S → List (γ × Bool) → S → Prop where
  | done {s : S} : Follows predicate s [] s
  | own {s t : S} {calls : List (γ × Bool)} : Follows predicate (predicate.next s) calls t →
      Follows predicate s ((gate, predicate.answer s) :: calls) t
  | other {s t : S} {calls : List (γ × Bool)} {gate' : γ} {answer : Bool} : gate' ≠ gate →
      Follows predicate s calls t → Follows predicate s ((gate', answer) :: calls) t

variable {predicate : StatefulPredicate σ gate S}

theorem Follows.append {s t u : S} {calls later : List (γ × Bool)}
    (h : Follows predicate s calls t) (h' : Follows predicate t later u) :
    Follows predicate s (calls ++ later) u := by
  induction h with
  | done => exact h'
  | own _ ih => exact .own (ih h')
  | other hne _ ih => exact .other hne (ih h')

theorem follows_askAll (predicate : StatefulPredicate σ gate S) (gates : List γ) (state : σ) :
    Follows predicate (predicate.view state) (askAll gates state).calls
      (predicate.view (askAll gates state).state) := by
  induction gates generalizing state with
  | nil => exact .done
  | cons asked gates ih =>
    have hrest := ih (Gated.ask asked state).2
    rw [askAll_cons_calls, askAll_cons_state]
    by_cases hgate : asked = gate
    · subst hgate
      rw [predicate.ask_next] at hrest
      rw [predicate.ask_answer]
      exact .own hrest
    · rw [predicate.ask_other asked hgate] at hrest
      exact .other hgate hrest

end StatefulPredicate

/-- The answers that one gate gave in the course of some calls. -/
def answersOf [DecidableEq γ] (gate : γ) (calls : List (γ × Bool)) : List Bool :=
  (calls.filter fun call => call.1 = gate).map Prod.snd

/-- The answer to the question number `k` is that of the state which `k` questions leave. -/
theorem StatefulPredicate.Follows.getElem? [DecidableEq γ] {gate : γ}
    {predicate : StatefulPredicate σ gate S} {s t : S} {calls : List (γ × Bool)}
    (h : Follows predicate s calls t) {k : Nat} {answer : Bool}
    (hk : (answersOf gate calls)[k]? = some answer) :
    answer = predicate.answer (predicate.next^[k] s) := by
  induction h generalizing k with
  | done => simp [answersOf] at hk
  | own _ ih =>
    cases k with
    | zero => simpa [answersOf, eq_comm] using hk
    | succ k =>
      rw [Function.iterate_succ_apply]
      apply ih
      simpa [answersOf] using hk
  | other hne _ ih =>
    apply ih
    simpa [answersOf, hne] using hk

/-- A sequence answers from what is left of it. -/
def Gate.sequencePredicate (id : Nat) :
    StatefulPredicate GateState (Gate.sequence id) (List Bool) where
  view state := state.sequences id
  answer left := left.head?.getD false
  next left := left.tail
  ask_answer := by
    intro state
    change (Gate.ask (.sequence id) state).1 = _
    rw [Gate.ask]
    cases state.sequences id <;> rfl
  ask_next := by
    intro state
    change (Gate.ask (.sequence id) state).2.sequences id = _
    rw [Gate.ask]
    cases h : state.sequences id with
    | nil => exact h
    | cons answer rest => exact assign_same ..
  ask_other := by
    intro other hne state
    change (Gate.ask other state).2.sequences id = _
    cases other with
    | constant answer => rfl
    | flag name => rfl
    | flip name => rfl
    | countdown name =>
      rw [Gate.ask]
      cases state.counters name <;> rfl
    | sequence id' =>
      have hid : id ≠ id' := by
        intro heq
        exact hne (heq ▸ rfl)
      rw [Gate.ask]
      cases state.sequences id' with
      | nil => rfl
      | cons answer rest => exact assign_other _ _ hid

theorem Gate.sequencePredicate_answer (id k : Nat) (bits : List Bool) :
    (sequencePredicate id).answer ((sequencePredicate id).next^[k] bits) = bits[k]?.getD false := by
  induction k generalizing bits with
  | zero => cases bits <;> rfl
  | succ k ih =>
    rw [Function.iterate_succ_apply, ih]
    cases bits <;> rfl

end FormRules
