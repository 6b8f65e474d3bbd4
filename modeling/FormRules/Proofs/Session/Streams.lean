import FormRules.Proofs.Session.Copies

namespace FormRules

variable {γ σ S : Type} [Gated γ σ]

namespace Session

/-- The gates asked in the course of a run, with their answers, in order. -/
def calls (session : Session γ σ) (steps : List (Step γ σ)) : List (γ × Bool) :=
  (session.run steps).flatMap Trace.calls

/-- The session that a run ends in. -/
def final (session : Session γ σ) (steps : List (Step γ σ)) : Session γ σ :=
  Traced.endState session (session.run steps)

theorem calls_cons (session : Session γ σ) (step : Step γ σ) (steps : List (Step γ σ)) :
    session.calls (step :: steps) =
      (session.perform step).calls ++ (session.perform step).state.calls steps := rfl

theorem final_cons (session : Session γ σ) (step : Step γ σ) (steps : List (Step γ σ)) :
    session.final (step :: steps) = (session.perform step).state.final steps := rfl

theorem calls_append (session : Session γ σ) (before later : List (Step γ σ)) :
    session.calls (before ++ later) =
      session.calls before ++ (session.final before).calls later := by
  induction before generalizing session with
  | nil => rfl
  | cons step before ih =>
    rw [List.cons_append, calls_cons, ih, calls_cons, final_cons, List.append_assoc]

theorem perform_calls (session : Session γ σ) (step : Step γ σ) :
    (session.perform step).calls = (askGates (step.evaluated session) session.gates).calls :=
  (perform_acts session step).calls

theorem perform_leaves (session : Session γ σ) (step : Step γ σ) :
    step.Leaves session
      { session with gates := (askGates (step.evaluated session) session.gates).state }
      (session.perform step).state := by
  rw [(perform_acts session step).state]
  exact effect_leaves _ _ _

theorem perform_gates (session : Session γ σ) (step : Step γ σ) :
    (session.perform step).state.gates =
      step.change (askGates (step.evaluated session) session.gates).state :=
  (perform_leaves session step).gates

/-- A run that nobody interferes with is one series of questions to one state: the answers are
those of asking the same gates one after the other, whatever rules they were asked through. -/
theorem calls_threaded (session : Session γ σ) (steps : List (Step γ σ))
    (alone : ∀ change, Step.adjust change ∉ steps) :
    session.calls steps = (askAll ((session.calls steps).map Prod.fst) session.gates).calls ∧
      (session.final steps).gates =
        (askAll ((session.calls steps).map Prod.fst) session.gates).state := by
  -- The induction collects the gates; that they are those of the calls themselves comes after it.
  have hgates : ∃ gates, session.calls steps = (askAll gates session.gates).calls ∧
      (session.final steps).gates = (askAll gates session.gates).state := by
    induction steps generalizing session with
    | nil => exact ⟨[], rfl, rfl⟩
    | cons step steps ih =>
      have hchange : step.change = id := by
        cases step <;> try rfl
        exact absurd List.mem_cons_self (alone _)
      obtain ⟨gates, hcalls, hfinal⟩ := ih (session.perform step).state fun change hmem =>
        alone change (List.mem_cons_of_mem _ hmem)
      rw [perform_gates, hchange, id, askGates] at hcalls hfinal
      refine ⟨(step.evaluated session).filterMap Rule.gate ++ gates, ?_, ?_⟩
      · rw [calls_cons, perform_calls, askAll_append_calls, hcalls, askGates]
      · rw [final_cons, askAll_append_state, hfinal]
  obtain ⟨gates, hcalls, hfinal⟩ := hgates
  have hfst : (session.calls steps).map Prod.fst = gates := by
    rw [hcalls, askAll_calls_fst]
  rw [hfst]
  exact ⟨hcalls, hfinal⟩

variable {gate : γ}

theorem perform_follows (predicate : StatefulPredicate σ gate S) (session : Session γ σ)
    (step : Step γ σ) (apart : ∀ state, predicate.view (step.change state) = predicate.view state) :
    predicate.Follows (predicate.view session.gates) (session.perform step).calls
      (predicate.view (session.perform step).state.gates) := by
  rw [perform_calls, perform_gates, apart]
  exact predicate.follows_askAll _ _

/-- Through a whole run a gate's answers are its predicate's, one after the other. -/
theorem calls_follow (predicate : StatefulPredicate σ gate S) (session : Session γ σ)
    (steps : List (Step γ σ))
    (apart : ∀ step ∈ steps, ∀ state, predicate.view (step.change state) = predicate.view state) :
    predicate.Follows (predicate.view session.gates) (session.calls steps)
      (predicate.view (session.final steps).gates) := by
  induction steps generalizing session with
  | nil => exact .done
  | cons step steps ih =>
    rw [calls_cons, final_cons]
    apply (perform_follows predicate session step (apart step List.mem_cons_self)).append
    exact ih _ fun later hlater => apart later (List.mem_cons_of_mem _ hlater)

end Session

end FormRules
