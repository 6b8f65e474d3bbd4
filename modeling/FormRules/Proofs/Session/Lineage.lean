import FormRules.Proofs.Session.Streams

namespace FormRules

variable {γ σ : Type}

/-- A rule is in one of the session's slots, by itself or in a list. -/
inductive Session.Holds (session : Session γ σ) (rule : Rule γ) : Prop where
  | rule {name : String} : session.rules name = some rule → Holds session rule
  | list {name : String} {rules : List (Rule γ)} : session.lists name = some rules →
    rule ∈ rules → Holds session rule

/-- The rules that a source writes out. -/
def RuleSource.written : RuleSource γ → List (Rule γ)
  | slot _ => []
  | given rule => [rule]

def ListSource.written : ListSource γ → List (Rule γ)
  | slot _ => []
  | given rules => rules.flatMap RuleSource.written

def Step.written : Step γ σ → List (Rule γ)
  | .askGate source | .validate _ _ source _ _ | .rule source _ _ _ _ => source.written
  | .validateAll _ _ source _ _ | .ensure _ _ source | .list source _ _ => source.written
  | _ => []

theorem RuleSource.resolve_cases {session : Session γ σ} {source : RuleSource γ} {rule : Rule γ}
    (h : source.resolve session = some rule) : session.Holds rule ∨ rule ∈ source.written := by
  cases source with
  | slot name => exact .inl (.rule h)
  | given written =>
    cases h
    exact .inr List.mem_cons_self

theorem RuleSource.exists_of_resolved {session : Session γ σ} {sources : List (RuleSource γ)}
    {rules : List (Rule γ)} {rule : Rule γ}
    (h : sources.mapM (·.resolve session) = some rules) (hrule : rule ∈ rules) :
    ∃ source ∈ sources, source.resolve session = some rule := by
  induction sources generalizing rules with
  | nil =>
    cases h
    cases hrule
  | cons source sources ih =>
    rw [List.mapM_cons] at h
    obtain ⟨first, hfirst, h⟩ := Option.bind_eq_some_iff.mp h
    obtain ⟨rest, hrest, h⟩ := Option.bind_eq_some_iff.mp h
    cases h
    cases List.mem_cons.mp hrule with
    | inl heq => exact ⟨source, List.mem_cons_self, heq ▸ hfirst⟩
    | inr hmem =>
      obtain ⟨other, hother, hresolve⟩ := ih hrest hmem
      exact ⟨other, List.mem_cons_of_mem _ hother, hresolve⟩

theorem ListSource.resolve_cases {session : Session γ σ} {source : ListSource γ}
    {rules : List (Rule γ)} {rule : Rule γ} (h : source.resolve session = some rules)
    (hrule : rule ∈ rules) : session.Holds rule ∨ rule ∈ source.written := by
  cases source with
  | slot name => exact .inl (.list h hrule)
  | given sources =>
    obtain ⟨source, hsource, hresolve⟩ := RuleSource.exists_of_resolved h hrule
    cases RuleSource.resolve_cases hresolve with
    | inl hheld => exact .inl hheld
    | inr hwritten => exact .inr (List.mem_flatMap.mpr ⟨source, hsource, hwritten⟩)

theorem Step.sources_cases {session : Session γ σ} {step : Step γ σ} {rule : Rule γ}
    (h : rule ∈ step.sources session) : session.Holds rule ∨ rule ∈ step.written := by
  have hrule (source : RuleSource γ)
      (hmem : rule ∈ (source.resolve session).elim [] fun rule => [rule]) :
      session.Holds rule ∨ rule ∈ source.written := by
    cases hsource : source.resolve session with
    | none =>
      rw [hsource] at hmem
      cases hmem
    | some found =>
      rw [hsource] at hmem
      cases List.mem_singleton.mp hmem
      exact RuleSource.resolve_cases hsource
  have hlist (source : ListSource γ) (hmem : rule ∈ (source.resolve session).elim [] id) :
      session.Holds rule ∨ rule ∈ source.written := by
    cases hsource : source.resolve session with
    | none =>
      rw [hsource] at hmem
      cases hmem
    | some found =>
      rw [hsource] at hmem
      exact ListSource.resolve_cases hsource hmem
  cases step with
  | askGate source => exact hrule source h
  | validate _ _ source _ _ => exact hrule source h
  | rule source _ _ _ _ => exact hrule source h
  | validateAll _ _ source _ _ => exact hlist source h
  | ensure _ _ source => exact hlist source h
  | list source _ _ => exact hlist source h
  | _ => cases h

theorem Step.evaluated_sources {session : Session γ σ} {step : Step γ σ} {rule : Rule γ}
    (h : rule ∈ step.evaluated session) : rule ∈ step.sources session := by
  cases step with
  | rule source _ _ _ _ => cases h
  | list source _ _ => cases h
  | _ => exact h

namespace Session

/-- The rules of a run that its other rules are copies of: those that were in slots before it,
those that a step writes out, and copies that a step puts under a new gate. -/
inductive Origin (session : Session γ σ) (steps : List (Step γ σ)) : Rule γ → Prop where
  | held {rule : Rule γ} : session.Holds rule → Origin session steps rule
  | written {step : Step γ σ} {rule : Rule γ} : step ∈ steps → rule ∈ step.written →
    Origin session steps rule
  | gated {step : Step γ σ} {origin copy : Rule γ} {gate : γ} : step ∈ steps →
    step.newGate? = some gate → Origin session steps origin → origin.Copy copy →
    Origin session steps (copy.on gate)

/-- The rule is a copy of one of the run's origins. -/
def Known (session : Session γ σ) (steps : List (Step γ σ)) (rule : Rule γ) : Prop :=
  ∃ origin, session.Origin steps origin ∧ origin.Copy rule

variable {session here : Session γ σ} {steps : List (Step γ σ)} {step : Step γ σ}

theorem known_of_source (held : ∀ rule, here.Holds rule → session.Known steps rule)
    (hstep : step ∈ steps) {rule : Rule γ} (h : rule ∈ step.sources here) :
    session.Known steps rule := by
  cases Step.sources_cases h with
  | inl hheld => exact held rule hheld
  | inr hwritten => exact ⟨rule, .written hstep hwritten, .same⟩

theorem known_of_makes (held : ∀ rule, here.Holds rule → session.Known steps rule)
    (hstep : step ∈ steps) {rule : Rule γ} (h : step.Makes here rule) :
    session.Known steps rule := by
  obtain ⟨original, hsource, copy, hcopy, rfl⟩ := h
  obtain ⟨origin, horigin, horiginal⟩ := known_of_source held hstep hsource
  cases hgate : step.newGate? with
  | none => exact ⟨origin, horigin, horiginal.trans hcopy⟩
  | some gate =>
    exact ⟨copy.on gate, .gated hstep hgate horigin (horiginal.trans hcopy), .same⟩

variable [Gated γ σ]

/-- A step puts no rule into a slot that is not a copy of one of the run's origins. -/
theorem known_perform (held : ∀ rule, here.Holds rule → session.Known steps rule)
    (hstep : step ∈ steps) {rule : Rule γ} (h : (here.perform step).state.Holds rule) :
    session.Known steps rule := by
  have hleaves := perform_leaves here step
  cases h with
  | @rule name hslot =>
    cases hleaves.rules name with
    | inl hkept => exact held rule (.rule (hkept ▸ hslot))
    | inr hmade =>
      obtain ⟨made, hset, hmakes⟩ := hmade
      cases hslot.symm.trans hset
      exact known_of_makes held hstep hmakes
  | @list name rules hslot hrule =>
    cases hleaves.lists name with
    | inl hkept => exact held rule (.list (hkept ▸ hslot) hrule)
    | inr hmade =>
      obtain ⟨made, hset, hmakes⟩ := hmade
      cases hslot.symm.trans hset
      exact known_of_makes held hstep (hmakes rule hrule)

theorem known_final (held : ∀ rule, here.Holds rule → session.Known steps rule)
    {before : List (Step γ σ)} (hbefore : before ⊆ steps) {rule : Rule γ}
    (h : (here.final before).Holds rule) : session.Known steps rule := by
  -- Origins are those of the whole run, so only the session in which the rest of it starts varies.
  induction before generalizing here with
  | nil => exact held rule h
  | cons step before ih =>
    have hstep : step ∈ steps := hbefore List.mem_cons_self
    rw [final_cons] at h
    exact ih (fun _ hheld => known_perform held hstep hheld)
      (fun _ hmem => hbefore (List.mem_cons_of_mem _ hmem)) h

/-- Whatever a run evaluates is a copy of one of its origins. -/
theorem known_of_evaluated {before later : List (Step γ σ)} (hsteps : steps = before ++ step :: later)
    {rule : Rule γ} (h : rule ∈ step.evaluated (session.final before)) :
    session.Known steps rule := by
  have hbefore : before ⊆ steps := fun earlier hmem =>
    hsteps ▸ List.mem_append_left _ hmem
  have hstep : step ∈ steps := hsteps ▸ List.mem_append_right _ List.mem_cons_self
  have hstart : ∀ rule, session.Holds rule → session.Known steps rule := by
    intro rule hheld
    exact ⟨rule, .held hheld, .same⟩
  have hheld : ∀ rule, (session.final before).Holds rule → session.Known steps rule := by
    intro rule hheld
    exact known_final hstart hbefore hheld
  exact known_of_source hheld hstep (Step.evaluated_sources h)

end Session

/-- Rendering, formatting, printing, logging and deriving rules: all that is neither a question to a
gate nor a change to what the gates read. -/
def Step.isSilent : Step γ σ → Bool
  | .adjust _ | .askGate _ | .validate .. | .validateAll .. | .ensure .. => false
  | _ => true

variable [Gated γ σ]

namespace Session

theorem perform_silent (session : Session γ σ) {step : Step γ σ} (h : step.isSilent = true) :
    (session.perform step).calls = [] ∧ (session.perform step).state.gates = session.gates := by
  have hevaluated : step.evaluated session = [] ∧ step.change = id := by
    cases step <;> first | exact ⟨rfl, rfl⟩ | cases h
  obtain ⟨hnone, hchange⟩ := hevaluated
  rw [perform_calls, perform_gates, hnone, hchange]
  exact ⟨rfl, rfl⟩

/-- A returned failure has its rule's gate, or it is a bare numeric check: that has no gate, and
validating it again asks none. -/
theorem validate_failure_cases {field : String} {value : Value} {rule failure : Rule γ} {state : σ}
    (h : (validate field value rule state).value = some failure) :
    failure = rule ∨
      failure = { kind := .isNumeric, message := none, gate := none } ∧
        ∀ field value (state : σ), (validate field value failure state).calls = [] ∧
          (validate field value failure state).state = state := by
  cases failureOn_cases (failureOn_of_validate h) with
  | inl hsame => exact .inl hsame
  | inr hbare =>
    right
    refine ⟨hbare, ?_⟩
    intro field value state
    rw [validate_calls, validate_state, hbare]
    exact ⟨rfl, rfl⟩

/-- However a run mixes copies of rules, the answers are those of one predicate for each gate: every
question is put to the gate of a rule that is a copy of one of the run's origins, and the answers of
a gate are its predicate's, one after the other, through whichever copy they were asked for. -/
theorem gate_copies_share_one_stream [DecidableEq γ] (session : Session γ σ)
    (steps : List (Step γ σ)) :
    (∀ {S : Type} (gate : γ) (predicate : StatefulPredicate σ gate S),
      (∀ step ∈ steps, ∀ state, predicate.view (step.change state) = predicate.view state) →
      ∀ (k : Nat) answer, (answersOf gate (session.calls steps))[k]? = some answer →
        answer = predicate.answer (predicate.next^[k] (predicate.view session.gates))) ∧
    (∀ (session : Session Gate GateState) steps id,
      (∀ step ∈ steps, ∀ state, (step.change state).sequences id = state.sequences id) →
      ∀ (k : Nat) answer, (answersOf (.sequence id) (session.calls steps))[k]? = some answer →
        answer = ((session.gates.sequences id)[k]?).getD false) ∧
    ((∀ change, Step.adjust change ∉ steps) →
      session.calls steps = (askAll ((session.calls steps).map Prod.fst) session.gates).calls ∧
      (session.final steps).gates =
        (askAll ((session.calls steps).map Prod.fst) session.gates).state) ∧
    (∀ before step later, steps = before ++ step :: later →
      let here := session.final before
      session.calls steps =
        session.calls before ++ (askGates (step.evaluated here) here.gates).calls ++
          (here.perform step).state.calls later ∧
      (∀ rule ∈ step.evaluated here, ∃ origin, session.Origin steps origin ∧ origin.Copy rule ∧
        (rule.gate = origin.gate ∨ rule.gate = none ∧ rule.kind = .isNumeric)) ∧
      (step.isSilent = true →
        (here.perform step).calls = [] ∧ (here.perform step).state.gates = here.gates)) ∧
    ∀ field value (rule failure : Rule γ) (state : σ),
      (validate field value rule state).value = some failure →
      failure = rule ∨
        failure = { kind := .isNumeric, message := none, gate := none } ∧
          ∀ field value (state : σ), (validate field value failure state).calls = [] ∧
            (validate field value failure state).state = state := by
  refine ⟨?_, ?_, calls_threaded session steps, ?_, ?_⟩
  · intro S gate predicate apart k answer hanswer
    exact (calls_follow predicate session steps apart).getElem? hanswer
  · intro session steps id apart k answer hanswer
    rw [(calls_follow (Gate.sequencePredicate id) session steps apart).getElem? hanswer]
    exact Gate.sequencePredicate_answer id k _
  · intro before step later hsteps here
    refine ⟨?_, ?_, perform_silent here⟩
    · rw [hsteps, calls_append, calls_cons, perform_calls, List.append_assoc]
    · intro rule hrule
      obtain ⟨origin, horigin, hcopy⟩ := known_of_evaluated hsteps hrule
      exact ⟨origin, horigin, hcopy, hcopy.gate_cases⟩
  · intro field value rule failure state h
    exact validate_failure_cases h

/-- A rule, a copy with a message and a failure take turns at one sequence, while something else that
gates read is changed from outside. The failure that stands for a comparison takes no turn. -/
theorem gate_copies_share_one_stream_turns :
    let rule : Rule Gate := Rule.nonEmpty.on (.sequence 0)
    let unread : Rule Gate := (Rule.greater "4").on (.sequence 0)
    let session : Session Gate GateState :=
      { gates := { sequences := fun _ => [true, false, true] } }
    let first : List (Step Gate GateState) :=
      [.validate "Name" (.text "") (.given rule) .plain (some "failure"),
        .askGate (.given (rule.withMessage "Who are you?"))]
    let again : Step Gate GateState := .validate "Name" (.text "") (.slot "failure") .log none
    let turns := first ++ again :: [.inspect (.slot "failure"), .askGate (.slot "failure")]
    let adjusted := .adjust (·.setFlag "shown" true) :: turns
    let predicate := Gate.sequencePredicate 0
    let here := session.final first
    (∀ step ∈ adjusted, ∀ state, (step.change state).sequences 0 = state.sequences 0) ∧
    (∀ change, Step.adjust change ∉ turns) ∧
    answersOf (.sequence 0) (session.calls adjusted) = [true, false, true, false] ∧
    (∀ (k : Nat) answer, (answersOf (.sequence 0) (session.calls adjusted))[k]? = some answer →
      answer = predicate.answer (predicate.next^[k] [true, false, true]) ∧
      answer = ([true, false, true][k]?).getD false) ∧
    session.calls turns = (askAll (List.replicate 4 (.sequence 0)) session.gates).calls ∧
    again.evaluated here = [rule] ∧
    (∃ origin, session.Origin turns origin ∧ origin.Copy rule ∧
      (rule.gate = origin.gate ∨ rule.gate = none ∧ rule.kind = .isNumeric)) ∧
    ((session.final (first ++ [again])).perform (.inspect (.slot "failure"))).calls = [] ∧
    (validate "Name" (.text "?") unread session.gates).value = some .isNumeric ∧
    (validate "Name" (.text "?") (.isNumeric : Rule Gate) session.gates).calls = [] := by
  intro rule unread session first again turns adjusted predicate here
  have hchange : ∀ step ∈ adjusted, ∀ state : GateState,
      (step.change state).sequences 0 = state.sequences 0 := by
    simp [adjusted, turns, first, again, Step.change, GateState.setFlag]
  have halone : ∀ change, Step.adjust change ∉ turns := by
    simp [turns, first, again]
  obtain ⟨hpredicate, hsequence, -, -, -⟩ := gate_copies_share_one_stream session adjusted
  obtain ⟨-, -, hthreaded, hsteps, hfailure⟩ := gate_copies_share_one_stream session turns
  have hgates : (session.calls turns).map Prod.fst = List.replicate 4 (.sequence 0) := rfl
  have hcalls := (hthreaded halone).1
  rw [hgates] at hcalls
  obtain ⟨-, horigins, -⟩ := hsteps first again _ rfl
  obtain ⟨-, -, hsilent⟩ := hsteps (first ++ [again]) (.inspect (.slot "failure")) _ rfl
  have hanswers : answersOf (.sequence 0) (session.calls adjusted) = [true, false, true, false] := by
    decide +kernel
  have hevaluated : again.evaluated here = [rule] := by decide +kernel
  have horigin := horigins rule (hevaluated ▸ List.mem_cons_self)
  have hbare : (validate "Name" (.text "?") unread session.gates).value = some .isNumeric := by
    decide +kernel
  refine ⟨hchange, halone, hanswers, ?_, hcalls, hevaluated, horigin, (hsilent rfl).1, hbare, ?_⟩
  · intro k answer hanswer
    exact ⟨hpredicate (.sequence 0) predicate hchange k answer hanswer,
      hsequence session adjusted 0 hchange k answer hanswer⟩
  · rcases hfailure "Name" (.text "?") unread .isNumeric session.gates hbare with hsame | hnone
    · exact absurd hsame (by decide)
    · exact (hnone.2 "Name" (.text "?") session.gates).1

end Session

end FormRules
