import FormRules.Event
import FormRules.Gate

namespace FormRules

/-- One thing that happened in a run: a gate of type `γ` was asked, or an event was logged. -/
inductive Entry (γ : Type) where
  | asked (gate : γ) (answer : Bool)
  | logged (event : Event)
  deriving DecidableEq, Repr

def Entry.call? {γ : Type} : Entry γ → Option (γ × Bool)
  | asked gate answer => some (gate, answer)
  | logged _ => none

def Entry.event? {γ : Type} : Entry γ → Option Event
  | asked _ _ => none
  | logged event => some event

/-- A finished run: its value, the state it left behind and what happened, in order. -/
structure Trace (γ σ α : Type) where
  value : α
  state : σ
  log : List (Entry γ)

namespace Trace

variable {γ σ α : Type}

/-- The gates asked, with their answers, in order. -/
def calls (trace : Trace γ σ α) : List (γ × Bool) := trace.log.filterMap Entry.call?

/-- The events logged, in order. -/
def events (trace : Trace γ σ α) : List Event := trace.log.filterMap Entry.event?

end Trace

/-- A computation that can ask gates, move their state on and log events. -/
def Traced (γ σ α : Type) : Type := σ → Trace γ σ α

namespace Traced

variable {γ σ α β : Type}

/-- Runs the second computation on the state and value that the first one left. -/
instance : Monad (Traced γ σ) where
  pure value := fun state => ⟨value, state, []⟩
  bind first next := fun state =>
    let before := first state
    let after := next before.value before.state
    ⟨after.value, after.state, before.log ++ after.log⟩

theorem pure_apply (value : α) (state : σ) :
    (pure value : Traced γ σ α) state = ⟨value, state, []⟩ := rfl

theorem bind_apply (first : Traced γ σ α) (next : α → Traced γ σ β) (state : σ) :
    (first >>= next) state =
      ⟨(next (first state).value (first state).state).value,
        (next (first state).value (first state).state).state,
        (first state).log ++ (next (first state).value (first state).state).log⟩ := rfl

theorem pure_bind_eq (value : α) (next : α → Traced γ σ β) : pure value >>= next = next value :=
  rfl

theorem bind_pure_eq (first : Traced γ σ α) : first >>= pure = first := by
  funext state
  rw [bind_apply, pure_apply, List.append_nil]

theorem bind_bind_eq {δ : Type} (first : Traced γ σ α) (next : α → Traced γ σ β)
    (last : β → Traced γ σ δ) :
    first >>= next >>= last = first >>= fun value => next value >>= last := by
  funext state
  simp only [bind_apply, List.append_assoc]

instance : LawfulMonad (Traced γ σ) :=
  LawfulMonad.mk' _ bind_pure_eq pure_bind_eq bind_bind_eq

theorem bind_state (first : Traced γ σ α) (next : α → Traced γ σ β) (state : σ) :
    ((first >>= next) state).state = (next (first state).value (first state).state).state := rfl

theorem bind_calls (first : Traced γ σ α) (next : α → Traced γ σ β) (state : σ) :
    ((first >>= next) state).calls =
      (first state).calls ++ (next (first state).value (first state).state).calls :=
  List.filterMap_append

def get : Traced γ σ σ := fun state => ⟨state, state, []⟩

def modify (change : σ → σ) : Traced γ σ Unit := fun state => ⟨(), change state, []⟩

def log (event : Event) : Traced γ σ Unit := fun state => ⟨(), state, [.logged event]⟩

def logAll (events : List Event) : Traced γ σ Unit :=
  fun state => ⟨(), state, events.map .logged⟩

theorem logAll_calls (events : List Event) (state : σ) :
    ((logAll events : Traced γ σ Unit) state).calls = [] := by
  apply List.filterMap_eq_nil_iff.mpr
  intro entry hentry
  obtain ⟨event, -, rfl⟩ := List.mem_map.mp hentry
  rfl

theorem logAll_events (events : List Event) (state : σ) :
    ((logAll events : Traced γ σ Unit) state).events = events := by
  rw [logAll, Trace.events, List.filterMap_map]
  exact List.filterMap_some

def ask [Gated γ σ] (gate : γ) : Traced γ σ Bool := fun state =>
  ⟨(Gated.ask gate state).1, (Gated.ask gate state).2, [.asked gate (Gated.ask gate state).1]⟩

/-- The traces of one computation for each element, each run in the state that the one before
it left. -/
def traces (f : α → Traced γ σ β) : List α → σ → List (Trace γ σ β)
  | [], _ => []
  | a :: as, state => f a state :: traces f as (f a state).state

/-- The state in which the last of some consecutive runs ended. -/
def endState (state : σ) (runs : List (Trace γ σ β)) : σ :=
  runs.foldl (fun _ run => run.state) state

theorem traces_append (f : α → Traced γ σ β) (as bs : List α) (state : σ) :
    traces f (as ++ bs) state =
      traces f as state ++ traces f bs (endState state (traces f as state)) := by
  induction as generalizing state with
  | nil => rfl
  | cons a as ih =>
    rw [List.cons_append, traces, ih]
    rfl

theorem mem_traces {f : α → Traced γ σ β} {as : List α} {state : σ} {run : Trace γ σ β}
    (h : run ∈ traces f as state) : ∃ a ∈ as, ∃ before, run = f a before := by
  induction as generalizing state with
  | nil => cases h
  | cons a as ih =>
    cases List.mem_cons.mp h with
    | inl hfirst => exact ⟨a, List.mem_cons_self, state, hfirst⟩
    | inr hrest =>
      obtain ⟨b, hb, before, hrun⟩ := ih hrest
      exact ⟨b, List.mem_cons_of_mem _ hb, before, hrun⟩

theorem endState_append (state : σ) (before after : List (Trace γ σ β)) :
    endState state (before ++ after) = endState (endState state before) after :=
  List.foldl_append

theorem mapM_apply (f : α → Traced γ σ β) (as : List α) (state : σ) :
    as.mapM f state =
      ⟨(traces f as state).map Trace.value, endState state (traces f as state),
        (traces f as state).flatMap Trace.log⟩ := by
  induction as generalizing state with
  | nil => rfl
  | cons a as ih =>
    rw [List.mapM_cons]
    simp only [bind_apply, pure_apply, ih, List.append_nil]
    rfl

end Traced

end FormRules
