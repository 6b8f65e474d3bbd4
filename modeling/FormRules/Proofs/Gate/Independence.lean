import FormRules.Proofs.Gate.Stream
import Mathlib.Data.Set.Defs

namespace FormRules

/-- One flag, one counter or one sequence. -/
inductive Cell where
  | flag (name : String)
  | counter (name : String)
  | sequence (id : Nat)
  deriving DecidableEq, Repr

def Cell.Content : Cell → Type
  | flag _ => Bool
  | counter _ => Nat
  | sequence _ => List Bool

namespace GateState

def content (state : GateState) : (cell : Cell) → cell.Content
  | .flag name => state.flags name
  | .counter name => state.counters name
  | .sequence id => state.sequences id

theorem eq_of_content {s t : GateState} (h : ∀ cell, s.content cell = t.content cell) : s = t := by
  have hflags : s.flags = t.flags := funext fun name => h (.flag name)
  have hcounters : s.counters = t.counters := funext fun name => h (.counter name)
  have hsequences : s.sequences = t.sequences := funext fun id => h (.sequence id)
  obtain ⟨flags, counters, sequences⟩ := s
  subst hflags hcounters hsequences
  rfl

/-- The two states do not differ in these cells. -/
def AgreeOn (cells : Set Cell) (s t : GateState) : Prop :=
  ∀ cell ∈ cells, s.content cell = t.content cell

theorem content_setFlag_of_ne (state : GateState) {name : String} (value : Bool) {cell : Cell}
    (h : cell ≠ .flag name) : (state.setFlag name value).content cell = state.content cell := by
  cases cell with
  | flag other => exact assign_other _ _ (by simpa using h)
  | counter other => rfl
  | sequence other => rfl

theorem content_setCounter_of_ne (state : GateState) {name : String} (value : Nat) {cell : Cell}
    (h : cell ≠ .counter name) :
    (state.setCounter name value).content cell = state.content cell := by
  cases cell with
  | flag other => rfl
  | counter other => exact assign_other _ _ (by simpa using h)
  | sequence other => rfl

theorem content_setSequence_of_ne (state : GateState) {id : Nat} (answers : List Bool)
    {cell : Cell} (h : cell ≠ .sequence id) :
    (state.setSequence id answers).content cell = state.content cell := by
  cases cell with
  | flag other => rfl
  | counter other => rfl
  | sequence other => exact assign_other _ _ (by simpa using h)

end GateState

variable {γ : Type}

/-- It makes no difference to either answer or to the state which of the two gates is asked first. -/
structure Interchangeable (σ : Type) [Gated γ σ] (g h : γ) : Prop where
  first : ∀ s : σ, (Gated.ask g (Gated.ask h s).2).1 = (Gated.ask g s).1
  second : ∀ s : σ, (Gated.ask h (Gated.ask g s).2).1 = (Gated.ask h s).1
  state : ∀ s : σ, (Gated.ask g (Gated.ask h s).2).2 = (Gated.ask h (Gated.ask g s).2).2

section Gates

variable [Gated γ GateState] {g h : γ} {cells cells' : Set Cell}

/-- The gate reads and writes these cells alone: its answer and what it leaves in them depend on
nothing else, and it changes nothing else. -/
structure Uses (gate : γ) (cells : Set Cell) : Prop where
  answer : ∀ s t : GateState, s.AgreeOn cells t → (Gated.ask gate s).1 = (Gated.ask gate t).1
  leaves : ∀ s t : GateState, s.AgreeOn cells t →
    (Gated.ask gate s).2.AgreeOn cells (Gated.ask gate t).2
  others : ∀ s : GateState, ∀ cell ∉ cells, (Gated.ask gate s).2.content cell = s.content cell

/-- Two gates of which neither ever changes the state, or which use different cells. -/
inductive Apart (g h : γ) : Prop where
  | still : (∀ s : GateState, (Gated.ask g s).2 = s) → (∀ s : GateState, (Gated.ask h s).2 = s) →
      Apart g h
  | disjoint {cells cells' : Set Cell} : Uses g cells → Uses h cells' →
      (∀ cell ∈ cells, cell ∉ cells') → Apart g h

/-- A gate that answers from one cell and moves that cell on. -/
theorem Uses.ofCell (cell : Cell) (answer : cell.Content → Bool)
    (next : cell.Content → cell.Content)
    (hanswer : ∀ s : GateState, (Gated.ask g s).1 = answer (s.content cell))
    (hnext : ∀ s : GateState, (Gated.ask g s).2.content cell = next (s.content cell))
    (hothers : ∀ s : GateState, ∀ other ≠ cell,
      (Gated.ask g s).2.content other = s.content other) : Uses g {cell} := by
  refine ⟨?_, ?_, ?_⟩
  · intro s t hagree
    rw [hanswer, hanswer, hagree cell rfl]
  · rintro s t hagree _ rfl
    rw [hnext, hnext, hagree _ rfl]
  · intro s other hother
    exact hothers s other hother

/-- A gate leaves alone what a gate with other cells reads. -/
theorem Uses.agreeOn (hh : Uses h cells') (hd : ∀ cell ∈ cells, cell ∉ cells') (s : GateState) :
    (Gated.ask h s).2.AgreeOn cells s := by
  intro cell hcell
  exact hh.others s cell (hd cell hcell)

theorem Uses.interchangeable (hg : Uses g cells) (hh : Uses h cells')
    (hd : ∀ cell ∈ cells, cell ∉ cells') : Interchangeable GateState g h := by
  have hd' : ∀ cell ∈ cells', cell ∉ cells := fun cell hcell' hcell => hd cell hcell hcell'
  refine ⟨?_, ?_, ?_⟩
  · intro s
    exact hg.answer _ _ (hh.agreeOn hd s)
  · intro s
    exact hh.answer _ _ (hg.agreeOn hd' s)
  · intro s
    apply GateState.eq_of_content
    intro cell
    by_cases hcell : cell ∈ cells
    · have hother : cell ∉ cells' := hd cell hcell
      calc
        (Gated.ask g (Gated.ask h s).2).2.content cell = (Gated.ask g s).2.content cell :=
          hg.leaves _ _ (hh.agreeOn hd s) cell hcell
        _ = (Gated.ask h (Gated.ask g s).2).2.content cell := (hh.others _ cell hother).symm
    · rw [hg.others _ cell hcell]
      by_cases hcell' : cell ∈ cells'
      · exact (hh.leaves _ _ (hg.agreeOn hd' s) cell hcell').symm
      · rw [hh.others _ cell hcell', hh.others _ cell hcell', hg.others _ cell hcell]

theorem Apart.interchangeable (hapart : Apart g h) : Interchangeable GateState g h := by
  cases hapart with
  | still hg hh =>
    refine ⟨?_, ?_, ?_⟩
    · intro s
      rw [hh]
    · intro s
      rw [hg]
    · intro s
      rw [hh, hg, hh]
  | disjoint hg hh hd => exact hg.interchangeable hh hd

end Gates

namespace Gate

/-- The cells that a gate looks at or changes. -/
def cells : Gate → Set Cell
  | constant _ => ∅
  | flag name | flip name => {.flag name}
  | countdown name => {.counter name}
  | sequence id => {.sequence id}

theorem uses_cells (gate : Gate) : Uses gate gate.cells := by
  cases gate with
  | constant answer => exact ⟨fun _ _ _ => rfl, fun _ _ hagree => hagree, fun _ _ _ => rfl⟩
  | flag name =>
    apply Uses.ofCell (.flag name) id id
    · intro s
      rfl
    · intro s
      rfl
    · intro s other _
      rfl
  | flip name =>
    apply Uses.ofCell (.flag name) id not
    · intro s
      rfl
    · intro s
      exact assign_same ..
    · intro s other hother
      exact s.content_setFlag_of_ne _ hother
  | countdown name =>
    apply Uses.ofCell (.counter name) (fun left : Nat => left != 0) Nat.pred
    all_goals intro s
    · change (ask (.countdown name) s).1 = (s.counters name != 0)
      rw [ask]
      cases s.counters name <;> rfl
    · change (ask (.countdown name) s).2.counters name = (s.counters name).pred
      rw [ask]
      cases h : s.counters name with
      | zero => exact h
      | succ rest => exact assign_same ..
    · intro other hother
      change (ask (.countdown name) s).2.content other = s.content other
      rw [ask]
      cases s.counters name with
      | zero => rfl
      | succ rest => exact s.content_setCounter_of_ne _ hother
  | sequence id =>
    apply Uses.ofCell (.sequence id) (fun left : List Bool => left.head?.getD false) List.tail
    all_goals intro s
    · exact (sequencePredicate id).ask_answer s
    · exact (sequencePredicate id).ask_next s
    · intro other hother
      change (ask (.sequence id) s).2.content other = s.content other
      rw [ask]
      cases s.sequences id with
      | nil => rfl
      | cons answer rest => exact s.content_setSequence_of_ne _ hother

end Gate

end FormRules
