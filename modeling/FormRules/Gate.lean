namespace FormRules

/-- Gates of type `γ` answer in states of type `σ`. An answer may move the state on, so the same
gate need not answer alike twice; every copy of a gate reads and moves the one state. -/
class Gated (γ σ : Type) where
  ask : γ → σ → Bool × σ

/-- A gate over named flags, named counters and numbered sequences of answers. -/
inductive Gate where
  | constant (answer : Bool)
  | flag (name : String)
  | flip (name : String)
  | countdown (name : String)
  | sequence (id : Nat)
  deriving DecidableEq, Repr

/-- A function changed at one argument. -/
def assign {α β : Type} [DecidableEq α] (f : α → β) (a : α) (b : β) : α → β :=
  fun x => if x = a then b else f x

theorem assign_same {α β : Type} [DecidableEq α] (f : α → β) (a : α) (b : β) :
    assign f a b a = b := if_pos rfl

theorem assign_other {α β : Type} [DecidableEq α] (f : α → β) {a x : α} (b : β) (hx : x ≠ a) :
    assign f a b x = f x := if_neg hx

/-- Flags, counters and, for each sequence, the answers that it has yet to give. -/
structure GateState where
  flags : String → Bool := fun _ => false
  counters : String → Nat := fun _ => 0
  sequences : Nat → List Bool := fun _ => []

namespace GateState

def setFlag (state : GateState) (name : String) (value : Bool) : GateState :=
  { state with flags := assign state.flags name value }

def setCounter (state : GateState) (name : String) (value : Nat) : GateState :=
  { state with counters := assign state.counters name value }

def setSequence (state : GateState) (id : Nat) (answers : List Bool) : GateState :=
  { state with sequences := assign state.sequences id answers }

end GateState

namespace Gate

/-- A flip gate negates its flag after answering with it, a countdown gate is open as often as
its counter says, and a sequence gives its answers one by one and is closed after the last. -/
def ask : Gate → GateState → Bool × GateState
  | constant answer, state => (answer, state)
  | flag name, state => (state.flags name, state)
  | flip name, state => (state.flags name, state.setFlag name (!state.flags name))
  | countdown name, state =>
    match state.counters name with
    | 0 => (false, state)
    | rest + 1 => (true, state.setCounter name rest)
  | sequence id, state =>
    match state.sequences id with
    | [] => (false, state)
    | answer :: rest => (answer, state.setSequence id rest)

instance : Gated Gate GateState := ⟨ask⟩

/-- The name under which a gate's answers are reported. -/
def label : Gate → String
  | constant _ => "const"
  | flag name => "flag:" ++ name
  | flip name => "flip:" ++ name
  | countdown name => "countdown:" ++ name
  | sequence _ => "seq"

end Gate

end FormRules
