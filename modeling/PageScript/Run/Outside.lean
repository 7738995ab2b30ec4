import PageScript.Run.Action
import PageScript.Report.Record

/-!
# The outside of a run

Whatever answers the actions of a run has a state of its own. Asked for an action, it says how it
will behave: the state it takes at once, what happens until it answers, and the answer with the
state that goes with it, unless it never answers.
-/

namespace PageScript

/-- Something that happens while an action is under way. -/
inductive Beat where
  /-- Time passes. -/
  | rest (d : Duration)
  /-- The action gives way to others, without taking time. -/
  | giveWay
  /-- The run is asked to stop. -/
  | stop
  /-- A record is put into the log. -/
  | note (r : Record)

/-- How the outside behaves when it is asked for an action. -/
structure Conduct (σ α : Type) where
  /-- The state it takes at once, and keeps if it is not let come to its end. -/
  start : σ
  beats : List Beat := []
  /-- The answer and the state that goes with it, or nothing if it never answers. -/
  ending : Option (α × σ)

namespace Conduct

/-- Takes a state and answers at once. -/
def answer {σ α : Type} (s : σ) (a : α) : Conduct σ α :=
  { start := s, ending := some (a, s) }

/-- The same conduct as part of a larger state. -/
def mapState {σ τ α : Type} (f : σ → τ) (c : Conduct σ α) : Conduct τ α where
  start := f c.start
  beats := c.beats
  ending := c.ending.map fun (a, s) => (a, f s)

/-- The same conduct after something has happened. -/
def after {σ α : Type} (beats : List Beat) (c : Conduct σ α) : Conduct σ α :=
  { c with beats := beats ++ c.beats }

end Conduct

/-- An outside with states of a type. -/
abbrev Outside (σ : Type) := (a : Action) → σ → Conduct σ a.Answer

end PageScript
