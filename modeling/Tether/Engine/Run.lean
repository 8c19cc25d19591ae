import Tether.Engine.Step

/-!
# `Tether.Engine.Run` — histories of the session engine

A history lists inputs, each with the surroundings of its step, in any order: inputs that cannot occur
change nothing, so every list is a history. `Engine.run` is what a history leads to.

Main statement: `run_append` (a history can be cut anywhere).
-/

namespace Tether.Engine

/-- Inputs with the surroundings of their steps, in order. -/
abbrev History := List (Surroundings × Input)

/-- What a history leads to. -/
def run : History → Engine → Outcome
  | [], e => e.idle
  | (s, input) :: rest, e => (e.step s input).andThen (run rest)

theorem andThen_assoc (o : Outcome) (f g : Engine → Outcome) :
    (o.andThen f).andThen g = o.andThen fun e => (f e).andThen g := by
  simp [Outcome.andThen]

/-- A history can be cut anywhere. -/
theorem run_append (before after : History) (e : Engine) :
    run (before ++ after) e = (run before e).andThen (run after) := by
  induction before generalizing e with
  | nil => simp [run, Outcome.andThen, idle]
  | cons head rest ih =>
    obtain ⟨s, input⟩ := head
    simp only [List.cons_append, run, andThen_assoc]
    congr 1
    funext e
    exact ih e

end Tether.Engine
