import LSystems.Rewriting
import LSystems.Settings

namespace LSystems

/-- A word that grows by a grammar, with the number of its generation. -/
structure LSystem where
  seed : Word
  grammar : Grammar
  step : Int
  word : Word
  generation : Nat

namespace LSystem

/-- A system whose word is its seed. -/
def start (seed : Word) (grammar : Grammar) (step : Int) : LSystem :=
  ⟨seed, grammar, step, seed, 0⟩

/-- A system at its seed with the step that an environment sets. -/
def configured (env : Environment) (seed : Word) (grammar : Grammar) : Except SettingFault LSystem :=
  env.progressStep.map (start seed grammar)

/-- The system one generation on. -/
def iterate (s : LSystem) : Tracked LSystem :=
  let next := s.grammar.advance s.step s.word
  ⟨next.progress, next.outcome.map fun w =>
    { s with word := w, generation := s.generation + 1 }⟩

end LSystem

end LSystems
