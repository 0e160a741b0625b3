import LSystems.Grammar
import LSystems.Progress
import LSystems.Rounding

namespace LSystems

/-- The percentage points between two reports unless other ones are asked for. -/
def defaultStep : Int := 5

/-- A word cut into pieces of `size` symbols, at least one; the last may be shorter. -/
def chunks (size : Nat) (w : Word) : List Word :=
  if _h : w = [] then []
  else w.take (max 1 size) :: chunks size (w.drop (max 1 size))
termination_by w.length
decreasing_by
  have := List.length_pos_iff.mpr ‹¬w = []›
  simp only [List.length_drop]
  omega

/-- How many symbols of the word have been taken at the end of each piece. -/
def chunkEnds : Nat → List Word → List Int
  | _, [] => []
  | taken, piece :: pieces =>
    let taken := taken + piece.length
    (taken : Int) :: chunkEnds taken pieces

/-- The size of the pieces that make up `step` percent of a word, rounded up; the
quotient is a binary64 number. -/
def chunkSize (total : Nat) (step : Int) : Except Fault Nat :=
  match Magnitude.nearest? (total * step.toNat) 100 with
  | some quotient => .ok (max 1 quotient.ceil)
  | none => .error .quotientTooLarge

/-- The next generation of a word, rewritten piece by piece; the percentages tell
how much of the word has been taken. -/
def Grammar.advance (g : Grammar) (step : Int) (w : Word) : Tracked Word :=
  match Throttle.start w.length step with
  | .error e => ⟨[], .error e⟩
  | .ok throttle =>
    if w.isEmpty then ⟨throttle.finish.1.toList, .ok w⟩
    else
      match chunkSize w.length step with
      | .error e => ⟨[], .error e⟩
      | .ok size =>
        let pieces := chunks size w
        ⟨(throttle.feed (chunkEnds 0 pieces)).1, .ok (pieces.flatMap g.rewrite)⟩

/-- The word after `n` generations. -/
def Grammar.grow (g : Grammar) (seed : Word) : Nat → Word
  | 0 => seed
  | n + 1 => g.grow (g.rewrite seed) n

/-- The word after a number of generations, which is not negative. -/
def Grammar.expand (g : Grammar) (seed : Word) (generations : Int) : Except Fault Word :=
  if generations < 0 then .error .negativeGenerations else .ok (g.grow seed generations.toNat)

end LSystems
