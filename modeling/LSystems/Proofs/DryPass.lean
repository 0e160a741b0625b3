import LSystems.Proofs.FloatOrder
import LSystems.Proofs.Headings

namespace LSystems

/-- A dry pass meets what the drawing pass meets, and its box is the one of the strokes that are
drawn. Without a coordinate that is not a number it is the least box that holds them. -/
theorem measure_matches_draw (i : Interpreter Float) (word : Word) :
    (∀ distance distance' origin origin',
      let measured := i.measure distance origin word
      let drawn := i.draw distance' origin' word
      measured.progress = drawn.progress ∧
      ((∃ box strokes, measured.outcome = .ok box ∧ drawn.outcome = .ok strokes) ∨
        ∃ count e, i.Stops distance origin word count e ∧ i.Stops distance' origin' word count e ∧
          measured.outcome = .error e ∧ drawn.outcome = .error e)) ∧
    ∀ distance origin box strokes, (i.measure distance origin word).outcome = .ok box →
      (i.draw distance origin word).outcome = .ok strokes →
        box = strokes.foldl (fun box stroke => box.insert stroke.finish) (.ofPoint origin) ∧
        (origin.Of (fun x => x.isNaN = false) →
          (∀ s ∈ strokes, s.finish.Of (fun x => x.isNaN = false)) →
            box.IsLeast (origin :: strokes.flatMap Segment.ends)) := by
  refine ⟨fun distance distance' origin origin' =>
    i.measure_draw_elsewhere distance distance' origin origin' word, ?_⟩
  intro distance origin box strokes measured drawn
  have outline : box = Box.ofStrokes origin strokes := by
    rw [Interpreter.measure_outcome, drawn] at measured
    exact (Except.ok.inj measured).symm
  refine ⟨outline, fun number numbers => ?_⟩
  rw [outline]
  exact Box.isLeast_ofStrokes linear_float (Interpreter.rooted_of_draw drawn) number numbers

/-- A compass that points north at 90 and east elsewhere. -/
def Compass.rightAngled : Compass Float :=
  ⟨90.0, fun heading => some (if heading = 90.0 then ⟨0.0, 1.0⟩ else ⟨1.0, 0.0⟩)⟩

theorem branch_measured_as_drawn :
    let i : Interpreter Float := ⟨.rightAngled, 90.0, 5⟩
    let word : Word := ['F', '[', '+', 'F', 'F', ']', 'F']
    let origin : Point Float := ⟨-1.0, 0.5⟩
    let box : Box Float := ⟨-1.0, 0.5, 3.0, 4.5⟩
    let strokes : List (Segment Float) := [⟨⟨-1.0, 0.5⟩, ⟨-1.0, 2.5⟩⟩, ⟨⟨-1.0, 2.5⟩, ⟨1.0, 2.5⟩⟩,
      ⟨⟨1.0, 2.5⟩, ⟨3.0, 2.5⟩⟩, ⟨⟨-1.0, 2.5⟩, ⟨-1.0, 4.5⟩⟩]
    (i.measure 2.0 origin word).outcome = .ok box ∧
      (i.draw 2.0 origin word).outcome = .ok strokes ∧
      origin.Of (fun x => x.isNaN = false) ∧
      (∀ s ∈ strokes, s.finish.Of (fun x => x.isNaN = false)) ∧
      box = strokes.foldl (fun box stroke => box.insert stroke.finish) (.ofPoint origin) ∧
      box.IsLeast (origin :: strokes.flatMap Segment.ends) := by
  intro i word origin box strokes
  have measured : (i.measure 2.0 origin word).outcome = .ok box := by decide +kernel
  have drawn : (i.draw 2.0 origin word).outcome = .ok strokes := by decide +kernel
  have number : origin.Of (fun x => x.isNaN = false) := ⟨by decide +kernel, by decide +kernel⟩
  have coordinates : ∀ s ∈ strokes, s.finish.x.isNaN = false ∧ s.finish.y.isNaN = false := by
    decide +kernel
  have numbers (s : Segment Float) (member : s ∈ strokes) :
      s.finish.Of (fun x => x.isNaN = false) :=
    ⟨(coordinates s member).1, (coordinates s member).2⟩
  obtain ⟨outline, least⟩ := (measure_matches_draw i word).2 2.0 origin box strokes measured drawn
  exact ⟨measured, drawn, number, numbers, outline, least number numbers⟩

end LSystems
