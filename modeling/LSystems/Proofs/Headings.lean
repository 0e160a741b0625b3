import LSystems.Proofs.Reports

namespace LSystems

namespace Interpreter

variable {α σ τ : Type} [Scalar α]

/-- How long the strokes are and where they begin does not matter for where they head. -/
theorem lockstep_heading (i : Interpreter α) (note : σ → Segment α → σ) (note' : τ → Segment α → τ)
    (distance distance' : α) :
    Lockstep (fun s t => s.heading = t.heading) (fun _ _ => True) i i note note' distance
      distance' := by
  refine ⟨?_, ?_, ?_, ?_⟩
  · intro s t same
    exact congrArg (· - i.turnAngle) same
  · intro s t same
    exact congrArg (· + i.turnAngle) same
  · intro s t same
    unfold Turtle.forward
    rw [same]
    cases i.compass.step? t.heading with
    | some step => exact .ok rfl
    | none => exact .error Fault.noDirection
  · intros
    trivial

theorem Stops.elsewhere {i : Interpreter α} {distance : α} {origin : Point α} {word : Word}
    {count : Nat} {e : Fault} (stops : i.Stops distance origin word count e) (distance' : α)
    (origin' : Point α) : i.Stops distance' origin' word count e := by
  cases stops with
  | step low => exact .step low
  | @symbol before after c w e step parts reached fails =>
    have lockstep := i.lockstep_heading (fun (_ : Unit) _ => ()) (fun (_ : Unit) _ => ()) distance
      distance'
    have begun : Walker.Related (fun s t => s.heading = t.heading) (fun _ _ => True)
        ⟨.facingNorth i.compass origin, [], ()⟩ ⟨.facingNorth i.compass origin', [], ()⟩ :=
      ⟨rfl, .nil, trivial⟩
    obtain ⟨moved, moved', walked, walked', related⟩ | ⟨e', walked, -⟩ :=
      (walk_agree lockstep before begun 0).exists
    · cases reached.symm.trans walked
      refine .symbol step parts walked' ?_
      obtain ⟨on, -, obeyed, -, -⟩ | ⟨e', failed, failed'⟩ :=
        (obey_agree lockstep related before.length c).exists
      · cases fails.symm.trans obeyed
      · cases fails.symm.trans failed
        exact failed'
    · cases reached.symm.trans walked

/-- Measuring and drawing a word come to the same end at the same symbol. -/
theorem measure_draw_elsewhere (i : Interpreter α) (distance distance' : α)
    (origin origin' : Point α) (word : Word) :
    let measured := i.measure distance origin word
    let drawn := i.draw distance' origin' word
    measured.progress = drawn.progress ∧
    ((∃ box strokes, measured.outcome = .ok box ∧ drawn.outcome = .ok strokes) ∨
      ∃ count e, i.Stops distance origin word count e ∧ i.Stops distance' origin' word count e ∧
        measured.outcome = .error e ∧ drawn.outcome = .error e) := by
  intro measured drawn
  obtain ⟨box, found, reported⟩ | ⟨count, e, stops, failed, reported⟩ :=
    i.measure_cases distance origin word
  · obtain ⟨strokes, found', reported'⟩ | ⟨count, e, stops, -, -⟩ :=
      i.draw_cases distance' origin' word
    · exact ⟨reported.trans reported'.symm, .inl ⟨box, strokes, found, found'⟩⟩
    · cases found.symm.trans (stops.elsewhere distance origin).outcomes.1
  · have stops' := stops.elsewhere distance' origin'
    have reported' := congrArg Tracked.progress stops'.draw_eq
    exact ⟨reported.trans reported'.symm,
      .inr ⟨count, e, stops, stops', failed, stops'.outcomes.2⟩⟩

theorem exists_draw_of_measure {i : Interpreter α} {distance : α} {origin : Point α} {word : Word}
    {box : Box α} (measured : (i.measure distance origin word).outcome = .ok box) (distance' : α)
    (origin' : Point α) : ∃ strokes, (i.draw distance' origin' word).outcome = .ok strokes := by
  obtain ⟨-, ⟨-, strokes, -, drawn⟩ | ⟨count, e, -, -, failed, -⟩⟩ :=
    i.measure_draw_elsewhere distance distance' origin origin' word
  · exact ⟨strokes, drawn⟩
  · cases failed.symm.trans measured

end Interpreter

end LSystems
