import LSystems.Proofs.Renewed

namespace LSystems

namespace Coordinator

/-- A render that succeeds draws at the scale that its own size gives to the box and the length of
the renders that measured and fitted its generation last, itself or earlier ones. With their
settings still in force, that is the scale of its own box and length. -/
theorem rendered_at_lastScale (system : LSystem) (i : Interpreter Float) (base : Float)
    (size : Size Float) (requests : List (Request Float)) {before after : List (Coordinator Float)}
    {c : Coordinator Float} (run : (start system i base size).renders requests = before ++ c :: after)
    (told : Event.rendered ∈ c.render.events) :
    ∃ m ∈ lastMeasuring (before ++ [c]), ∃ f ∈ lastFitting (before ++ [c]), ∃ box scale,
      m.system = c.system ∧ f.system = c.system ∧
      (m.interpreter.measure m.base ⟨0, 0⟩ c.system.word).outcome = .ok box ∧
      Scale.fit box c.surface.size f.base = .ok scale ∧
      c.render.coordinator.lastScale = some scale ∧
      c.strokesAt scale = .ok c.render.coordinator.surface.strokes ∧
      (SameSettings m c → f.base = c.base →
        (c.interpreter.measure c.base ⟨0, 0⟩ c.system.word).outcome = .ok box ∧
        Scale.fit box c.surface.size c.base = .ok scale) := by
  obtain ⟨remembers, isOpen⟩ := remembersLast_of_renders_eq run
  obtain ⟨box, scale, strokes, drawn⟩ := rendered_iff.mp told
  have left := remembersLast_render remembers isOpen
  obtain ⟨f, fitting, box', fitted, kept, fits⟩ := fit_of_keptScale left drawn.render_keptScale
  obtain ⟨m, measuring, measured, found⟩ := left.box box' kept
  rw [drawn.render_system] at fitted measured
  rw [drawn.render_size] at fits
  unfold figure at found
  rw [measured] at found
  have draws : c.strokesAt scale = .ok c.render.coordinator.surface.strokes := by
    rw [drawn.render_strokes]
    exact drawn.draws
  refine ⟨m, measuring, f, fitting, box', scale, measured, fitted, found, fits,
    drawn.render_lastScale, draws, fun same base => ⟨?_, base ▸ fits⟩⟩
  rw [same.base] at found
  exact Interpreter.measure_of_settings same.compass same.turnAngle (step_of_strokesAt draws) found

theorem stairs_rendered_at_lastScale :
    let c := stairs.run [.render, .setBase 20.0]
    stairs.renders [.render, .setBase 20.0, .render] = [stairs] ++ c :: [] ∧
      Event.rendered ∈ c.render.events ∧ c.render.coordinator.surface.strokes.length = 2 ∧
      ∃ m ∈ lastMeasuring ([stairs] ++ [c]), ∃ f ∈ lastFitting ([stairs] ++ [c]),
        ∃ box scale, m.system = c.system ∧ f.system = c.system ∧
          (m.interpreter.measure m.base ⟨0, 0⟩ c.system.word).outcome = .ok box ∧
          Scale.fit box c.surface.size f.base = .ok scale ∧
          c.render.coordinator.lastScale = some scale ∧
          c.strokesAt scale = .ok c.render.coordinator.surface.strokes := by
  intro c
  have isOpen : c.isOpen = true := by decide +kernel
  have run : stairs.renders [.render, .setBase 20.0, .render] = [stairs] ++ c :: [] :=
    renders_concat isOpen
  have told : Event.rendered ∈ c.render.events := by decide +kernel
  have drawn : c.render.coordinator.surface.strokes.length = 2 := by decide +kernel
  obtain ⟨m, measuring, f, fitting, box, scale, measured, fitted, found, fits, last, strokes, -⟩ :=
    rendered_at_lastScale _ _ _ _ _ run told
  exact ⟨run, told, drawn, m, measuring, f, fitting, box, scale, measured, fitted, found, fits, last,
    strokes⟩

/-- A render after a change of the length measured with, or of the angle of the turns, still works
with the scale found before it. -/
theorem stale_lastScale :
    let stale (change : Request Float) : Prop :=
      ∃ c ∈ stairs.renders [.render, change, .render], Event.rendered ∈ c.render.events ∧
        ∃ box scale, c.figure = .ok box ∧ Scale.fit box c.surface.size c.base = .ok scale ∧
          c.render.coordinator.lastScale ≠ some scale
    stale (.setBase 20.0) ∧ stale (.setAngle 0.0) := by
  intro stale
  have rendered {change : Request Float} (isOpen : (stairs.run [.render, change]).isOpen = true) :
      stairs.run [.render, change] ∈ stairs.renders [.render, change, .render] := by
    have run : stairs.renders ([.render, change] ++ [.render]) = _ := renders_concat isOpen
    exact run ▸ List.mem_concat_self
  constructor
  · let c := stairs.run [.render, .setBase 20.0]
    have isOpen : c.isOpen = true := by decide +kernel
    have told : Event.rendered ∈ c.render.events := by decide +kernel
    have measured : c.figure = .ok ⟨0.0, 0.0, 20.0, 20.0⟩ := by decide +kernel
    have fits : Scale.fit ⟨0.0, 0.0, 20.0, 20.0⟩ c.surface.size c.base
        = .ok ⟨100.0, ⟨0.0, 0.0⟩, 20.0⟩ := by decide +kernel
    have kept : c.render.coordinator.lastScale ≠ some ⟨100.0, ⟨0.0, 0.0⟩, 20.0⟩ := by
      decide +kernel
    exact ⟨c, rendered isOpen, told, _, _, measured, fits, kept⟩
  · let c := stairs.run [.render, .setAngle 0.0]
    have isOpen : c.isOpen = true := by decide +kernel
    have told : Event.rendered ∈ c.render.events := by decide +kernel
    have measured : c.figure = .ok ⟨0.0, 0.0, 0.0, 20.0⟩ := by decide +kernel
    have fits : Scale.fit ⟨0.0, 0.0, 0.0, 20.0⟩ c.surface.size c.base
        = .ok ⟨50.0, ⟨0.0, 0.0⟩, 10.0⟩ := by decide +kernel
    have kept : c.render.coordinator.lastScale ≠ some ⟨50.0, ⟨0.0, 0.0⟩, 10.0⟩ := by
      decide +kernel
    exact ⟨c, rendered isOpen, told, _, _, measured, fits, kept⟩

end Coordinator

end LSystems
