import LSystems.Proofs.Remembered
import LSystems.Proofs.SameSize
import LSystems.Proofs.Walk

namespace LSystems

namespace Interpreter

variable {α σ : Type} [Scalar α]

/-- Whoever turns alike on the same compass walks alike, whatever is reported on the way. -/
theorem walk_congr {i j : Interpreter α} (compass : i.compass = j.compass)
    (turnAngle : i.turnAngle = j.turnAngle) (note : σ → Segment α → σ) (distance : α) (word : Word)
    (index : Nat) (w : Walker α σ) :
    i.walk note distance index w word = j.walk note distance index w word := by
  have obey (index : Nat) (w : Walker α σ) (c : Symbol) :
      i.obey note distance index w c = j.obey note distance index w c := by
    unfold Interpreter.obey
    rw [compass, turnAngle]
  induction word generalizing index w with
  | nil => rfl
  | cons c rest ih =>
    simp only [walk, obey, ih]

theorem measure_of_settings {i j : Interpreter α} (compass : i.compass = j.compass)
    (turnAngle : i.turnAngle = j.turnAngle) (step : 1 ≤ j.step) {distance : α} {origin : Point α}
    {word : Word} {box : Box α} (measured : (i.measure distance origin word).outcome = .ok box) :
    (j.measure distance origin word).outcome = .ok box := by
  obtain ⟨-, w, walked, recorded⟩ := trace_eq_ok_iff.mp measured
  rw [walk_congr compass turnAngle, compass] at walked
  exact trace_eq_ok_iff.mpr ⟨step, w, walked, recorded⟩

theorem step_of_measure {i : Interpreter α} {distance : α} {origin : Point α} {word : Word}
    {box : Box α} (measured : (i.measure distance origin word).outcome = .ok box) : 1 ≤ i.step :=
  (trace_eq_ok_iff.mp measured).1

theorem step_of_draw {i : Interpreter α} {distance : α} {origin : Point α} {word : Word}
    {strokes : List (Segment α)} (drawn : (i.draw distance origin word).outcome = .ok strokes) :
    1 ≤ i.step :=
  (draw_eq_ok_iff.mp drawn).1

end Interpreter

/-- A request that changes neither the turn angle nor the length measured with. -/
def Request.KeepsSettings {α : Type} : Request α → Prop
  | .setAngle _ => False
  | .setBase _ => False
  | _ => True

namespace Coordinator

variable {α : Type}

/-- Coordinators that measure and draw a word alike. -/
structure SameSettings (c d : Coordinator α) : Prop where
  compass : c.interpreter.compass = d.interpreter.compass
  turnAngle : c.interpreter.turnAngle = d.interpreter.turnAngle
  base : c.base = d.base

namespace SameSettings

variable {c d e : Coordinator α}

theorem refl (c : Coordinator α) : SameSettings c c := ⟨rfl, rfl, rfl⟩

theorem trans (h : SameSettings c d) (h' : SameSettings d e) : SameSettings c e :=
  ⟨h.compass.trans h'.compass, h.turnAngle.trans h'.turnAngle, h.base.trans h'.base⟩

theorem symm (h : SameSettings c d) : SameSettings d c :=
  ⟨h.compass.symm, h.turnAngle.symm, h.base.symm⟩

theorem grow (c : Coordinator α) : SameSettings c.grow.2.1 c := by
  unfold Coordinator.grow
  dsimp only
  cases c.system.iterate.outcome with
  | error fault => exact refl c
  | ok system =>
    dsimp only
    split <;> exact ⟨rfl, rfl, rfl⟩

theorem growTimes (c : Coordinator α) (times : Nat) :
    SameSettings (c.growTimes times).coordinator c := by
  induction times generalizing c with
  | zero => exact refl c
  | succ times ih =>
    unfold Coordinator.growTimes
    split
    · have grown : SameSettings c.growJob.2 c.grow.2.1 := ⟨rfl, rfl, rfl⟩
      exact (ih c.growJob.2).trans (grown.trans (grow c))
    · exact refl c

theorem rendering {request : Request α} (rendered : c.rendering request = some d) :
    SameSettings d c := by
  obtain ⟨-, ⟨-, rfl⟩ | ⟨times, -, rfl⟩⟩ := rendering_cases rendered
  · exact refl _
  · exact growTimes _ times

variable [Scalar α]

theorem render (c : Coordinator α) : SameSettings c.render.coordinator c := by
  have boxed (box : Box α) : SameSettings (c.withBox box) c := by
    unfold withBox
    split <;> exact ⟨rfl, rfl, rfl⟩
  have scaled (d : Coordinator α) (scale : Scale α) : SameSettings (d.withScale scale) d := by
    unfold withScale
    split <;> exact ⟨rfl, rfl, rfl⟩
  have alike {d e : Coordinator α} (h : Alike d e) : SameSettings d e :=
    ⟨congrArg Interpreter.compass h.interpreter, congrArg Interpreter.turnAngle h.interpreter, h.base⟩
  cases isOpen : c.isOpen with
  | false =>
    rw [render_of_closed isOpen]
    exact refl c
  | true =>
    obtain ⟨e, -, left⟩ | ⟨box, e, -, -, left⟩ | ⟨box, scale, -, -, left⟩ := render_alike isOpen
    · exact alike left
    · exact (alike left).trans (boxed box)
    · exact (alike left).trans ((scaled _ scale).trans (boxed box))

theorem perform {request : Request α} (kept : request.KeepsSettings) :
    SameSettings (c.perform request).coordinator c := by
  cases request with
  | grow times => exact growTimes c times
  | growAndRender times =>
    unfold Coordinator.perform
    dsimp only
    cases (c.growTimes times).refusal with
    | some refusal => exact growTimes c times
    | none => exact (render _).trans (growTimes c times)
  | render => exact render c
  | growDirectly => exact grow c
  | setAngle angle => exact kept.elim
  | setBase base => exact kept.elim
  | resize size => exact ⟨rfl, rfl, rfl⟩
  | setStep step => exact ⟨rfl, rfl, rfl⟩
  | failNext fault => exact ⟨rfl, rfl, rfl⟩
  | shutdown => exact ⟨rfl, rfl, rfl⟩

/-- All renders of a run that keeps the settings work with those it began with. -/
theorem of_mem_renders {requests : List (Request α)} (kept : ∀ r ∈ requests, r.KeepsSettings)
    (h : d ∈ c.renders requests) : SameSettings d c := by
  induction requests generalizing c with
  | nil => cases h
  | cons request rest ih =>
    rw [renders] at h
    rcases List.mem_append.mp h with now | later
    · exact rendering (Option.mem_toList.mp now)
    · have performed : SameSettings (c.perform request).coordinator c :=
        perform (kept request List.mem_cons_self)
      have drained (e : Coordinator α) : SameSettings e.drain.2 e := ⟨rfl, rfl, rfl⟩
      have rest_kept : ∀ r ∈ rest, r.KeepsSettings :=
        fun r hr => kept r (List.mem_cons_of_mem request hr)
      exact (ih rest_kept later).trans ((drained _).trans performed)

end SameSettings

/-- A coordinator that has kept nothing, with the same work and settings and with a surface of
the same size that the same failures await. -/
def renewed (c : Coordinator α) : Coordinator α :=
  { start c.system c.interpreter c.base c.surface.size with
    surface := { Surface.blank c.surface.size with pending := c.surface.pending } }

section
variable {c : Coordinator Float} {past : List (Coordinator Float)} {box : Box Float}
  {scale : Scale Float}

theorem mem_of_lastMeasuring {m : Coordinator Float} (h : m ∈ lastMeasuring past) : m ∈ past :=
  (List.mem_filter.mp (List.mem_of_getLast? h)).1

theorem mem_of_lastFitting {f : Coordinator Float} (h : f ∈ lastFitting past) : f ∈ past :=
  (List.mem_filter.mp (List.mem_of_getLast? h)).1

theorem figure_of_keptBox (h : RemembersLast past c) (settled : ∀ m ∈ past, SameSettings m c)
    (step : 1 ≤ c.interpreter.step) (kept : c.keptBox? = some box) : c.figure = .ok box := by
  obtain ⟨m, last, system, measured⟩ := h.box box kept
  have same := settled m (mem_of_lastMeasuring last)
  unfold figure at *
  rw [system, same.base] at measured
  exact Interpreter.measure_of_settings same.compass same.turnAngle step measured

/-- A scale that is kept for this size was fitted to the kept box. -/
theorem fit_of_keptScale (h : RemembersLast past c) (kept : c.keptScale? = some scale) :
    ∃ f ∈ lastFitting past, ∃ box, f.system = c.system ∧ c.keptBox? = some box ∧
      Scale.fit box c.surface.size f.base = .ok scale := by
  obtain ⟨found, scaled, rfl, generation, size⟩ := scaled_of_keptScale kept
  obtain ⟨f, last, box, system, measured, fits⟩ := h.scale found scaled generation
  refine ⟨f, last, box, system, measured, ?_⟩
  rcases size with resizes | same
  · rw [h.size found scaled resizes] at fits
    exact fits
  · exact Scale.fit_of_sameValue same fits

theorem boxInUse_iff (h : RemembersLast past c) (settled : ∀ m ∈ past, SameSettings m c)
    (step : 1 ≤ c.interpreter.step) : c.boxInUse = .ok box ↔ c.figure = .ok box := by
  unfold boxInUse
  cases kept : c.keptBox? with
  | none => exact Iff.rfl
  | some box' =>
    have measured := figure_of_keptBox h settled step kept
    rw [measured]

theorem scaleInUse_iff (h : RemembersLast past c) (settled : ∀ m ∈ past, SameSettings m c)
    (measured : c.figure = .ok box) :
    c.scaleInUse box = .ok scale ↔ Scale.fit box c.surface.size c.base = .ok scale := by
  unfold scaleInUse
  cases kept : c.keptScale? with
  | none => exact Iff.rfl
  | some scale' =>
    obtain ⟨f, last, box', -, found, fits⟩ := fit_of_keptScale h kept
    have step := Interpreter.step_of_measure measured
    -- The kept scale was fitted to the kept box, which is the one measured now.
    have same_box := (figure_of_keptBox h settled step found).symm.trans measured
    cases same_box
    rw [← (settled f (mem_of_lastFitting last)).base, fits]

theorem step_of_strokesAt {strokes : List (Segment Float)} (draws : c.strokesAt scale = .ok strokes) :
    1 ≤ c.interpreter.step := by
  obtain ⟨origin, -, drawn⟩ := strokesAt_eq_ok_iff.mp draws
  exact Interpreter.step_of_draw drawn

theorem reaches_iff_renewed (h : RemembersLast past c) (isOpen : c.isOpen = true)
    (settled : ∀ m ∈ past, SameSettings m c) {strokes : List (Segment Float)} :
    c.Reaches box scale strokes ↔ c.renewed.Reaches box scale strokes := by
  constructor
  · intro reached
    have step := step_of_strokesAt reached.draws
    have measured := (boxInUse_iff h settled step).mp reached.inUse
    have fits := (scaleInUse_iff h settled measured).mp reached.fits
    exact ⟨rfl, measured, fits, reached.draws⟩
  · intro reached
    have measured : c.figure = .ok box := reached.inUse
    have step := Interpreter.step_of_measure measured
    have inUse := (boxInUse_iff h settled step).mpr measured
    have fits := (scaleInUse_iff h settled measured).mpr reached.fits
    exact ⟨isOpen, inUse, fits, reached.draws⟩

theorem draws_iff_renewed (h : RemembersLast past c) (isOpen : c.isOpen = true)
    (settled : ∀ m ∈ past, SameSettings m c) {strokes : List (Segment Float)} :
    c.Draws box scale strokes ↔ c.renewed.Draws box scale strokes := by
  have pending : c.renewed.surface.pending = c.surface.pending := rfl
  rw [draws_iff_reaches, draws_iff_reaches, reaches_iff_renewed h isOpen settled, pending]

end

/-- What is kept is never seen: in a run that keeps the settings, a render succeeds when one with
nothing kept does, and then it draws the same strokes at the same scale. -/
theorem renders_as_renewed (system : LSystem) (i : Interpreter Float) (base : Float)
    (size : Size Float) (requests : List (Request Float)) (kept : ∀ r ∈ requests, r.KeepsSettings)
    (c : Coordinator Float) (rendered : c ∈ (start system i base size).renders requests) :
    (Event.rendered ∈ c.render.events ↔ Event.rendered ∈ c.renewed.render.events) ∧
      (Event.rendered ∈ c.render.events →
        c.render.coordinator.surface.strokes = c.renewed.render.coordinator.surface.strokes ∧
        c.render.coordinator.lastScale = c.renewed.render.coordinator.lastScale) := by
  obtain ⟨before, after, split⟩ := List.append_of_mem rendered
  obtain ⟨remembers, isOpen⟩ := remembersLast_of_renders_eq split
  have settled : ∀ m ∈ before, SameSettings m c := by
    intro m hm
    have earlier : m ∈ (start system i base size).renders requests :=
      split ▸ List.mem_append_left _ hm
    have begun := SameSettings.of_mem_renders kept earlier
    exact begun.trans (SameSettings.of_mem_renders kept rendered).symm
  have alike {box : Box Float} {scale : Scale Float} {strokes : List (Segment Float)} :
      c.Draws box scale strokes ↔ c.renewed.Draws box scale strokes :=
    draws_iff_renewed remembers isOpen settled
  constructor
  · rw [rendered_iff, rendered_iff]
    simp only [alike]
  · intro told
    obtain ⟨box, scale, strokes, drawn⟩ := rendered_iff.mp told
    have redrawn := alike.mp drawn
    rw [drawn.render_strokes, redrawn.render_strokes]
    rw [drawn.render_lastScale, redrawn.render_lastScale]
    exact ⟨rfl, rfl⟩

/-- A coordinator for two strokes, up and to the right, each of which becomes two where the system
grows. The compass points north at 90 and east elsewhere. -/
def stairs : Coordinator Float :=
  let compass : Compass Float :=
    ⟨90.0, fun heading => some (if heading = 90.0 then ⟨0.0, 1.0⟩ else ⟨1.0, 0.0⟩)⟩
  start (.start ['F', '+', 'F'] (.ofRules [('F', ['F', 'F'])]) 5) ⟨compass, 90.0, 5⟩ 10.0
    ⟨.whole 100, .whole 100⟩

theorem stairs_render_as_renewed :
    let first : List (Request Float) := [.render, .setStep 7, .resize ⟨.real 100.0, .whole 100⟩]
    let requests := first ++ [.render]
    let c := stairs.run first
    (∀ r ∈ requests, r.KeepsSettings) ∧ c ∈ stairs.renders requests ∧
      c.keptScale?.isSome = true ∧ Event.rendered ∈ c.render.events ∧
      c.render.coordinator.surface.strokes.length = 2 ∧
      Event.rendered ∈ c.renewed.render.events ∧
      c.render.coordinator.surface.strokes = c.renewed.render.coordinator.surface.strokes ∧
      c.render.coordinator.lastScale = c.renewed.render.coordinator.lastScale := by
  intro first requests c
  have kept : ∀ r ∈ requests, r.KeepsSettings := by
    simp [requests, first, Request.KeepsSettings]
  have isOpen : c.isOpen = true := by decide +kernel
  have rendered : c ∈ stairs.renders requests := by
    rw [renders_concat isOpen]
    exact List.mem_concat_self
  have reused : c.keptScale?.isSome = true := by decide +kernel
  have told : Event.rendered ∈ c.render.events := by decide +kernel
  have drawn : c.render.coordinator.surface.strokes.length = 2 := by decide +kernel
  obtain ⟨alike, same⟩ := renders_as_renewed _ _ _ _ requests kept c rendered
  exact ⟨kept, rendered, reused, told, drawn, alike.mp told, same told⟩

end Coordinator

end LSystems
