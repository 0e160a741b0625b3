import LSystems.Proofs.MeasuredOnce

namespace LSystems

namespace Coordinator

section
variable {α : Type} {c d e : Coordinator α}

/-- Coordinators that have the same to do and that the same failures await. -/
structure Abreast (c d : Coordinator α) : Prop extends SameWork c d where
  pending : c.surface.pending = d.surface.pending

namespace Abreast

theorem renewed [Scalar α] (h : Abreast c d) : c.renewed = d.renewed := by
  unfold Coordinator.renewed
  rw [h.system, h.interpreter, h.base, h.size, h.pending]

theorem grow (h : Abreast c d) : Abreast c.grow.2.1 d.grow.2.1 := by
  have same := congrArg LSystem.iterate h.system
  obtain ⟨fault, failed, left⟩ | ⟨next, advanced, left⟩ := c.grow_cases
  · obtain ⟨fault', failed', left'⟩ | ⟨next', advanced', left'⟩ := d.grow_cases
    · rw [left, left']
      exact h
    · rw [same, advanced'] at failed
      cases failed
  · obtain ⟨fault', failed', left'⟩ | ⟨next', advanced', left'⟩ := d.grow_cases
    · rw [same, failed'] at advanced
      cases advanced
    · rw [same, advanced'] at advanced
      cases advanced
      rw [left, left']
      exact ⟨⟨rfl, h.interpreter, h.base, h.size, h.isOpen⟩, h.pending⟩

theorem growTimes (h : Abreast c d) (times : Nat) :
    Abreast (c.growTimes times).coordinator (d.growTimes times).coordinator := by
  cases isOpen : c.isOpen with
  | true =>
    obtain ⟨jobs, grown⟩ := growTimes_eq isOpen times
    obtain ⟨jobs', grown'⟩ := growTimes_eq (h.isOpen.symm.trans isOpen) times
    rw [grown, grown']
    exact ⟨⟨congrArg (·.attempts times) h.system, h.interpreter, h.base, h.size, h.isOpen⟩,
      h.pending⟩
  | false =>
    rw [growTimes_of_closed isOpen, growTimes_of_closed (h.isOpen.symm.trans isOpen)]
    exact h

/-- What one of the two has rendered, the other one has rendered too. -/
theorem rendering (h : Abreast c d) (request : Request α) :
    (c.rendering request = none ∧ d.rendering request = none) ∨
    ∃ x y, c.rendering request = some x ∧ d.rendering request = some y ∧ Abreast x y := by
  cases request with
  | render =>
    unfold Coordinator.rendering
    rw [← h.isOpen]
    cases c.isOpen with
    | true => exact .inr ⟨c, d, rfl, rfl, h⟩
    | false => exact .inl ⟨rfl, rfl⟩
  | growAndRender times =>
    unfold Coordinator.rendering
    rw [← h.isOpen]
    cases c.isOpen with
    | true => exact .inr ⟨_, _, rfl, rfl, h.growTimes times⟩
    | false => exact .inl ⟨rfl, rfl⟩
  | grow times => exact .inl ⟨rfl, rfl⟩
  | growDirectly => exact .inl ⟨rfl, rfl⟩
  | resize size => exact .inl ⟨rfl, rfl⟩
  | setAngle angle => exact .inl ⟨rfl, rfl⟩
  | setStep step => exact .inl ⟨rfl, rfl⟩
  | setBase base => exact .inl ⟨rfl, rfl⟩
  | failNext fault => exact .inl ⟨rfl, rfl⟩
  | shutdown => exact .inl ⟨rfl, rfl⟩

end Abreast

end

section
variable {α : Type} [Scalar α] {c : Coordinator α}

/-- A render that reaches the surface meets the first failure that awaits it; any other one leaves
the failures as they are. -/
theorem render_pending (isOpen : c.isOpen = true) :
    (∃ box scale strokes, c.Reaches box scale strokes ∧
      c.render.coordinator.surface.pending = c.surface.pending.tail) ∨
    ((∀ box scale strokes, ¬c.Reaches box scale strokes) ∧
      c.render.coordinator.surface.pending = c.surface.pending) := by
  by_cases reaches : ∃ box scale strokes, c.Reaches box scale strokes
  · obtain ⟨box, scale, strokes, reached⟩ := reaches
    obtain ⟨jobs, -, left⟩ := reached.render
    refine .inl ⟨box, scale, strokes, reached, ?_⟩
    rw [left]
    exact c.surface.draw_pending strokes
  · have missed : ∀ box scale strokes, ¬c.Reaches box scale strokes :=
      fun box scale strokes reached => reaches ⟨box, scale, strokes, reached⟩
    refine .inr ⟨missed, ?_⟩
    obtain ⟨jobs, ⟨e, inUse, -, left⟩ | ⟨box, e, inUse, fits, -, left⟩ |
      ⟨box, scale, e, inUse, fits, -, -, left⟩ |
      ⟨box, scale, strokes, inUse, fits, draws, -, left⟩⟩ := render_cases isOpen
    · rw [left]
      rfl
    · rw [left]
      exact congrArg Surface.pending (c.withBox_surface box)
    · rw [left]
      exact congrArg Surface.pending (c.withBox_withScale_surface box scale)
    · exact (missed box scale strokes ⟨isOpen, inUse, fits, draws⟩).elim

/-- A render that fails leaves on the surface what was drawn before, and the scale used last as well
unless it came to a scale of its own. -/
theorem render_failed (failed : Event.rendered ∉ c.render.events) :
    c.render.coordinator.surface.strokes = c.surface.strokes ∧
    c.render.coordinator.surface.draws = c.surface.draws ∧
    ((∀ box scale, c.isOpen = true → c.boxInUse = .ok box → c.scaleInUse box ≠ .ok scale) →
      c.render.coordinator.lastScale = c.lastScale) := by
  cases isOpen : c.isOpen with
  | false =>
    rw [render_of_closed isOpen]
    exact ⟨rfl, rfl, fun _ => rfl⟩
  | true =>
    have boxed (box : Box α) : (c.withBox box).scaled = c.scaled := by
      obtain ⟨measured, passes, eq⟩ := c.withBox_eq box
      rw [eq]
    obtain ⟨jobs, ⟨e, inUse, -, left⟩ | ⟨box, e, inUse, fits, -, left⟩ |
      ⟨box, scale, e, inUse, fits, draws, -, left⟩ |
      ⟨box, scale, strokes, inUse, fits, draws, told, left⟩⟩ := render_cases isOpen
    · rw [left]
      exact ⟨rfl, rfl, fun _ => rfl⟩
    · have surface := c.withBox_surface box
      rw [left]
      exact ⟨congrArg Surface.strokes surface, congrArg Surface.draws surface,
        fun _ => congrArg (Option.map KeptScale.scale) (boxed box)⟩
    · have surface := c.withBox_withScale_surface box scale
      rw [left]
      exact ⟨congrArg Surface.strokes surface, congrArg Surface.draws surface,
        fun unscaled => (unscaled box scale rfl inUse fits).elim⟩
    · rw [left]
      obtain ⟨-, drawn⟩ | ⟨fault, rest, -, drawn⟩ := c.surface.draw_cases strokes
      · rw [drawn] at told
        exact (failed (told.mpr rfl)).elim
      · rw [drawn]
        exact ⟨rfl, rfl, fun unscaled => (unscaled box scale rfl inUse fits).elim⟩

end

/-- What is kept was found with the settings that are still in force. -/
def Settled (c : Coordinator Float) : Prop :=
  ∃ past, RemembersLast past c ∧ ∀ m ∈ past, SameSettings m c

variable {c d : Coordinator Float}

namespace Settled

theorem start (system : LSystem) (i : Interpreter Float) (base : Float) (size : Size Float) :
    Settled (Coordinator.start system i base size) :=
  ⟨[], Remembers.start system i base size, fun _ earlier => nomatch earlier⟩

theorem of_alike (h : Settled c) (alike : Alike d c) : Settled d := by
  obtain ⟨past, remembers, settled⟩ := h
  have same : SameSettings c d := ⟨congrArg Interpreter.compass alike.interpreter.symm,
    congrArg Interpreter.turnAngle alike.interpreter.symm, alike.base.symm⟩
  exact ⟨past, Remembers.of_alike remembers alike, fun m earlier => (settled m earlier).trans same⟩

theorem growTimes (h : Settled c) (times : Nat) : Settled (c.growTimes times).coordinator := by
  obtain ⟨past, remembers, settled⟩ := h
  have same := (SameSettings.growTimes c times).symm
  exact ⟨past, Remembers.growTimes remembers times,
    fun m earlier => (settled m earlier).trans same⟩

theorem rendering (h : Settled c) {request : Request Float} (rendered : c.rendering request = some d) :
    Settled d := by
  obtain ⟨-, ⟨-, rfl⟩ | ⟨times, -, rfl⟩⟩ := rendering_cases rendered
  · exact h
  · exact h.growTimes times

theorem perform (h : Settled c) {request : Request Float} (kept : request.KeepsSettings) :
    Settled (c.perform request).coordinator.drain.2 := by
  obtain ⟨past, remembers, settled⟩ := h
  have performed : SameSettings (c.perform request).coordinator c := SameSettings.perform kept
  have same : SameSettings c (c.perform request).coordinator.drain.2 :=
    ⟨performed.compass.symm, performed.turnAngle.symm, performed.base.symm⟩
  refine ⟨_, remembersLast_perform remembers request, ?_⟩
  intro m earlier
  rcases List.mem_append.mp earlier with before | now
  · exact (settled m before).trans same
  · exact (SameSettings.rendering (Option.mem_toList.mp now)).trans same

theorem run (h : Settled c) {requests : List (Request Float)}
    (kept : ∀ r ∈ requests, r.KeepsSettings) : Settled (c.run requests) := by
  induction requests generalizing c with
  | nil => exact h
  | cons request rest ih =>
    have performed := h.perform (kept request List.mem_cons_self)
    exact ih performed fun r later => kept r (List.mem_cons_of_mem request later)

end Settled

namespace Abreast

variable {x y : Coordinator Float}

theorem reaches_iff (h : Abreast x y) (hx : Settled x) (hy : Settled y) {box : Box Float}
    {scale : Scale Float} {strokes : List (Segment Float)} :
    x.Reaches box scale strokes ↔ y.Reaches box scale strokes := by
  obtain ⟨past, remembers, settled⟩ := hx
  obtain ⟨past', remembers', settled'⟩ := hy
  cases isOpen : x.isOpen with
  | true =>
    rw [reaches_iff_renewed remembers isOpen settled, h.renewed,
      ← reaches_iff_renewed remembers' (h.isOpen.symm.trans isOpen) settled']
  | false =>
    constructor
    · intro reached
      cases isOpen.symm.trans reached.isOpen
    · intro reached
      cases isOpen.symm.trans (h.isOpen.trans reached.isOpen)

theorem render (h : Abreast x y) (hx : Settled x) (hy : Settled y) :
    Abreast x.render.coordinator y.render.coordinator := by
  have work : SameWork x.render.coordinator y.render.coordinator :=
    (render_sameWork x).trans (h.toSameWork.trans (render_sameWork y).symm)
  cases isOpen : x.isOpen with
  | false =>
    rw [render_of_closed isOpen, render_of_closed (h.isOpen.symm.trans isOpen)]
    exact h
  | true =>
    refine ⟨work, ?_⟩
    -- What is kept does not decide who reaches the surface, so a failure is met by both or by none.
    obtain ⟨box, scale, strokes, reached, left⟩ | ⟨missed, left⟩ := render_pending isOpen
    · obtain ⟨-, -, -, -, left'⟩ | ⟨missed', -⟩ :=
        render_pending (h.isOpen.symm.trans isOpen)
      · rw [left, left', h.pending]
      · exact (missed' box scale strokes ((h.reaches_iff hx hy).mp reached)).elim
    · obtain ⟨box, scale, strokes, reached, -⟩ | ⟨-, left'⟩ :=
        render_pending (h.isOpen.symm.trans isOpen)
      · exact (missed box scale strokes ((h.reaches_iff hx hy).mpr reached)).elim
      · rw [left, left', h.pending]

theorem perform (h : Abreast x y) (hx : Settled x) (hy : Settled y) (request : Request Float) :
    Abreast (x.perform request).coordinator (y.perform request).coordinator := by
  obtain ⟨idle, idle'⟩ | ⟨d, e, rendered, rendered', abreast⟩ := h.rendering request
  · cases request with
    | grow times => exact h.growTimes times
    | growAndRender times =>
      rw [perform_growAndRender_of_unrendered idle, perform_growAndRender_of_unrendered idle']
      exact h
    | render =>
      rw [perform_render_of_unrendered idle, perform_render_of_unrendered idle']
      exact h
    | growDirectly => exact h.grow
    | resize size => exact ⟨⟨h.system, h.interpreter, h.base, rfl, h.isOpen⟩, h.pending⟩
    | setAngle angle =>
      exact ⟨⟨h.system, congrArg (fun i => { i with turnAngle := angle }) h.interpreter, h.base,
        h.size, h.isOpen⟩, h.pending⟩
    | setStep step =>
      exact ⟨⟨h.system, congrArg (fun i => { i with step := step }) h.interpreter, h.base, h.size,
        h.isOpen⟩, h.pending⟩
    | setBase base => exact ⟨⟨h.system, h.interpreter, rfl, h.size, h.isOpen⟩, h.pending⟩
    | failNext fault =>
      exact ⟨⟨h.system, h.interpreter, h.base, h.size, h.isOpen⟩, congrArg (· ++ [fault]) h.pending⟩
    | shutdown => exact ⟨⟨h.system, h.interpreter, h.base, h.size, rfl⟩, h.pending⟩
  · rw [(perform_of_rendering rendered).2, (perform_of_rendering rendered').2]
    exact abreast.render (hx.rendering rendered) (hy.rendering rendered')

/-- Renders with the same to do end alike, whatever the two have kept. -/
theorem rendered (h : Abreast x y) (hx : Settled x) (hy : Settled y) :
    (Event.rendered ∈ x.render.events ↔ Event.rendered ∈ y.render.events) ∧
    (Event.rendered ∈ x.render.events →
      x.render.coordinator.surface.strokes = y.render.coordinator.surface.strokes) := by
  have alike {box : Box Float} {scale : Scale Float} {strokes : List (Segment Float)} :
      x.Draws box scale strokes ↔ y.Draws box scale strokes := by
    rw [draws_iff_reaches, draws_iff_reaches, h.reaches_iff hx hy, h.pending]
  constructor
  · rw [rendered_iff, rendered_iff]
    simp only [alike]
  · intro told
    obtain ⟨box, scale, strokes, drawn⟩ := rendered_iff.mp told
    rw [drawn.render_strokes, (alike.mp drawn).render_strokes]

/-- Two runs of the same requests that begin abreast stay abreast, so their renders end alike. -/
theorem renders (h : Abreast x y) (hx : Settled x) (hy : Settled y) {requests : List (Request Float)}
    (kept : ∀ r ∈ requests, r.KeepsSettings) :
    List.Forall₂ (fun x y =>
      (Event.rendered ∈ x.render.events ↔ Event.rendered ∈ y.render.events) ∧
      (Event.rendered ∈ x.render.events →
        x.render.coordinator.surface.strokes = y.render.coordinator.surface.strokes))
      (x.renders requests) (y.renders requests) := by
  induction requests generalizing x y with
  | nil => exact List.Forall₂.nil
  | cons request rest ih =>
    have keeps := kept request List.mem_cons_self
    have performed := h.perform hx hy request
    have drained : Abreast (x.perform request).coordinator.drain.2
        (y.perform request).coordinator.drain.2 :=
      ⟨⟨performed.system, performed.interpreter, performed.base, performed.size, performed.isOpen⟩,
        performed.pending⟩
    have later := ih drained (hx.perform keeps) (hy.perform keeps)
      fun r hr => kept r (List.mem_cons_of_mem request hr)
    rw [Coordinator.renders, Coordinator.renders]
    obtain ⟨idle, idle'⟩ | ⟨d, e, rendered, rendered', abreast⟩ := h.rendering request
    · rw [idle, idle']
      exact later
    · rw [rendered, rendered']
      exact .cons (abreast.rendered (hx.rendering rendered) (hy.rendering rendered')) later

end Abreast

/-- A render that fails leaves the system and the drawing as they were. It keeps the box and the scale
that it came to, and no later render draws other strokes for that. -/
theorem failed_render_harmless (system : LSystem) (i : Interpreter Float) (base : Float)
    (size : Size Float) (requests later : List (Request Float)) (times : Nat)
    (kept : ∀ r ∈ requests ++ later, r.KeepsSettings) :
    let c := (((start system i base size).run requests).growTimes times).coordinator
    let left := c.run [.render]
    Event.rendered ∉ c.render.events →
      left.system = c.system ∧
      left.surface.strokes = c.surface.strokes ∧ left.surface.draws = c.surface.draws ∧
      (if (c.isOpen && c.keptBox?.isNone && c.figure.isOk) = true then
        left.measuredGeneration = some c.system.generation ∧ left.passes = c.passes + 1
      else left.measuredGeneration = c.measuredGeneration ∧ left.passes = c.passes) ∧
      ((∀ box scale, c.isOpen = true → c.boxInUse = .ok box → c.scaleInUse box ≠ .ok scale) →
        left.lastScale = c.lastScale) ∧
      List.Forall₂ (fun x y =>
          (Event.rendered ∈ x.render.events ↔ Event.rendered ∈ y.render.events) ∧
          (Event.rendered ∈ x.render.events →
            x.render.coordinator.surface.strokes = y.render.coordinator.surface.strokes))
        (left.renders later)
        ((c.onto { c.surface with pending := left.surface.pending }).renders later) := by
  intro c left failed
  obtain ⟨strokes, draws, lastScale⟩ := render_failed failed
  have work := render_sameWork c
  refine ⟨work.system, strokes, draws, ?_, lastScale, ?_⟩
  · have generation : left.measuredGeneration = c.render.coordinator.measuredGeneration := rfl
    have passes : left.passes = c.render.coordinator.passes := rfl
    rw [generation, passes]
    cases isOpen : c.isOpen with
    | false =>
      rw [render_of_closed isOpen, if_neg (by simp)]
      exact ⟨rfl, rfl⟩
    | true =>
      have anew := measuresAnew_eq isOpen
      obtain ⟨measures, generation, passes⟩ | ⟨keeps, measured, passes⟩ := render_measured isOpen
      · rw [Bool.true_and, ← anew, if_pos measures]
        exact ⟨generation, passes⟩
      · rw [Bool.true_and, ← anew, if_neg (by simp [keeps])]
        exact ⟨congrArg (Option.map Prod.fst) measured, passes⟩
  · -- The two runs differ only in what is kept, and all of that was found with the present settings.
    have begun : Settled (start system i base size) := .start system i base size
    have settled : Settled c :=
      (begun.run fun r earlier => kept r (List.mem_append_left later earlier)).growTimes times
    have unasked : Settled (c.onto { c.surface with pending := left.surface.pending }) :=
      settled.of_alike ⟨rfl, rfl, rfl, rfl, rfl, rfl, rfl, rfl⟩
    have rendering : Request.KeepsSettings (.render : Request Float) := trivial
    have asked : Settled left := settled.perform rendering
    have abreast : Abreast left (c.onto { c.surface with pending := left.surface.pending }) :=
      ⟨⟨work.system, work.interpreter, work.base, work.size, work.isOpen⟩, rfl⟩
    exact abreast.renders asked unasked fun r hr => kept r (List.mem_append_right requests hr)

theorem stairs_failed_render_harmless :
    let requests : List (Request Float) := [.render, .failNext ⟨"OSError", "disk full", false⟩]
    let later : List (Request Float) := [.render, .growAndRender 1]
    let c := ((stairs.run requests).growTimes 1).coordinator
    let left := c.run [.render]
    (∀ r ∈ requests ++ later, r.KeepsSettings) ∧ Event.rendered ∉ c.render.events ∧
      left.system = c.system ∧ left.surface.strokes = c.surface.strokes ∧
      c.surface.strokes.length = 2 ∧ left.surface.draws = 1 ∧
      left.measuredGeneration = some 1 ∧ left.passes = 2 ∧
      List.Forall₂ (fun x y =>
          (Event.rendered ∈ x.render.events ↔ Event.rendered ∈ y.render.events) ∧
          (Event.rendered ∈ x.render.events →
            x.render.coordinator.surface.strokes = y.render.coordinator.surface.strokes))
        (left.renders later)
        ((c.onto { c.surface with pending := left.surface.pending }).renders later) ∧
      (left.run later).surface.strokes.length = 8 := by
  intro requests later c left
  have kept : ∀ r ∈ requests ++ later, r.KeepsSettings := by
    simp [requests, later, Request.KeepsSettings]
  have failed : Event.rendered ∉ c.render.events := by decide +kernel
  have measures : (c.isOpen && c.keptBox?.isNone && c.figure.isOk) = true := by decide +kernel
  have generation : c.system.generation = 1 := by decide +kernel
  have passes : c.passes = 1 := by decide +kernel
  have drawn : c.surface.draws = 1 := by decide +kernel
  have shown : c.surface.strokes.length = 2 := by decide +kernel
  have onward : (left.run later).surface.strokes.length = 8 := by decide +kernel
  have run : (((start stairs.system stairs.interpreter stairs.base stairs.surface.size).run
      requests).growTimes 1).coordinator = c := rfl
  have rerun : c.run [.render] = left := rfl
  have harmless := failed_render_harmless stairs.system stairs.interpreter stairs.base
    stairs.surface.size requests later 1 kept
  dsimp only at harmless
  rw [run, rerun, if_pos measures, generation, passes] at harmless
  obtain ⟨system, strokes, draws, ⟨found, counted⟩, -, alike⟩ := harmless failed
  exact ⟨kept, failed, system, strokes, shown, draws.trans drawn, found, counted, alike, onward⟩

end Coordinator

end LSystems
