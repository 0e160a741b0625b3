import LSystems.Proofs.Render
import LSystems.Proofs.Reports

namespace LSystems

/-- A fault is reported by its text, and an unexpected one of the surface that has none by its
kind. -/
theorem Fault.report_cases (fault : Fault) :
    (fault.report = fault.message ∧ (fault.message = "" → fault.isExpected = true)) ∨
    ∃ f, fault = .surface f ∧ f.text = "" ∧ f.expected = false ∧ fault.report = f.kind := by
  cases fault
  case surface f =>
    unfold report message isExpected
    by_cases silent : f.text = "" ∧ (!f.expected) = true
    · have unexpected : f.expected = false := by simpa using silent.2
      exact .inr ⟨f, rfl, silent.1, unexpected, if_pos silent⟩
    · refine .inl ⟨if_neg silent, fun empty => ?_⟩
      simpa [empty] using silent
  -- Every other fault has a text of its own.
  all_goals
    refine .inl ⟨?_, fun empty => ?_⟩
    · unfold report
      rfl
    · unfold message at empty
      simp at empty

/-- An event that tells how a render has ended. -/
def Event.isVerdict : Event → Bool
  | rendered => true
  | error _ => true
  | _ => false

namespace Coordinator

variable {α : Type} (c : Coordinator α)

/-- The events of a pass that carries out so many symbols of the current word. -/
def passUpTo (count : Nat) : List Event :=
  (c.interpreter.reportsUpTo c.system.word count).map .progress

/-- The events of a pass over the whole current word. -/
def pass : List Event :=
  (c.interpreter.reports c.system.word).map .progress

/-- The events by which a render comes to a box: none when one is kept. -/
def measuring : List Event :=
  if c.keptBox?.isSome then [] else
    .stage .measuring :: .status .measuring :: (c.pass ++ [.status .measured])

/-- The events of a render that nothing stops, up to its end. -/
def course : List Event :=
  c.measuring ++ .stage .scaling :: .progress 100 :: .stage .drawing :: (c.pass ++ [.status .rendered])

theorem isVerdict_course {event : Event} (h : event ∈ c.course) : event.isVerdict = false := by
  have passing {event : Event} (h : event ∈ c.pass) : event.isVerdict = false := by
    obtain ⟨percentage, -, rfl⟩ := List.mem_map.mp h
    rfl
  have measuring {event : Event} (h : event ∈ c.measuring) : event.isVerdict = false := by
    unfold Coordinator.measuring at h
    split at h
    · cases h
    · simp only [List.mem_cons, List.mem_append, List.not_mem_nil, or_false] at h
      rcases h with rfl | rfl | h | rfl
      · rfl
      · rfl
      · exact passing h
      · rfl
  simp only [course, List.mem_append, List.mem_cons, List.not_mem_nil, or_false] at h
  rcases h with h | rfl | rfl | rfl | h | rfl
  · exact measuring h
  · rfl
  · rfl
  · rfl
  · exact passing h
  · rfl

variable [Scalar α]

/-- Where a fault can stop a render, with the events up to there. -/
inductive BreaksOff : List Event → Fault → Prop
  | measuring {count : Nat} {e : Fault} (unknown : c.keptBox? = none)
    (stops : c.interpreter.Stops c.base ⟨0, 0⟩ c.system.word count e) :
    BreaksOff (.stage .measuring :: .status .measuring :: c.passUpTo count) e
  | fitting {box : Box α} {e : Fault} (inUse : c.boxInUse = .ok box)
    (unfit : c.scaleInUse box = .error e) : BreaksOff (c.measuring ++ [.stage .scaling]) e
  | placing {box : Box α} {scale : Scale α} {e : Fault} (inUse : c.boxInUse = .ok box)
    (fits : c.scaleInUse box = .ok scale) (nowhere : scale.origin = .error e) :
    BreaksOff (c.measuring ++ [.stage .scaling, .progress 100, .stage .drawing]) e
  | drawing {box : Box α} {scale : Scale α} {origin : Point α} {count : Nat} {e : Fault}
    (inUse : c.boxInUse = .ok box) (fits : c.scaleInUse box = .ok scale)
    (placed : scale.origin = .ok origin)
    (stops : c.interpreter.Stops scale.distance origin c.system.word count e) :
    BreaksOff (c.measuring
      ++ .stage .scaling :: .progress 100 :: .stage .drawing :: c.passUpTo count) e
  | surface {box : Box α} {scale : Scale α} {strokes : List (Segment α)} {fault : SurfaceFault}
    {rest : List SurfaceFault} (inUse : c.boxInUse = .ok box) (fits : c.scaleInUse box = .ok scale)
    (draws : c.strokesAt scale = .ok strokes) (pending : c.surface.pending = fault :: rest) :
    BreaksOff (c.measuring ++ .stage .scaling :: .progress 100 :: .stage .drawing :: c.pass)
      (.surface fault)

variable {c}

theorem prefix_pass {distance : α} {origin : Point α} {count : Nat} {e : Fault}
    (h : c.interpreter.Stops distance origin c.system.word count e) : c.passUpTo count <+: c.pass :=
  (c.interpreter.prefix_reports h.le_length).map Event.progress

/-- A render that breaks off has told a beginning of what it would have told undisturbed. -/
theorem BreaksOff.prefix_course {told : List Event} {e : Fault} (h : c.BreaksOff told e) :
    told <+: c.course := by
  unfold course
  cases h with
  | measuring unknown stops =>
    have begun := (prefix_pass stops).trans (List.prefix_append c.pass [.status .measured])
    unfold Coordinator.measuring
    rw [unknown]
    refine List.IsPrefix.trans ?_ (List.prefix_append _ _)
    simpa using begun
  | fitting inUse unfit => simp
  | placing inUse fits nowhere => simp
  | drawing inUse fits placed stops => simpa using (prefix_pass stops).trans (List.prefix_append _ _)
  | surface inUse fits draws pending => simp

/-- A render comes to a box after the events of its measuring, or the measuring breaks off. -/
theorem measure_told :
    (∃ box, c.boxInUse = .ok box ∧ c.measure.outcome = .ok box ∧ c.measure.events = c.measuring) ∨
    ∃ e, c.BreaksOff c.measure.events e ∧ c.measure.outcome = .error e := by
  unfold measure measuring boxInUse figure
  cases kept : c.keptBox? with
  | some box => exact .inl ⟨box, rfl, rfl, rfl⟩
  | none =>
    dsimp only
    obtain ⟨box, measured, reported⟩ | ⟨count, e, stops, failed, reported⟩ :=
      c.interpreter.measure_cases c.base ⟨0, 0⟩ c.system.word
    · rw [measured, reported]
      exact .inl ⟨box, rfl, rfl, rfl⟩
    · rw [failed, reported]
      exact .inr ⟨e, .measuring kept stops, rfl⟩

theorem fit_events (box : Box α) : (c.fit box).events = [.stage .scaling] := by
  unfold fit
  dsimp only
  split
  · rfl
  · split <;> rfl

/-- How the drawing of a scale ends, with its events. -/
theorem draw_told (scale : Scale α) :
    (∃ e, scale.origin = .error e ∧ (c.draw scale).outcome = .error e ∧
      (c.draw scale).events = [.progress 100, .stage .drawing]) ∨
    (∃ origin count e, scale.origin = .ok origin ∧
      c.interpreter.Stops scale.distance origin c.system.word count e ∧
      (c.draw scale).outcome = .error e ∧
      (c.draw scale).events = .progress 100 :: .stage .drawing :: c.passUpTo count) ∨
    (∃ strokes fault rest, c.strokesAt scale = .ok strokes ∧ c.surface.pending = fault :: rest ∧
      (c.draw scale).outcome = .error (.surface fault) ∧
      (c.draw scale).events = .progress 100 :: .stage .drawing :: c.pass) ∨
    ∃ strokes, c.strokesAt scale = .ok strokes ∧ c.surface.pending = [] ∧
      (c.draw scale).outcome = .ok () ∧
      (c.draw scale).events = .progress 100 :: .stage .drawing :: (c.pass ++ [.status .rendered]) := by
  unfold draw strokesAt
  cases scale.origin with
  | error e => exact .inl ⟨e, rfl, rfl, rfl⟩
  | ok origin =>
    refine .inr ?_
    dsimp only
    obtain ⟨strokes, drawn, reported⟩ | ⟨count, e, stops, failed, reported⟩ :=
      c.interpreter.draw_cases scale.distance origin c.system.word
    · refine .inr ?_
      rw [drawn, reported]
      dsimp only
      obtain ⟨unhindered, ends⟩ | ⟨fault, rest, pending, ends⟩ := c.surface.draw_cases strokes
      · rw [ends]
        exact .inr ⟨strokes, rfl, unhindered, rfl, rfl⟩
      · rw [ends]
        exact .inl ⟨strokes, fault, rest, rfl, pending, rfl, rfl⟩
    · rw [failed, reported]
      exact .inl ⟨origin, count, e, rfl, stops, rfl, rfl⟩

theorem withBox_withScale_pass (box : Box α) (scale : Scale α) (stage : Stage) :
    (((c.withBox box).withScale scale).atStage stage).interpreter = c.interpreter ∧
      (((c.withBox box).withScale scale).atStage stage).system = c.system := by
  unfold withBox withScale
  split <;> split <;> exact ⟨rfl, rfl⟩

/-- A render goes through its course, or it breaks off. -/
theorem pipeline_told :
    (∃ box scale strokes, c.boxInUse = .ok box ∧ c.scaleInUse box = .ok scale ∧
      c.strokesAt scale = .ok strokes ∧ c.surface.pending = [] ∧
      c.pipeline.outcome = .ok () ∧ c.pipeline.events = c.course) ∨
    ∃ e, c.BreaksOff c.pipeline.events e ∧ c.pipeline.outcome = .error e := by
  have prepared {box : Box α} (inUse : c.boxInUse = .ok box) :
      (c.measure.andThen fit).events = c.measuring ++ [.stage .scaling] := by
    obtain ⟨box', inUse', measured, told⟩ | ⟨e, broken, failed⟩ := c.measure_told
    · rw [Part.andThen_of_ok measured, told, fit_events]
    · obtain ⟨e', inUse', failed', -⟩ | ⟨box', stage, inUse', measured, -⟩ := c.measure_cases
      · cases inUse.symm.trans inUse'
      · cases failed.symm.trans measured
  unfold pipeline
  obtain ⟨e, inUse, failed, -⟩ | ⟨box, e, inUse, unfit, failed, -⟩ |
    ⟨box, scale, inUse, fits, found, left⟩ := c.prepare_cases
  · obtain ⟨box', inUse', -, -⟩ | ⟨e', broken, failed'⟩ := c.measure_told
    · cases inUse.symm.trans inUse'
    · have stopped : c.measure.andThen fit = ⟨c.measure.events, c.measure.coordinator, .error e'⟩ :=
        Part.andThen_of_error failed'
      rw [stopped, Part.andThen_of_error rfl]
      exact .inr ⟨e', broken, rfl⟩
  · rw [Part.andThen_of_error failed, prepared inUse]
    exact .inr ⟨e, .fitting inUse unfit, rfl⟩
  rw [Part.andThen_of_ok found, left, prepared inUse]
  have strokes := c.withBox_withScale_strokesAt box scale .scaling
  have surface : (((c.withBox box).withScale scale).atStage .scaling).surface = c.surface :=
    c.withBox_withScale_surface box scale
  obtain ⟨interpreter, system⟩ := c.withBox_withScale_pass box scale .scaling
  have told := (((c.withBox box).withScale scale).atStage .scaling).draw_told scale
  unfold passUpTo pass at told
  rw [strokes, surface, interpreter, system] at told
  obtain ⟨e, nowhere, ends, told⟩ | ⟨origin, count, e, placed, stops, ends, told⟩ |
    ⟨strokes, fault, rest, draws, pending, ends, told⟩ | ⟨strokes, draws, unhindered, ends, told⟩ :=
    told
  · rw [ends, told, List.append_assoc]
    exact .inr ⟨e, .placing inUse fits nowhere, rfl⟩
  · rw [ends, told, List.append_assoc]
    exact .inr ⟨e, .drawing inUse fits placed stops, rfl⟩
  · rw [ends, told, List.append_assoc]
    exact .inr ⟨_, .surface inUse fits draws pending, rfl⟩
  · rw [ends, told, List.append_assoc]
    exact .inl ⟨box, scale, strokes, inUse, fits, draws, unhindered, rfl, rfl⟩

/-- Every pass that succeeds reports alike. -/
theorem reported_pass (distance : α) (origin : Point α) :
    (∀ box, (c.interpreter.measure distance origin c.system.word).outcome = .ok box →
      (c.interpreter.measure distance origin c.system.word).progress.map .progress = c.pass) ∧
    ∀ strokes, (c.interpreter.draw distance origin c.system.word).outcome = .ok strokes →
      (c.interpreter.draw distance origin c.system.word).progress.map .progress = c.pass := by
  constructor
  · intro box measured
    obtain ⟨-, -, reported⟩ | ⟨count, e, -, failed, -⟩ :=
      c.interpreter.measure_cases distance origin c.system.word
    · rw [reported]
      rfl
    · cases measured.symm.trans failed
  · intro strokes drawn
    obtain ⟨-, -, reported⟩ | ⟨count, e, -, failed, -⟩ :=
      c.interpreter.draw_cases distance origin c.system.word
    · rw [reported]
      rfl
    · cases drawn.symm.trans failed

/-- A render of an open coordinator tells its course and its success; or it breaks off, and tells
its fault in place of the rest. It tells one of the two and is idle afterwards. -/
theorem render_tells (c : Coordinator α) (isOpen : c.isOpen = true) :
    ((∃ box scale strokes, c.Draws box scale strokes) ∧
        c.render.events = c.course ++ [.stage .idle, .rendered] ∨
      ∃ told fault m, c.BreaksOff told fault ∧ told <+: c.course ∧
        c.render.events = told ++ [.stage .error, .error m, .status (.failed m), .stage .idle] ∧
        (m = fault.message ∧ (fault.message = "" → fault.isExpected = true) ∨
          ∃ f, fault = .surface f ∧ f.text = "" ∧ f.expected = false ∧ m = f.kind)) ∧
    c.render.events.countP Event.isVerdict = 1 ∧
    c.render.coordinator.stage = .idle ∧
    (∀ distance origin,
      (∀ box, (c.interpreter.measure distance origin c.system.word).outcome = .ok box →
        (c.interpreter.measure distance origin c.system.word).progress.map .progress = c.pass) ∧
      ∀ strokes, (c.interpreter.draw distance origin c.system.word).outcome = .ok strokes →
        (c.interpreter.draw distance origin c.system.word).progress.map .progress = c.pass) ∧
    [Stage.measuring, .scaling, .drawing, .idle, .error].map Stage.name
      = ["computing_bounds", "scaling", "drawing", "idle", "error"] ∧
    [Status.measuring, .measured, .rendered].map Status.text
      = ["Computing boundaries...", "Computing boundaries done in N ms", "Rendering done in N ms"] ∧
    ∀ m, (Status.failed m).text = m := by
  have silent {told : List Event} (h : told <+: c.course) : told.countP Event.isVerdict = 0 := by
    rw [List.countP_eq_zero]
    intro event mem
    rw [c.isVerdict_course (h.subset mem)]
    exact Bool.false_ne_true
  have texts : ∀ m, (Status.failed m).text = m := fun m => rfl
  unfold render renderJob
  rw [if_pos isOpen]
  dsimp only
  obtain ⟨box, scale, strokes, inUse, fits, draws, unhindered, ends, told⟩ | ⟨fault, broken, ends⟩ :=
    c.pipeline_told
  · have drawn : c.Draws box scale strokes := ⟨isOpen, inUse, fits, draws, unhindered⟩
    rw [ends, told]
    refine ⟨.inl ⟨⟨box, scale, strokes, drawn⟩, rfl⟩, ?_, rfl, reported_pass, rfl, rfl, texts⟩
    rw [List.countP_append, silent List.prefix_rfl]
    rfl
  · have begun := broken.prefix_course
    rw [ends]
    refine ⟨.inr ⟨_, fault, _, broken, begun, rfl, fault.report_cases⟩, ?_, rfl, reported_pass, rfl,
      rfl, texts⟩
    rw [List.countP_append, silent begun]
    rfl

/-- A coordinator whose word goes back to a turtle that was never saved. -/
def unbalanced : Coordinator Float :=
  start (.start ['X', ']'] (.ofRules []) 5) ⟨.degrees, 20.0, 5⟩ 10.0 ⟨.whole 100, .whole 100⟩

theorem unbalanced_render_tells :
    let m := "cannot pop empty turtle stack (']' at symbol 1)"
    unbalanced.isOpen = true ∧
    (∃ told fault, unbalanced.BreaksOff told fault ∧ told <+: unbalanced.course ∧
      unbalanced.render.events = told ++ [.stage .error, .error m, .status (.failed m), .stage .idle]) ∧
    unbalanced.render.events.countP Event.isVerdict = 1 ∧
    unbalanced.render.coordinator.stage = .idle := by
  intro m
  have isOpen : unbalanced.isOpen = true := rfl
  have events : unbalanced.render.events = [.stage .measuring, .status .measuring, .progress 50,
      .stage .error, .error m, .status (.failed m), .stage .idle] := by decide +kernel
  obtain ⟨⟨-, told⟩ | ⟨told, fault, m', broken, begun, ends, -⟩, verdict, idle, -⟩ :=
    render_tells unbalanced isOpen
  · have success : Event.rendered ∈ unbalanced.render.events := by simp [told]
    rw [events] at success
    simp at success
  · have report : m' = m := by
      have last := congrArg (fun events => events.reverse[2]?) (ends.symm.trans events)
      simpa using last
    rw [report] at ends
    exact ⟨isOpen, ⟨told, fault, broken, begun, ends⟩, verdict, idle⟩

end Coordinator

end LSystems
