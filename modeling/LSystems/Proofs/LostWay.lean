import LSystems.DefinitionFile
import LSystems.Proofs.Headings
import LSystems.Proofs.InfiniteHeading
import LSystems.Proofs.Renewed
import LSystems.Proofs.RenderEvents
import LSystems.Proofs.Rewritten
import Mathlib.Data.List.Infix

namespace LSystems

namespace Interpreter

/-- A word asks for a stroke at an infinite heading, and nothing before it fails. The length of
the strokes is of no account, as no heading depends on it. -/
def LosesWay (i : Interpreter Float) (word : Word) : Prop :=
  ∃ before after w, word = before ++ .char 'F' :: after ∧ i.wander 0 ⟨0, 0⟩ before = .ok w ∧
    w.turtle.heading.isInf = true

/-- A word leads to an infinite heading. -/
def endsLost (i : Interpreter Float) (word : Word) : Bool :=
  match i.wander 0 ⟨0, 0⟩ word with
  | .ok w => w.turtle.heading.isInf
  | .error _ => false

theorem endsLost_iff {i : Interpreter Float} {word : Word} : i.endsLost word = true ↔
    ∃ w, i.wander 0 ⟨0, 0⟩ word = .ok w ∧ w.turtle.heading.isInf = true := by
  unfold endsLost
  cases i.wander 0 ⟨0, 0⟩ word with
  | ok w => simp
  | error e => simp

instance (i : Interpreter Float) (word : Word) : Decidable (i.LosesWay word) :=
  decidable_of_iff
    (∃ before ∈ word.inits, before ++ [.char 'F'] <+: word ∧ i.endsLost before = true) <| by
    constructor
    · rintro ⟨before, -, ⟨after, parts⟩, lost⟩
      obtain ⟨w, reached, infinite⟩ := endsLost_iff.mp lost
      exact ⟨before, after, w, by rw [← parts]; simp, reached, infinite⟩
    · rintro ⟨before, after, w, rfl, reached, infinite⟩
      exact ⟨before, (List.mem_inits _ _).mpr (List.prefix_append _ _), ⟨after, by simp⟩,
        endsLost_iff.mpr ⟨w, reached, infinite⟩⟩

section
variable {i : Interpreter Float} {word : Word}

theorem exists_stops_of_losesWay (degrees : i.compass = .degrees) (step : 1 ≤ i.step)
    (lost : i.LosesWay word) (distance : Float) (origin : Point Float) :
    ∃ count, i.Stops distance origin word count .noDirection := by
  obtain ⟨before, after, w, parts, reached, infinite⟩ := lost
  have nowhere : i.compass.step? w.turtle.heading = none := by
    rw [degrees]
    exact Compass.degrees_step?_eq_none_iff.mpr infinite
  have stops : i.Stops 0 ⟨0, 0⟩ word before.length .noDirection :=
    .symbol step parts reached (obey_error_iff.mpr (.inl ⟨rfl, nowhere, rfl⟩))
  exact ⟨before.length, stops.elsewhere distance origin⟩

theorem Stops.fault_cases {distance : Float} {origin : Point Float} {count : Nat} {e : Fault}
    (degrees : i.compass = .degrees) (step : 1 ≤ i.step)
    (stops : i.Stops distance origin word count e) :
    (e = .noDirection ∧ i.LosesWay word) ∨
      ((∃ index, e = .stackUnderflow index) ∧ ¬i.LosesWay word) := by
  by_cases lost : i.LosesWay word
  · obtain ⟨_, lostAt⟩ := exists_stops_of_losesWay degrees step lost distance origin
    exact .inl ⟨(stops.unique lostAt).2, lost⟩
  · -- The walk that makes no way stops for the same fault.
    cases stops.elsewhere 0 ⟨0, 0⟩ with
    | step low => omega
    | symbol _ parts reached fails =>
      obtain ⟨rfl, nowhere, -⟩ | ⟨-, -, rfl⟩ := obey_error_iff.mp fails
      · rw [degrees] at nowhere
        exact (lost ⟨_, _, _, parts, reached, Compass.degrees_step?_eq_none_iff.mp nowhere⟩).elim
      · exact .inr ⟨⟨_, rfl⟩, lost⟩

theorem passes_of_losesWay (degrees : i.compass = .degrees) (step : 1 ≤ i.step)
    (lost : i.LosesWay word) (distance : Float) (origin : Point Float) :
    (i.measure distance origin word).outcome = .error .noDirection ∧
      (i.draw distance origin word).outcome = .error .noDirection := by
  obtain ⟨_, stops⟩ := exists_stops_of_losesWay degrees step lost distance origin
  exact stops.outcomes

theorem passes_of_not_losesWay (degrees : i.compass = .degrees) (step : 1 ≤ i.step)
    (kept : ¬i.LosesWay word) (distance : Float) (origin : Point Float) :
    (∃ box strokes, (i.measure distance origin word).outcome = .ok box ∧
      (i.draw distance origin word).outcome = .ok strokes) ∨
    ∃ index, (i.measure distance origin word).outcome = .error (.stackUnderflow index) ∧
      (i.draw distance origin word).outcome = .error (.stackUnderflow index) := by
  obtain ⟨-, ⟨box, strokes, measured, drawn⟩ | ⟨count, e, stops, -, failed, failed'⟩⟩ :=
    i.measure_draw_elsewhere distance distance origin origin word
  · exact .inl ⟨box, strokes, measured, drawn⟩
  · obtain ⟨-, lost⟩ | ⟨⟨index, rfl⟩, -⟩ := stops.fault_cases degrees step
    · exact (kept lost).elim
    · exact .inr ⟨index, failed, failed'⟩

end

end Interpreter

section
variable {α : Type} [Scalar α] {size : Size α} {base : α}

theorem Scale.fit_cases (box : Box α) (width_pos : size.width.isNonpositive = false)
    (height_pos : size.height.isNonpositive = false) (base_pos : ¬base ≤ 0) :
    (∃ distance, Scale.fit box size base = .ok ⟨distance, box.corner, base⟩) ∨
    (Scale.fit box size base = .error .integerTooLarge ∧
      (size.width.toScalar? = none ∨ size.height.toScalar? = none)) := by
  have sides (wide : Prop) [Decidable wide] :
      (if wide then size.width else size.height).toScalar? = none →
        size.width.toScalar? = none ∨ size.height.toScalar? = none := by
    intro huge
    split at huge
    · exact .inl huge
    · exact .inr huge
  have huge := sides (box.height < box.width)
  unfold fit
  rw [width_pos, height_pos, if_neg (by decide), if_neg base_pos]
  dsimp only
  -- The extent and the side belong to one axis, but which one it is does not matter here.
  generalize (if box.height < box.width then box.width else box.height) = extent
  generalize (if box.height < box.width then size.width else size.height) = side at huge ⊢
  by_cases flat : extent ≤ 0
  · rw [if_pos flat]
    exact .inl ⟨base, rfl⟩
  · rw [if_neg flat]
    cases found : side.toScalar? with
    | none => exact .inr ⟨rfl, huge found⟩
    | some length =>
      have divides : quotient (length * base) extent = .ok (length * base / extent) :=
        if_neg fun zero => flat zero.1
      dsimp only
      rw [divides]
      exact .inl ⟨_, rfl⟩

theorem Scale.exists_origin_of_fit {box : Box α} {scale : Scale α}
    (fits : Scale.fit box size base = .ok scale) :
    ∃ origin, scale.origin = .ok origin := by
  have demands : (size.width.isNonpositive || size.height.isNonpositive) = false ∧ ¬base ≤ 0 := by
    unfold fit at fits
    split at fits
    next => cases fits
    next positive =>
      split at fits
      next => cases fits
      next base_pos => exact ⟨Bool.not_eq_true _ ▸ positive, base_pos⟩
  obtain ⟨width_pos, height_pos⟩ := Bool.or_eq_false_iff.mp demands.1
  obtain ⟨distance, fitted⟩ | ⟨failed, -⟩ := fit_cases box width_pos height_pos demands.2
  · cases fits.symm.trans fitted
    have divides : quotient distance base = .ok (distance / base) :=
      if_neg fun zero => demands.2 zero.1
    unfold origin factor
    dsimp only
    rw [divides]
    exact ⟨_, rfl⟩
  · cases fits.symm.trans failed

end

namespace Coordinator

theorem wait_of_jobs {α : Type} {c : Coordinator α} {job : Option Fault} (only : c.jobs = [job]) :
    c.wait.1 = job := by
  unfold wait
  rw [only]
  cases job <;> rfl

section
variable {α : Type} [Scalar α] {c : Coordinator α}

theorem perform_compass (c : Coordinator α) (request : Request α) :
    (c.perform request).coordinator.interpreter.compass = c.interpreter.compass := by
  cases request with
  | setAngle angle => rfl
  | setBase base => rfl
  | grow times => exact (SameSettings.growTimes c times).compass
  | growAndRender times =>
    have kept : (Request.growAndRender times : Request α).KeepsSettings := trivial
    exact (SameSettings.perform kept).compass
  | render => exact (SameSettings.render c).compass
  | growDirectly => exact (SameSettings.grow c).compass
  | resize size => rfl
  | setStep step => rfl
  | failNext fault => rfl
  | shutdown => rfl

theorem run_compass (c : Coordinator α) (requests : List (Request α)) :
    (c.run requests).interpreter.compass = c.interpreter.compass := by
  induction requests generalizing c with
  | nil => rfl
  | cons request rest ih => exact (ih _).trans (c.perform_compass request)

theorem run_jobs (requests : List (Request α)) (idle : c.jobs = []) :
    (c.run requests).jobs = [] := by
  induction requests generalizing c with
  | nil => exact idle
  | cons request rest ih => exact ih rfl

theorem pipeline_jobs (c : Coordinator α) : c.pipeline.coordinator.jobs = c.jobs := by
  have boxed (d : Coordinator α) (box : Box α) : (d.withBox box).jobs = d.jobs := by
    unfold withBox
    split <;> rfl
  have scaled (d : Coordinator α) (scale : Scale α) : (d.withScale scale).jobs = d.jobs := by
    unfold withScale
    split <;> rfl
  obtain ⟨e, -, -, left⟩ | ⟨box, e, -, -, -, left⟩ | ⟨box, scale, e, -, -, -, -, left⟩ |
    ⟨box, scale, strokes, -, -, -, -, left⟩ := c.pipeline_cases
  · rw [left]
    rfl
  · rw [left]
    exact boxed c box
  · rw [left]
    exact (scaled _ scale).trans (boxed c box)
  · rw [left]
    exact (scaled _ scale).trans (boxed c box)

/-- What a render adds to the jobs is the fault that it ended with, unless it was expected. -/
theorem renderJob_jobs (c : Coordinator α) :
    (c.pipeline.outcome = .ok () → c.renderJob.2.jobs = c.jobs ++ [none]) ∧
    ∀ fault, c.pipeline.outcome = .error fault → c.renderJob.2.jobs
      = c.jobs ++ [if fault.isExpected then none else some fault] := by
  unfold renderJob
  dsimp only
  constructor
  · intro ends
    rw [ends]
    exact congrArg (· ++ _) c.pipeline_jobs
  · intro fault ends
    rw [ends]
    exact congrArg (· ++ _) c.pipeline_jobs

theorem render_jobs (isOpen : c.isOpen = true) :
    (c.pipeline.outcome = .ok () → c.render.coordinator.jobs = c.jobs ++ [none]) ∧
    ∀ fault, c.pipeline.outcome = .error fault → c.render.coordinator.jobs
      = c.jobs ++ [if fault.isExpected then none else some fault] := by
  unfold render
  rw [if_pos isOpen]
  exact c.renderJob_jobs

/-- Whoever waits for a render meets the fault that it ended with, unless it was expected. -/
theorem render_wait (isOpen : c.isOpen = true) (idle : c.jobs = []) :
    (c.pipeline.outcome = .ok () → c.render.coordinator.wait.1 = none) ∧
    ∀ fault, c.pipeline.outcome = .error fault →
      c.render.coordinator.wait.1 = if fault.isExpected then none else some fault := by
  obtain ⟨success, failure⟩ := render_jobs isOpen
  rw [idle] at success failure
  exact ⟨fun ends => wait_of_jobs (success ends), fun fault ends => wait_of_jobs (failure fault ends)⟩

end

section
variable {c : Coordinator Float} {past : List (Coordinator Float)}

theorem scaleInUse_of_remembers (h : RemembersLast past c)
    (width_pos : c.surface.size.width.isNonpositive = false)
    (height_pos : c.surface.size.height.isNonpositive = false) (base_pos : ¬c.base ≤ 0)
    (box : Box Float) :
    (∃ scale origin, c.scaleInUse box = .ok scale ∧ scale.origin = .ok origin) ∨
    (c.scaleInUse box = .error .integerTooLarge ∧
      (c.surface.size.width.toScalar? = none ∨ c.surface.size.height.toScalar? = none)) := by
  unfold scaleInUse
  cases kept : c.keptScale? with
  | some scale =>
    obtain ⟨f, -, box', -, -, fits⟩ := fit_of_keptScale h kept
    obtain ⟨origin, starts⟩ := Scale.exists_origin_of_fit fits
    exact .inl ⟨scale, origin, rfl, starts⟩
  | none =>
    obtain ⟨distance, fits⟩ | failed := Scale.fit_cases box width_pos height_pos base_pos
    · obtain ⟨origin, starts⟩ := Scale.exists_origin_of_fit fits
      exact .inl ⟨_, origin, fits, starts⟩
    · exact .inr failed

/-- A render on a canvas with sides can be stopped by its word or by the range of numbers. -/
theorem pipeline_faults (h : RemembersLast past c) (degrees : c.interpreter.compass = .degrees)
    (step : 1 ≤ c.interpreter.step) (width_pos : c.surface.size.width.isNonpositive = false)
    (height_pos : c.surface.size.height.isNonpositive = false) (base_pos : ¬c.base ≤ 0)
    (unhindered : c.surface.pending = []) :
    (c.pipeline.outcome = .ok () ∧ ¬c.interpreter.LosesWay c.system.word) ∨
    ∃ e, c.pipeline.outcome = .error e ∧
      ((e = .noDirection ∧ c.interpreter.LosesWay c.system.word) ∨
        ((∃ index, e = .stackUnderflow index) ∧ ¬c.interpreter.LosesWay c.system.word) ∨
        (e = .integerTooLarge ∧
          (c.surface.size.width.toScalar? = none ∨ c.surface.size.height.toScalar? = none))) := by
  have fitted := scaleInUse_of_remembers h width_pos height_pos base_pos
  obtain ⟨box, scale, strokes, -, -, draws, -, ends, -⟩ | ⟨e, broken, ends⟩ := c.pipeline_told
  · refine .inl ⟨ends, fun lost => ?_⟩
    obtain ⟨origin, -, drawn⟩ := strokesAt_eq_ok_iff.mp draws
    have stopped := (Interpreter.passes_of_losesWay degrees step lost scale.distance origin).2
    cases stopped.symm.trans drawn
  · refine .inr ⟨e, ends, ?_⟩
    generalize c.pipeline.events = told at broken
    cases broken with
    | measuring unknown stops => exact (stops.fault_cases degrees step).imp_right .inl
    | @fitting box e inUse unfit =>
      obtain ⟨scale, origin, fits, -⟩ | ⟨failed, side⟩ := fitted box
      · cases fits.symm.trans unfit
      · cases failed.symm.trans unfit
        exact .inr (.inr ⟨rfl, side⟩)
    | @placing box scale e inUse fits nowhere =>
      obtain ⟨scale', origin, fits', starts⟩ | ⟨failed, -⟩ := fitted box
      · cases fits.symm.trans fits'
        cases nowhere.symm.trans starts
      · cases fits.symm.trans failed
    | drawing inUse fits placed stops => exact (stops.fault_cases degrees step).imp_right .inl
    | surface inUse fits draws pending =>
      rw [unhindered] at pending
      cases pending

end

end Coordinator

/-- A pass over a generation of a definition gives a result, stops at a bracket without a partner,
or loses its way at an infinite heading; that is the only fault of the word that those who wait for
a render meet, and a side of the canvas beyond the range of numbers is the only other one. -/
theorem faults_of_definition (d : Definition) :
    (∀ n : Nat, ∃ word, d.grammar.expand d.seed n = .ok word ∧
      ∀ step : Int, 1 ≤ step → ∀ distance origin,
        let i : Interpreter Float := ⟨.degrees, d.angle, step⟩
        (i.LosesWay word → (i.measure distance origin word).outcome = .error .noDirection ∧
          (i.draw distance origin word).outcome = .error .noDirection) ∧
        (¬i.LosesWay word →
          (∃ box strokes, (i.measure distance origin word).outcome = .ok box ∧
            (i.draw distance origin word).outcome = .ok strokes) ∨
          ∃ index, (i.measure distance origin word).outcome = .error (.stackUnderflow index) ∧
            (i.draw distance origin word).outcome = .error (.stackUnderflow index))) ∧
    ∀ growthStep i base size requests, i.compass = .degrees →
      let c := (Coordinator.start (d.build growthStep) i base size).run requests
      c.isOpen = true → 1 ≤ c.interpreter.step → ¬c.base ≤ 0 →
      c.surface.size.width.isNonpositive = false → c.surface.size.height.isNonpositive = false →
      c.surface.pending = [] →
        (c.render.coordinator.wait.1 = none ∧ ¬c.interpreter.LosesWay c.system.word) ∨
        (c.render.coordinator.wait.1 = some .noDirection ∧ c.interpreter.LosesWay c.system.word) ∨
        (c.render.coordinator.wait.1 = some .integerTooLarge ∧
          (c.surface.size.width.toScalar? = none ∨ c.surface.size.height.toScalar? = none)) := by
  constructor
  · intro n
    refine ⟨_, d.grammar.expand_natCast d.seed n, ?_⟩
    intro step least distance origin i
    exact ⟨fun lost => Interpreter.passes_of_losesWay rfl least lost distance origin,
      fun kept => Interpreter.passes_of_not_losesWay rfl least kept distance origin⟩
  · intro growthStep i base size requests degrees c isOpen step base_pos width_pos height_pos
      unhindered
    have begun : Coordinator.RemembersLast [] (Coordinator.start (d.build growthStep) i base size) :=
      Coordinator.Remembers.start (d.build growthStep) i base size
    have remembers := Coordinator.remembersLast_run requests begun
    have still : c.interpreter.compass = .degrees :=
      (Coordinator.run_compass _ requests).trans degrees
    have idle : c.jobs = [] := Coordinator.run_jobs requests rfl
    obtain ⟨succeeds, fails⟩ := Coordinator.render_wait isOpen idle
    obtain ⟨ends, kept⟩ | ⟨e, ends, ⟨rfl, lost⟩ | ⟨⟨index, rfl⟩, kept⟩ | ⟨rfl, side⟩⟩ :=
      Coordinator.pipeline_faults remembers still step width_pos height_pos base_pos unhindered
    · exact .inl ⟨succeeds ends, kept⟩
    · exact .inr (.inl ⟨fails _ ends, lost⟩)
    · exact .inl ⟨fails _ ends, kept⟩
    · exact .inr (.inr ⟨fails _ ends, side⟩)

/-- A definition that turns to an infinite heading and then asks for a stroke. -/
def wayward : Definition :=
  ⟨"d", ['+', 'F'], .ofRules [], 1.0 / 0.0⟩

theorem wayward_faults :
    let i : Interpreter Float := ⟨.degrees, wayward.angle, 5⟩
    let c := (Coordinator.start (wayward.build 5) i 10.0 ⟨.whole 100, .whole 100⟩).run
      [.resize ⟨.real 50.0, .whole 200⟩]
    wayward.grammar.expand wayward.seed (0 : Nat) = .ok ['+', 'F'] ∧ i.LosesWay ['+', 'F'] ∧
      (i.measure 10.0 ⟨0, 0⟩ ['+', 'F']).outcome = .error .noDirection ∧
      c.isOpen = true ∧ 1 ≤ c.interpreter.step ∧ ¬c.base ≤ 0 ∧
      c.surface.size.width.isNonpositive = false ∧
      c.surface.size.height.isNonpositive = false ∧ c.surface.pending = [] ∧
      c.render.coordinator.wait.1 = some .noDirection := by
  intro i c
  have lost : i.LosesWay ['+', 'F'] := by
    refine ⟨['+'], [], ⟨⟨⟨0, 0⟩, 90.0 - 1.0 / 0.0⟩, [], ()⟩, rfl, rfl, ?_⟩
    decide +kernel
  have isOpen : c.isOpen = true := by decide +kernel
  have step : 1 ≤ c.interpreter.step := by decide +kernel
  have base_pos : ¬c.base ≤ 0 := by decide +kernel
  have width_pos : c.surface.size.width.isNonpositive = false := by decide +kernel
  have height_pos : c.surface.size.height.isNonpositive = false := by decide +kernel
  have unhindered : c.surface.pending = [] := by decide +kernel
  obtain ⟨passes, renders⟩ := faults_of_definition wayward
  obtain ⟨word, expanded, faults⟩ := passes 0
  cases expanded.symm.trans (wayward.grammar.expand_natCast wayward.seed 0)
  have stopped := ((faults 5 (by decide) 10.0 ⟨0, 0⟩).1 lost).1
  have met := renders 5 i 10.0 ⟨.whole 100, .whole 100⟩ [.resize ⟨.real 50.0, .whole 200⟩] rfl
    isOpen step base_pos width_pos height_pos unhindered
  refine ⟨expanded, lost, stopped, isOpen, step, base_pos, width_pos, height_pos, unhindered, ?_⟩
  obtain ⟨-, kept⟩ | ⟨ends, -⟩ | ⟨-, side⟩ := met
  · exact (kept lost).elim
  · exact ends
  · have inRange :
        ¬(c.surface.size.width.toScalar? = none ∨ c.surface.size.height.toScalar? = none) := by
      decide +kernel
    exact (inRange side).elim

/-- A file may give an infinite angle, or one so large that two turns make an infinite heading. -/
theorem accepted_definition_loses_way :
    let infinite := "\x7b\"axiom\": \"+F\", \"rules\": \x7b\x7d, \"angle\": Infinity\x7d"
    let large := "\x7b\"axiom\": \"++F\", \"rules\": \x7b\x7d, \"angle\": 1e308\x7d"
    ∀ file ∈ [infinite, large], ∃ d,
      Definition.ofBytes 900 (Path.ofText "d.json") file.toUTF8 = .ok d ∧
      d.grammar.expand d.seed 0 = .ok d.seed ∧
      ((⟨.degrees, d.angle, 5⟩ : Interpreter Float).measure 10.0 ⟨0, 0⟩ d.seed).outcome
        = .error .noDirection ∧
      (Coordinator.start (d.build 5) ⟨.degrees, d.angle, 5⟩ (10.0 : Float)
        ⟨.whole 100, .whole 100⟩).render.coordinator.wait.1 = some .noDirection := by
  intro infinite large file member
  have first : Definition.ofBytes 900 (Path.ofText "d.json") infinite.toUTF8 = .ok wayward := by
    decide +kernel
  let far : Definition := ⟨"d", ['+', '+', 'F'], .ofRules [], 1e308⟩
  have second : Definition.ofBytes 900 (Path.ofText "d.json") large.toUTF8 = .ok far := by
    decide +kernel
  rcases List.mem_pair.mp member with rfl | rfl
  · refine ⟨wayward, first, rfl, ?_, ?_⟩
    · decide +kernel
    · decide +kernel
  · refine ⟨far, second, rfl, ?_, ?_⟩
    · decide +kernel
    · decide +kernel

end LSystems
