import LSystems.Proofs.Brackets
import LSystems.Proofs.Configured
import LSystems.Proofs.Handled
import LSystems.Proofs.LostWay
import LSystems.Proofs.Printing
import LSystems.Proofs.SettingBounds
import LSystems.Proofs.SymbolCounts

namespace LSystems

/-- The calls for strokes on a canvas: a fill, each stroke with its ends as far from the upper edge
as they are from the lower one of the figure, and the axes from the lower left pixel on. -/
theorem Palette.calls_standard {α : Type} [Scalar α] (axes : Bool) (width height : Int) (scaled : α)
    (strokes : List (Segment α)) : (Palette.standard axes).calls width height scaled strokes
      = .fill .ivory :: (strokes.map fun s => .smoothLine .black
          ⟨s.start.x, scaled - s.start.y⟩ ⟨s.finish.x, scaled - s.finish.y⟩)
        ++ if axes then
          [.line .scarlet (0, height - 1) (width / 2, height - 1),
            .line .scarlet (0, height - 1) (0, height / 2)]
        else [] := by
  have halved (n : Int) : n.fdiv 2 = n / 2 := Int.fdiv_eq_ediv_of_nonneg n (by decide)
  unfold calls axisCalls
  rw [halved, halved]
  rfl

/-- The sides of a canvas that can be held are binary64 numbers. -/
theorem exists_floatOfInt {n : Int} (positive : 0 < n) (small : n < twoTo 31) :
    ∃ x, floatOfInt? n = some x := by
  have sized : n.natAbs < twoTo 31 := by omega
  obtain ⟨m, nearest⟩ := Magnitude.exists_nearest Nat.one_pos (by omega) sized
  unfold floatOfInt?
  rw [nearest]
  exact ⟨_, rfl⟩

namespace Interpreter

variable {α : Type} [Scalar α] {i j : Interpreter α} {word : Word}

/-- Nothing stops a pass over a word, whatever it draws with and wherever it begins. -/
def Passes (i : Interpreter α) (word : Word) : Prop :=
  ∀ distance origin, (∃ box, (i.measure distance origin word).outcome = .ok box) ∧
    ∃ strokes, (i.draw distance origin word).outcome = .ok strokes

/-- Every pass over a word meets a fault, whatever it draws with and wherever it begins. -/
def Fails (i : Interpreter α) (word : Word) (fault : Fault) : Prop :=
  ∀ distance origin, (i.measure distance origin word).outcome = .error fault ∧
    (i.draw distance origin word).outcome = .error fault

theorem Stops.fails {distance : α} {origin : Point α} {count : Nat} {e : Fault}
    (h : i.Stops distance origin word count e) : i.Fails word e := by
  intro distance' origin'
  exact (h.elsewhere distance' origin').outcomes

theorem passes_or_fails (i : Interpreter α) (word : Word) :
    i.Passes word ∨ ∃ fault, i.Fails word fault := by
  obtain ⟨box, measured, -⟩ | ⟨count, e, stops, -, -⟩ := i.measure_cases 0 ⟨0, 0⟩ word
  · refine .inl fun distance origin => ⟨?_, exists_draw_of_measure measured distance origin⟩
    obtain ⟨box', measured', -⟩ | ⟨count, e, stops, -, -⟩ := i.measure_cases distance origin word
    · exact ⟨box', measured'⟩
    · cases measured.symm.trans (stops.fails 0 ⟨0, 0⟩).1
  · exact .inr ⟨e, stops.fails⟩

theorem not_passes_of_fails {fault : Fault} (fails : i.Fails word fault) : ¬i.Passes word := by
  intro passes
  obtain ⟨⟨box, measured⟩, -⟩ := passes 0 ⟨0, 0⟩
  cases measured.symm.trans (fails 0 ⟨0, 0⟩).1

end Interpreter

namespace Coordinator

/-- Growing leaves no fault behind as far as the system can go on. -/
theorem growTimes_faults {α : Type} {c : Coordinator α} (isOpen : c.isOpen = true) (n : Nat) :
    (c.growTimes n).coordinator.jobs.filterMap id = [] ↔
      c.jobs.filterMap id = [] ∧ c.system.CanGrow n := by
  induction n generalizing c with
  | zero => exact ⟨fun none => ⟨none, c.system.canGrow_zero⟩, And.left⟩
  | succ n ih =>
    unfold growTimes
    rw [if_pos isOpen]
    dsimp only
    cases grown : c.system.iterate.outcome with
    | error fault =>
      obtain ⟨-, -, job⟩ := grow_of_error grown
      have still : c.growJob.2.isOpen = true := job ▸ isOpen
      rw [ih still, job]
      simp [LSystem.not_canGrow_of_error grown]
    | ok next =>
      obtain ⟨-, job⟩ := grow_of_ok isOpen grown
      have still : c.growJob.2.isOpen = true := job ▸ isOpen
      rw [ih still, job, LSystem.canGrow_next_iff grown]
      simp

/-- Growing without a fault changes the system alone if nothing has been measured before. -/
theorem drain_growTimes {α : Type} {c : Coordinator α} (isOpen : c.isOpen = true)
    (fresh : c.measured = none) (idle : c.jobs = []) {n : Nat} (grows : c.system.CanGrow n) :
    (c.growTimes n).coordinator.drain
      = ([], { c with system := c.system.attempts n, measured := none, jobs := [] }) := by
  have faults : c.jobs.filterMap id = [] := by rw [idle]; rfl
  obtain ⟨jobs, grown⟩ := growTimes_eq isOpen n
  have unmeasured : (if c.system.successes n = 0 then c.measured else none) = none := by
    rw [fresh, ite_self]
  refine Prod.ext ((growTimes_faults isOpen n).mpr ⟨faults, grows⟩) ?_
  dsimp only [drain]
  rw [grown, unmeasured]

/-- A definition whose system can go on is grown to a generation, and that is all. -/
theorem drain_start_growTimes {α : Type} {d : Definition} {step : Int} {n : Nat}
    (grows : (d.build step).CanGrow n) (i : Interpreter α) (base : α) (size : Size α) :
    ((start (d.build step) i base size).growTimes n).coordinator.drain
      = ([], start ⟨d.seed, d.grammar, step, d.grammar.grow d.seed n, n⟩ i base size) := by
  have system : (d.build step).attempts n = ⟨d.seed, d.grammar, step, d.grammar.grow d.seed n, n⟩ :=
    (LSystem.attempts_of_canGrow grows).trans
      (congrArg (LSystem.mk d.seed d.grammar step _) (Nat.zero_add n))
  rw [← system]
  exact drain_growTimes rfl rfl rfl grows

section
variable {base : Float} {w h : Int}

/-- A first render on a canvas with sides succeeds exactly if the word can be walked over. -/
theorem start_pipeline (system : LSystem) (i : Interpreter Float) (base_pos : ¬base ≤ 0.0)
    (w_pos : 0 < w) (h_pos : 0 < h) (w_max : w < twoTo 31) (h_max : h < twoTo 31) :
    let c := start system i base ⟨.whole w, .whole h⟩
    c.pipeline.outcome = .ok () ↔ i.Passes system.word := by
  intro c
  obtain ⟨box, scale, strokes, inUse, fits, draws, -, ends, -⟩ | ⟨fault, broken, ends⟩ :=
    c.pipeline_told
  · have measured : (i.measure base ⟨0, 0⟩ system.word).outcome = .ok box := inUse
    obtain passes | ⟨fault, fails⟩ := i.passes_or_fails system.word
    · simp [ends, passes]
    · cases measured.symm.trans (fails base ⟨0, 0⟩).1
  · rw [ends]
    refine ⟨nofun, fun passes => ?_⟩
    have placed {box : Box Float} {scale : Scale Float} (fits : c.scaleInUse box = .ok scale) :
        ∃ origin, scale.origin = .ok origin := Scale.exists_origin_of_fit fits
    generalize c.pipeline.events = told at broken
    cases broken with
    | measuring unknown stops => exact (Interpreter.not_passes_of_fails stops.fails passes).elim
    | @fitting box e inUse unfit =>
      have width_pos : c.surface.size.width.isNonpositive = false :=
        decide_eq_false (by omega : ¬w ≤ 0)
      have height_pos : c.surface.size.height.isNonpositive = false :=
        decide_eq_false (by omega : ¬h ≤ 0)
      obtain ⟨distance, fits⟩ | ⟨-, huge | huge⟩ :=
        Scale.fit_cases box width_pos height_pos base_pos
      · cases fits.symm.trans unfit
      · obtain ⟨x, found⟩ := exists_floatOfInt w_pos w_max
        cases found.symm.trans huge
      · obtain ⟨x, found⟩ := exists_floatOfInt h_pos h_max
        cases found.symm.trans huge
    | placing inUse fits nowhere =>
      obtain ⟨origin, starts⟩ := placed fits
      cases starts.symm.trans nowhere
    | drawing inUse fits starts stops =>
      exact (Interpreter.not_passes_of_fails stops.fails passes).elim
    | surface inUse fits draws pending => cases pending

end

end Coordinator

theorem Studio.prepare_eq {around : Surroundings} {angle : Option Float} {width height : Option Int}
    {w₀ h₀ step : Int} {w h : Int32} {base : Float} (d : Definition)
    (canvas : around.env.canvasSize = .ok (w₀, h₀))
    (made : around.canvas (width.getD w₀, height.getD h₀) = .ok (w, h))
    (stepped : around.env.progressStep = .ok step) (based : around.env.baseDistance = .ok base) :
    Studio.prepare around d angle width height
      = .ok ⟨.start (d.build step) ⟨.degrees, angle.getD d.angle, step⟩ base
          ⟨.whole w.toInt, .whole h.toInt⟩, w.toInt, h.toInt, .standard around.env.debugAxes⟩ := by
  have system : LSystem.configured around.env d.seed d.grammar = .ok (d.build step) :=
    LSystem.configured_eq_ok_iff.mpr ⟨step, stepped, rfl⟩
  unfold prepare
  rw [canvas]
  dsimp only [orBreak, Except.mapError, bind, Except.bind]
  rw [made, stepped, system, based]
  rfl

/-- A command that ends badly and leaves no file. -/
structure Outcome.Unwritten (o : Outcome) : Prop where
  exit : o.exit = 1
  lines : o.lines = []
  picture : o.picture = none
  emptied : o.emptied = none

section
variable {around : Surroundings} {output : Path} {source : Source} {d : Definition}
  {n : Nat} {angle : Option Float} {width height : Option Int} {studio : Studio}

theorem renderCommand_of_not_canGrow (resolved : source.resolve around = .ok d)
    (prepared : Studio.prepare around d angle width height = .ok studio)
    (isOpen : studio.coordinator.isOpen = true) (stops : ¬studio.coordinator.system.CanGrow n) :
    ∃ o, renderCommand around output source n angle width height = .error o ∧ o.Unwritten := by
  have faults := mt (Coordinator.growTimes_faults isOpen n).mp fun all => stops all.2
  obtain ⟨fault, rest, left⟩ := List.exists_cons_of_ne_nil faults
  unfold renderCommand
  dsimp only [bind, Except.bind]
  rw [resolved]
  dsimp only
  rw [prepared]
  dsimp only [Coordinator.drain]
  rw [left]
  exact ⟨_, rfl, rfl, rfl, rfl, rfl⟩

/-- A generation whose render fails is not written. -/
theorem renderCommand_of_error (resolved : source.resolve around = .ok d)
    (prepared : Studio.prepare around d angle width height = .ok studio)
    {c : Coordinator Float} (grown : (studio.coordinator.growTimes n).coordinator.drain = ([], c))
    (isOpen : c.isOpen = true) (idle : c.jobs = []) {fault : Fault}
    (failed : c.pipeline.outcome = .error fault) :
    ∃ o, renderCommand around output source n angle width height = .error o ∧ o.Unwritten := by
  have left := (Coordinator.render_jobs isOpen).2 fault failed
  rw [idle, List.nil_append] at left
  obtain ⟨succeeded, -⟩ | ⟨told, fault', ends, broken, events⟩ := Coordinator.render_ends isOpen
  · cases failed.symm.trans succeeded
  unfold renderCommand
  dsimp only [bind, Except.bind]
  rw [resolved]
  dsimp only
  rw [prepared]
  dsimp only
  rw [grown]
  dsimp only [Coordinator.drain]
  rw [left, events]
  split
  · exact ⟨_, rfl, rfl, rfl, rfl, rfl⟩
  · exact ⟨_, rfl, rfl, rfl, rfl, rfl⟩
  next reports => simp [Coordinator.failureEvents] at reports

theorem renderCommand_of_ok (resolved : source.resolve around = .ok d)
    (prepared : Studio.prepare around d angle width height = .ok studio)
    {c : Coordinator Float} (grown : (studio.coordinator.growTimes n).coordinator.drain = ([], c))
    (isOpen : c.isOpen = true) (idle : c.jobs = []) (ends : c.pipeline.outcome = .ok ())
    (saves : ∀ calls, around.save ⟨output, studio.width, studio.height, calls⟩ = .written) :
    renderCommand around output source n angle width height = .ok
      { around.printing [writtenLine (some c.system.generation) d.name output] with
        picture := some ⟨output, studio.width, studio.height,
          studio.calls c.render.coordinator⟩ } := by
  have left := (Coordinator.render_jobs isOpen).1 ends
  rw [idle, List.nil_append] at left
  obtain ⟨-, ⟨box, scale, strokes, drawn⟩, events⟩ | ⟨told, fault, failed, -, -⟩ :=
    Coordinator.render_ends isOpen
  · have kept := drawn.measuredGeneration
    unfold renderCommand
    dsimp only [bind, Except.bind]
    rw [resolved]
    dsimp only
    rw [prepared]
    dsimp only
    rw [grown]
    dsimp only [Coordinator.drain]
    rw [left, events]
    split
    next found => cases found
    next report rest _ reports =>
      have first : report ∈ report :: rest := List.mem_cons_self
      rw [← reports] at first
      obtain ⟨event, told, made⟩ := List.mem_filterMap.mp first
      cases event with
      | error m =>
        have begun : Event.error m ∈ c.course := by simpa using told
        cases c.isVerdict_course begun
      | _ => cases made
    next =>
      rw [saves, kept]
      rfl
  · cases ends.symm.trans failed

theorem Command.execute_render_of_error {o : Outcome}
    (ended : renderCommand around output source n angle width height = .error o) :
    (Command.render output source n angle width height).execute around = o := by
  unfold execute
  dsimp only
  rw [ended]

end

section
variable {around : Surroundings} {output : Path} {source : Source} {d : Definition} (n : Nat)
  (angle : Option Float) (width height : Option Int) {w₀ h₀ step : Int} {w h : Int32} {base : Float}

/-- What a command to render a generation leaves: nothing, or a picture of the strokes of its word
at the scale that fits the canvas, and the line that tells of it as far as it can be printed. -/
theorem Command.execute_render_cases (resolved : source.resolve around = .ok d)
    (canvas : around.env.canvasSize = .ok (w₀, h₀))
    (made : around.canvas (width.getD w₀, height.getD h₀) = .ok (w, h))
    (w_pos : 0 < w.toInt) (h_pos : 0 < h.toInt) (stepped : around.env.progressStep = .ok step)
    (based : around.env.baseDistance = .ok base)
    (saves : ∀ calls, around.save ⟨output, w.toInt, h.toInt, calls⟩ = .written) :
    let i : Interpreter Float := ⟨.degrees, angle.getD d.angle, step⟩
    let word := d.grammar.grow d.seed n
    let o := (Command.render output source n angle width height).execute around
    (o.Unwritten ∧ ¬((d.build step).CanGrow n ∧ i.Passes word)) ∨
    ((d.build step).CanGrow n ∧ i.Passes word ∧
      ∃ box scale origin strokes y, (i.measure base ⟨0, 0⟩ word).outcome = .ok box ∧
        Scale.fit box ⟨.whole w.toInt, .whole h.toInt⟩ base = .ok scale ∧
        scale.origin = .ok origin ∧ (i.draw scale.distance origin word).outcome = .ok strokes ∧
        floatOfInt? h.toInt = some y ∧
        o = { around.printing [writtenLine (some n) d.name output] with
          picture := some ⟨output, w.toInt, h.toInt,
            (Palette.standard around.env.debugAxes).calls w.toInt h.toInt y strokes⟩ }) := by
  intro i word o
  have w_max : w.toInt < twoTo 31 := w.toInt_lt
  have h_max : h.toInt < twoTo 31 := h.toInt_lt
  have base_pos := Environment.not_nonpositive_of_baseDistance based
  have prepared : Studio.prepare around d angle width height = .ok _ :=
    Studio.prepare_eq d canvas made stepped based
  by_cases grows : (d.build step).CanGrow n
  · let c : Coordinator Float :=
      .start ⟨d.seed, d.grammar, step, word, n⟩ i base ⟨.whole w.toInt, .whole h.toInt⟩
    have grown := Coordinator.drain_start_growTimes grows i base ⟨.whole w.toInt, .whole h.toInt⟩
    have draws : c.pipeline.outcome = .ok () ↔ i.Passes word :=
      Coordinator.start_pipeline _ i base_pos w_pos h_pos w_max h_max
    obtain ⟨ends, ⟨box, scale, strokes, drawn⟩, -⟩ | ⟨-, fault, failed, -, -⟩ :=
      Coordinator.render_ends (c := c) rfl
    · have ended := renderCommand_of_ok resolved prepared grown rfl rfl ends saves
      obtain ⟨origin, starts, painted⟩ := Coordinator.strokesAt_eq_ok_iff.mp drawn.draws
      obtain ⟨y, scaled⟩ := exists_floatOfInt h_pos h_max
      refine .inr ⟨grows, draws.mp ends, box, scale, origin, strokes, y, drawn.inUse, drawn.fits,
        starts, painted, scaled, ?_⟩
      have height : (Scalar.ofInt? h.toInt : Option Float).getD 0 = y := congrArg (·.getD 0) scaled
      unfold o execute
      dsimp only
      rw [ended]
      dsimp only [Studio.calls]
      rw [drawn.render_strokes, height]
      rfl
    · obtain ⟨o', ended, bad⟩ := renderCommand_of_error resolved prepared grown rfl rfl failed
      have left : o = o' := execute_render_of_error ended
      refine .inl ⟨left ▸ bad, fun all => ?_⟩
      cases failed.symm.trans (draws.mpr all.2)
  · obtain ⟨o', ended, bad⟩ := renderCommand_of_not_canGrow resolved prepared rfl grows
    have left : o = o' := execute_render_of_error ended
    exact .inl ⟨left ▸ bad, fun all => grows all.1⟩

/-- A command to render a generation writes a picture exactly if the word of that generation can be
grown and walked over: one that shows the strokes of the word at the scale that fits the canvas,
turned over, and nothing else but the axes. Then a line tells of it and the command ends well,
unless the output refuses the line. Without a picture it ends badly and leaves no file. -/
theorem Command.render_written (resolved : source.resolve around = .ok d)
    (canvas : around.env.canvasSize = .ok (w₀, h₀))
    (made : around.canvas (width.getD w₀, height.getD h₀) = .ok (w, h))
    (w_pos : 0 < w.toInt) (h_pos : 0 < h.toInt) (stepped : around.env.progressStep = .ok step)
    (based : around.env.baseDistance = .ok base)
    (saves : ∀ calls, around.save ⟨output, w.toInt, h.toInt, calls⟩ = .written) :
    let i : Interpreter Float := ⟨.degrees, angle.getD d.angle, step⟩
    let o := (Command.render output source n angle width height).execute around
    let line := Text.ofString ("Wrote generation " ++ toString n ++ " of ") ++ d.name
      ++ Text.ofString " to " ++ output.text
    ∃ word, d.grammar.expand d.seed n = .ok word ∧
      (i.Passes word ∨ ∃ fault, i.Fails word fault) ∧
      (o.picture.isSome = true ↔ (d.build step).CanGrow n ∧ i.Passes word) ∧
      ((∀ k < n, (d.grammar.grow d.seed k).length < twoTo 1000) →
        (o.picture.isSome = true ↔ i.Passes word)) ∧
      (o.picture = none → o.exit = 1 ∧ o.lines = [] ∧ o.emptied = none) ∧
      ∀ picture, o.picture = some picture → o.failed = none ∧ o.emptied = none ∧
        ((∃ shown, around.echo line = .ok shown ∧ o.lines = [shown] ∧ o.exit = 0 ∧
            o.broken = none) ∨
          ∃ fault, around.echo line = .error fault ∧ o.lines = [] ∧ o.exit = 1 ∧
            o.broken = some (.host fault)) ∧
        (around.PrintsPlain → Text.Plain d.name → Text.Plain output.text →
          o.lines = [line] ∧ o.exit = 0) ∧
        ∃ box scale origin strokes y, (i.measure base ⟨0, 0⟩ word).outcome = .ok box ∧
          Scale.fit box ⟨.whole w.toInt, .whole h.toInt⟩ base = .ok scale ∧
          scale.origin = .ok origin ∧ (i.draw scale.distance origin word).outcome = .ok strokes ∧
          floatOfInt? h.toInt = some y ∧
          picture = ⟨output, w.toInt, h.toInt, .fill .ivory :: (strokes.map fun s =>
              .smoothLine .black ⟨s.start.x, y - s.start.y⟩ ⟨s.finish.x, y - s.finish.y⟩)
            ++ if around.env.debugAxes then
              [.line .scarlet (0, h.toInt - 1) (w.toInt / 2, h.toInt - 1),
                .line .scarlet (0, h.toInt - 1) (0, h.toInt / 2)]
            else []⟩ := by
  intro i o line
  let word := d.grammar.grow d.seed n
  have short (all : ∀ k < n, (d.grammar.grow d.seed k).length < twoTo 1000) :
      (d.build step).CanGrow n := by
    obtain ⟨least, most⟩ := Environment.progressStep_within stepped
    exact LSystem.canGrow_of_percentage least most (Nat.le_refl 1000) all
  have written : (o.Unwritten ∧ ¬((d.build step).CanGrow n ∧ i.Passes word)) ∨ _ :=
    execute_render_cases n angle width height resolved canvas made w_pos h_pos stepped based saves
  refine ⟨word, d.grammar.expand_natCast d.seed n, i.passes_or_fails word, ?_⟩
  obtain ⟨bad, fails⟩ | ⟨grows, passes, box, scale, origin, strokes, y, measured, fits, starts,
    drawn, scaled, ended⟩ := written
  · have unwritten := bad.picture
    refine ⟨?_, ?_, ?_, ?_⟩
    · simp [unwritten, fails]
    · intro all
      have stops : ¬i.Passes word := fun passes => fails ⟨short all, passes⟩
      simp [unwritten, stops]
    · exact fun _ => ⟨bad.exit, bad.lines, bad.emptied⟩
    · intro picture shown
      cases unwritten.symm.trans shown
  · have left : o = _ := ended
    rw [left]
    refine ⟨?_, ?_, ?_, ?_⟩
    · simp [grows, passes, i, word]
    · simp [passes, i, word]
    · intro none
      cases none
    · rintro picture ⟨⟩
      have reported : Text.Plain d.name → Text.Plain output.text → Text.Plain line :=
        plain_writtenLine n
      refine ⟨around.printing_failed _, around.printing_emptied _, around.printing_singleton line,
        ?_, box, scale, origin, strokes, y, measured, fits, starts, drawn, scaled, ?_⟩
      · intro prints named placed
        have shown := prints line (reported named placed)
        obtain ⟨text, echoed, lines, exit, -⟩ | ⟨fault, refused, -⟩ :=
          around.printing_singleton line
        · cases shown.symm.trans echoed
          exact ⟨lines, exit⟩
        · cases shown.symm.trans refused
      · rw [Palette.calls_standard]

/-- A first generation of Koch's curve with its four strokes, on a canvas with axes. -/
theorem Command.koch_written :
    let axes : Environment := fun name =>
      if name = "LINDENMAYER_DEBUG_AXES" then some "on" else none
    let around : Surroundings := { Surroundings.ofFile 900 .empty with env := axes }
    let i : Interpreter Float := ⟨.degrees, 60.0, 5⟩
    let source : Source := ⟨"koch", none⟩
    let o := (Command.render (.ofText "k.png") source 1 none (some 40) (some 30)).execute around
    i.Passes (Text.ofString "F+F--F+F") ∧ o.exit = 0 ∧
      o.lines = [Text.ofString "Wrote generation 1 of koch to k.png"] ∧
      ∃ strokes : List (Segment Float), strokes.length = 4 ∧
        o.picture = some ⟨.ofText "k.png", 40, 30, .fill .ivory :: (strokes.map fun s =>
            .smoothLine .black ⟨s.start.x, 30.0 - s.start.y⟩ ⟨s.finish.x, 30.0 - s.finish.y⟩)
          ++ [.line .scarlet (0, 29) (20, 29), .line .scarlet (0, 29) (0, 15)]⟩ := by
  intro axes around i source o
  let d := Definition.presets[4]
  have resolved : source.resolve around = .ok d := rfl
  have canvas : around.env.canvasSize = .ok (800, 600) := by decide +kernel
  have made : around.canvas ((some 40).getD 800, (some 30).getD 600) = .ok (40, 30) := rfl
  have stepped : around.env.progressStep = .ok 5 := by decide +kernel
  have based : around.env.baseDistance = .ok 10.0 := by decide +kernel
  have short : ∀ k < 1, (d.grammar.grow d.seed k).length < twoTo 1000 := by decide +kernel
  obtain ⟨word, expanded, -, -, written, -, shown⟩ :=
    Command.render_written 1 none (some 40) (some 30) resolved canvas made (by decide) (by decide)
      stepped based fun _ => rfl
  have first : d.grammar.expand d.seed 1 = .ok (Text.ofString "F+F--F+F") := by decide +kernel
  obtain rfl : word = Text.ofString "F+F--F+F" := by
    cases expanded.symm.trans first
    rfl
  -- Its turns keep the headings finite and it has no brackets, so nothing stops a pass.
  have kept : ¬i.LosesWay (Text.ofString "F+F--F+F") := by decide +kernel
  have covered : Covered (Text.ofString "F+F--F+F") := by decide +kernel
  have passes : i.Passes (Text.ofString "F+F--F+F") := by
    intro distance origin
    obtain ⟨box, strokes, measured, drawn⟩ | ⟨index, underflow, -⟩ :=
      Interpreter.passes_of_not_losesWay rfl (by decide) kept distance origin
    · exact ⟨⟨box, measured⟩, strokes, drawn⟩
    · exact ((neverUnderflows_of_covered covered i distance origin index).1 underflow).elim
  obtain ⟨picture, made⟩ := Option.isSome_iff_exists.mp ((written short).mpr passes)
  obtain ⟨-, -, -, reports, box, scale, origin, strokes, y, -, -, -, drawn, scaled, rfl⟩ :=
    shown picture made
  have placed : Text.Plain (Path.ofText "k.png").text := by decide
  obtain ⟨lines, exit⟩ := reports (Surroundings.printsPlain_ofFile 900 .empty) (by decide) placed
  have thirty : floatOfInt? 30 = some 30.0 := by decide +kernel
  cases thirty.symm.trans scaled
  exact ⟨passes, exit, lines, strokes, Interpreter.length_of_draw drawn, made⟩

/-- A name that has no bytes is not reported, although the picture is written by then. -/
theorem Command.written_not_reported :
    let file := "\x7b\"axiom\": \"X\", \"name\": \"\\ud800\"\x7d"
    let around := Surroundings.ofFile 900 file.toUTF8
    let source : Source := ⟨"plant", some (.ofText "d.json")⟩
    let o := (Command.render (.ofText "o.png") source 0 none (some 40) (some 30)).execute around
    (source.resolve around).toOption.map Definition.name = some [.surrogate 0] ∧
      o.picture.map Picture.path = some (.ofText "o.png") ∧ o.exit = 1 ∧ o.lines = [] := by
  decide +kernel

end

end LSystems
