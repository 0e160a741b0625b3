import LSystems.Viewer
import LSystems.Proofs.Effects
import LSystems.Proofs.FailedRender
import LSystems.Proofs.LostWay
import LSystems.Proofs.Percentages
import LSystems.Proofs.RenderEvents

namespace LSystems

section
variable {α : Type} [Scalar α]

theorem Interpreter.Stops.report {i : Interpreter α} {distance : α} {origin : Point α} {word : Word}
    {count : Nat} {e : Fault} (h : i.Stops distance origin word count e) :
    e.report = e.message := by
  cases h with
  | step low => rfl
  | symbol step parts reached fails =>
    obtain ⟨-, -, rfl⟩ | ⟨-, -, rfl⟩ := obey_error_iff.mp fails
    · rfl
    · rfl

theorem quotient_report {a b : α} {e : Fault} (failed : quotient a b = .error e) :
    e.report = e.message := by
  unfold quotient at failed
  split at failed
  · cases failed
    rfl
  · cases failed

theorem Scale.origin_report {scale : Scale α} {e : Fault} (nowhere : scale.origin = .error e) :
    e.report = e.message := by
  unfold origin factor at nowhere
  cases divided : quotient scale.distance scale.base with
  | ok factor =>
    rw [divided] at nowhere
    cases nowhere
  | error fault =>
    rw [divided] at nowhere
    cases nowhere
    exact quotient_report divided

theorem Scale.fit_report {box : Box α} {size : Size α} {base : α} {e : Fault}
    (unfit : Scale.fit box size base = .error e) : e.report = e.message := by
  unfold fit at unfit
  dsimp only at unfit
  generalize (if box.height < box.width then box.width else box.height) = extent at unfit
  generalize (if box.height < box.width then size.width else size.height) = side at unfit
  split_ifs at unfit with flat low none
  · cases unfit
    rfl
  · cases unfit
    rfl
  -- With an extent, only the side and the quotient are left to fail.
  · cases found : side.toScalar? with
    | none =>
      rw [found] at unfit
      cases unfit
      rfl
    | some length =>
      rw [found] at unfit
      dsimp only at unfit
      cases divided : quotient (length * base) extent with
      | ok distance =>
        rw [divided] at unfit
        cases unfit
      | error fault =>
        rw [divided] at unfit
        cases unfit
        exact quotient_report divided

end

namespace Coordinator

variable {α : Type} {c : Coordinator α}

theorem growTimes_one (isOpen : c.isOpen = true) :
    c.growTimes 1 = ⟨c.growJob.1, c.growJob.2, none⟩ := by
  unfold growTimes
  rw [if_pos isOpen]
  dsimp only
  unfold growTimes
  rw [List.append_nil]

theorem grown_not_mem_course (c : Coordinator α) (generation : Nat) :
    .grown generation ∉ c.course := by
  unfold course measuring pass
  split <;> simp

theorem course_ends (step : 1 ≤ c.interpreter.step) :
    ∃ before, c.course = before ++ [.progress 100, .status .rendered] := by
  obtain ⟨front, reported, -⟩ := (Interpreter.complete_reports step c.system.word).exists_front
  have passed : c.pass = front.map .progress ++ [.progress 100] := by
    unfold pass
    rw [reported, List.map_append]
    rfl
  refine ⟨c.measuring
    ++ .stage .scaling :: .progress 100 :: .stage .drawing :: front.map .progress, ?_⟩
  unfold course
  rw [passed]
  simp

section
variable [Scalar α]

/-- A render ends as its work does, and says so last. -/
theorem render_ends (isOpen : c.isOpen = true) :
    (c.pipeline.outcome = .ok () ∧ (∃ box scale strokes, c.Draws box scale strokes) ∧
      c.render.events = c.course ++ [.stage .idle, .rendered]) ∨
    ∃ told fault, c.pipeline.outcome = .error fault ∧ c.BreaksOff told fault ∧
      c.render.events = told ++ failureEvents fault := by
  unfold render renderJob
  rw [if_pos isOpen]
  dsimp only
  obtain ⟨box, scale, strokes, inUse, fits, draws, unhindered, ends, told⟩ |
    ⟨fault, broken, ends⟩ := c.pipeline_told
  · rw [ends, told]
    exact .inl ⟨rfl, ⟨box, scale, strokes, isOpen, inUse, fits, draws, unhindered⟩, rfl⟩
  · rw [ends]
    exact .inr ⟨_, fault, rfl, broken, rfl⟩

theorem grown_not_mem_render (isOpen : c.isOpen = true) (generation : Nat) :
    .grown generation ∉ c.render.events := by
  have course := c.grown_not_mem_course generation
  obtain ⟨-, -, told⟩ | ⟨told, fault, -, broken, ends⟩ := c.render_ends isOpen
  · rw [told]
    simpa using course
  · have silent : .grown generation ∉ told := fun mem => course (broken.prefix_course.subset mem)
    rw [ends]
    simpa [failureEvents] using silent

/-- Only a fault of the surface may be reported by anything but its text. -/
theorem BreaksOff.report {told : List Event} {e : Fault} (h : c.BreaksOff told e)
    (unhindered : c.surface.pending = []) : e.report = e.message := by
  cases h with
  | measuring unknown stops => exact stops.report
  | fitting inUse unfit =>
    unfold scaleInUse at unfit
    split at unfit
    next => cases unfit
    next => exact Scale.fit_report unfit
  | placing inUse fits nowhere =>
    exact Scale.origin_report nowhere
  | drawing inUse fits placed stops => exact stops.report
  | surface inUse fits draws pending => cases unhindered.symm.trans pending

theorem Draws.measuredGeneration {box : Box α} {scale : Scale α} {strokes : List (Segment α)}
    (h : c.Draws box scale strokes) :
    c.render.coordinator.measuredGeneration = some c.system.generation := by
  have kept : c.render.coordinator.keptBox? = some box := by
    rw [h.alike.keptBox, withScale_keptBox]
    exact withBox_keptBox h.inUse
  unfold Coordinator.measuredGeneration
  rw [measured_of_keptBox kept, h.render_system]
  rfl

end

end Coordinator

namespace ViewerStatus

variable {s : ViewerStatus}

/-- The status while a generation is being grown. -/
def awaiting (s : ViewerStatus) : ViewerStatus :=
  { s with busy := true, message := "Iterating..." }

theorem beginGrowth_of_free (free : s.busy = false) : s.beginGrowth = (true, s.awaiting) := by
  unfold beginGrowth
  rw [free]
  rfl

theorem beginGrowth_of_busy (busy : s.busy = true) : s.beginGrowth = (false, s) := by
  unfold beginGrowth
  rw [busy]
  rfl

/-- Only news of a new generation free a viewer. -/
theorem foldl_notice_busy {events : List Event}
    (silent : ∀ generation, .grown generation ∉ events) :
    (events.foldl notice s).busy = s.busy := by
  induction events generalizing s with
  | nil => rfl
  | cons event events ih =>
    have later : ∀ generation, .grown generation ∉ events :=
      fun generation mem => silent generation (List.mem_cons_of_mem _ mem)
    rw [List.foldl_cons, ih later]
    cases event with
    | grown generation => exact (silent generation List.mem_cons_self).elim
    | _ => rfl

/-- A picture that is there stays, and one comes with the news of a render only. -/
theorem foldl_notice_frameReady (events : List Event) :
    (events.foldl notice s).frameReady = true ↔ s.frameReady = true ∨ .rendered ∈ events := by
  have unmoved {s : ViewerStatus} {event : Event} (other : event ≠ .rendered) :
      (s.notice event).frameReady = s.frameReady := by
    cases event with
    | rendered => exact (other rfl).elim
    | _ => rfl
  have moved (s : ViewerStatus) : (s.notice .rendered).frameReady = true := rfl
  induction events generalizing s with
  | nil => simp
  | cons event events ih =>
    simp only [List.foldl_cons, ih, List.mem_cons]
    by_cases told : event = .rendered
    · subst told
      simp [moved]
    · simp [unmoved told, Ne.symm told]

end ViewerStatus

namespace Viewer

variable {α : Type} [Scalar α] {v : Viewer α}

theorem handle_of_free (free : v.status.busy = false) :
    v.handle .nextGeneration = (true, { v with status := v.status.awaiting }.grow) := by
  unfold handle
  rw [ViewerStatus.beginGrowth_of_free free]

theorem handle_of_busy (busy : v.status.busy = true) : v.handle .nextGeneration = (true, v) := by
  unfold handle
  rw [ViewerStatus.beginGrowth_of_busy busy]

/-- A viewer whose system cannot go on stays as it is, but for the fault of the job. -/
theorem grow_of_error (isOpen : v.coordinator.isOpen = true) {fault : Fault}
    (failed : v.coordinator.system.iterate.outcome = .error fault) :
    v.grow = { v with coordinator := v.coordinator.growJob.2 } := by
  unfold Viewer.grow absorb
  dsimp only
  rw [Coordinator.growTimes_one isOpen, (Coordinator.grow_of_error failed).2.2]
  rfl

/-- A viewer whose system goes on is told so and renders the new generation. -/
theorem grow_of_ok (isOpen : v.coordinator.isOpen = true) {next : LSystem}
    (grown : v.coordinator.system.iterate.outcome = .ok next) :
    v.grow = (v.absorb ⟨v.coordinator.growJob.1, v.coordinator.growJob.2, none⟩).render := by
  unfold Viewer.grow
  dsimp only
  rw [Coordinator.growTimes_one isOpen, (Coordinator.grow_of_ok isOpen grown).2]
  rw [if_pos (by simp)]

/-- To grow is to be told of a new generation, free again, and to render it; or it fails. -/
theorem grow_cases (isOpen : v.coordinator.isOpen = true) :
    (∃ fault, v.coordinator.system.iterate.outcome = .error fault ∧ v.grow = { v with
      coordinator := { v.coordinator with jobs := v.coordinator.jobs ++ [some fault] } }) ∨
    ∃ (next : LSystem) (w : Viewer α), v.coordinator.system.iterate.outcome = .ok next ∧
      w.coordinator = { v.coordinator with
        system := next, measured := none, jobs := v.coordinator.jobs ++ [none] } ∧
      w.status.busy = false ∧ w.status.frameReady = v.status.frameReady ∧ v.grow = w.render := by
  cases grown : v.coordinator.system.iterate.outcome with
  | error fault =>
    obtain ⟨-, -, job⟩ := Coordinator.grow_of_error grown
    rw [grow_of_error isOpen grown, job]
    exact .inl ⟨fault, rfl, rfl⟩
  | ok next =>
    obtain ⟨-, job⟩ := Coordinator.grow_of_ok isOpen grown
    rw [grow_of_ok isOpen grown, job]
    refine .inr ⟨next, _, rfl, rfl, ?_, ?_, rfl⟩
    · exact congrArg ViewerStatus.busy (List.foldl_append (f := ViewerStatus.notice))
    · rw [Bool.eq_iff_iff]
      refine (ViewerStatus.foldl_notice_frameReady _).trans ?_
      simp

/-- What a viewer shows after one render of a coordinator, and the job that the render leaves
behind; the flag tells whether a picture was there before. -/
structure Shows (v : Viewer α) (ready : Bool) (d : Coordinator α) : Prop where
  coordinator : v.coordinator = d.render.coordinator
  drawn : d.pipeline.outcome = .ok () →
    v.status.message = Status.rendered.text ∧ v.status.progress = 100 ∧
      v.status.frameReady = true ∧ v.coordinator.measuredGeneration = some d.system.generation ∧
      v.coordinator.jobs = d.jobs ++ [none]
  failed : ∀ fault, d.pipeline.outcome = .error fault →
    v.status.message = fault.message ∧ v.status.frameReady = ready ∧
      v.coordinator.jobs = d.jobs ++ [if fault.isExpected then none else some fault]

theorem render_shows (isOpen : v.coordinator.isOpen = true)
    (unhindered : v.coordinator.surface.pending = []) (step : 1 ≤ v.coordinator.interpreter.step) :
    v.render.Shows v.status.frameReady v.coordinator := by
  obtain ⟨success, failure⟩ := Coordinator.render_jobs isOpen
  have shown : v.render.status = v.coordinator.render.events.foldl .notice v.status := rfl
  refine ⟨rfl, ?_, ?_⟩
  · intro ends
    obtain ⟨-, ⟨box, scale, strokes, drawn⟩, told⟩ | ⟨told, fault, failed, -, -⟩ :=
      Coordinator.render_ends isOpen
    · obtain ⟨before, course⟩ := Coordinator.course_ends step
      rw [told, course, List.append_assoc, List.foldl_append] at shown
      rw [shown]
      exact ⟨rfl, rfl, rfl, drawn.measuredGeneration, success ends⟩
    · cases ends.symm.trans failed
  · intro fault ends
    obtain ⟨succeeded, -, -⟩ | ⟨told, fault', failed, broken, events⟩ :=
      Coordinator.render_ends isOpen
    · cases ends.symm.trans succeeded
    · cases ends.symm.trans failed
      have unshown : Event.rendered ∉ told := fun mem => by
        cases v.coordinator.isVerdict_course (broken.prefix_course.subset mem)
      have ready : (told.foldl .notice v.status).frameReady = v.status.frameReady := by
        rw [Bool.eq_iff_iff, ViewerStatus.foldl_notice_frameReady]
        simp [unshown]
      rw [events, List.foldl_append] at shown
      rw [shown]
      exact ⟨broken.report unhindered, ready, failure fault ends⟩

/-- The viewer after a run of commands, all jobs of each waited for. -/
def run (v : Viewer α) (commands : List ViewerCommand) : Viewer α :=
  commands.foldl (fun v command => (v.handle command).2.drain.2) v

/-- A viewer of a coordinator after so many commands for a new generation. -/
structure After (c : Coordinator α) (n : Nat) (v : Viewer α) : Prop where
  isOpen : v.coordinator.isOpen = true
  unhindered : v.coordinator.surface.pending = []
  step : v.coordinator.interpreter.step = c.interpreter.step
  system : v.coordinator.system = c.system.attempts n
  busy : v.status.busy = true ↔ ¬c.system.CanGrow n

namespace After

variable {c : Coordinator α} {n : Nat}

omit [Scalar α] in
theorem drained (h : v.After c n) : v.drain.2.After c n :=
  ⟨h.isOpen, h.unhindered, h.step, h.system, h.busy⟩

theorem render (h : v.After c n) : v.render.After c n := by
  have same := v.coordinator.render_sameWork
  have pending : v.render.coordinator.surface.pending = [] := by
    obtain ⟨-, -, -, -, left⟩ | ⟨-, left⟩ := Coordinator.render_pending h.isOpen
    · exact left.trans (congrArg List.tail h.unhindered)
    · exact left.trans h.unhindered
  have busy : v.render.status.busy = v.status.busy :=
    ViewerStatus.foldl_notice_busy (Coordinator.grown_not_mem_render h.isOpen)
  exact ⟨same.isOpen.trans h.isOpen, pending,
    (congrArg Interpreter.step same.interpreter).trans h.step,
    same.system.trans h.system, busy ▸ h.busy⟩

/-- The command for a new generation makes the system grow by one, which is then rendered; or the
system cannot go on, and nothing is rendered. -/
theorem next (h : v.After c n) :
    (c.system.CanGrow (n + 1) ∧ ∃ (next : LSystem) (w : Viewer α),
      v.coordinator.system.iterate.outcome = .ok next ∧
      w.coordinator = { v.coordinator with
        system := next, measured := none, jobs := v.coordinator.jobs ++ [none] } ∧
      w.status.busy = false ∧ w.status.frameReady = v.status.frameReady ∧
      v.handle .nextGeneration = (true, w.render)) ∨
    (¬c.system.CanGrow (n + 1) ∧ v.coordinator.system.attempt = v.coordinator.system ∧
      ∃ status jobs, status.busy = true ∧ status.frameReady = v.status.frameReady ∧
        v.handle .nextGeneration = (true, { v with
          coordinator := { v.coordinator with jobs := jobs }, status := status })) := by
  cases busy : v.status.busy with
  | true =>
    have stops := h.busy.mp busy
    obtain ⟨fault, failed⟩ := LSystem.iterate_of_not_canGrow stops
    rw [← h.system] at failed
    refine .inr ⟨fun grows => stops (grows.of_le (Nat.le_succ n)), LSystem.attempt_of_error failed,
      v.status, v.coordinator.jobs, busy, rfl, Viewer.handle_of_busy busy⟩
  | false =>
    have grows : c.system.CanGrow n := by
      by_contra stops
      cases busy.symm.trans (h.busy.mpr stops)
    rw [LSystem.canGrow_succ_iff, ← h.system, Viewer.handle_of_free busy]
    obtain ⟨fault, failed, ends⟩ | ⟨next, w, grown, left, freed, ready, ends⟩ :=
      Viewer.grow_cases (v := { v with status := v.status.awaiting }) h.isOpen
    · rw [ends]
      exact .inr ⟨by simp [failed], LSystem.attempt_of_error failed, v.status.awaiting, _, rfl, rfl,
        rfl⟩
    · rw [ends]
      exact .inl ⟨⟨grows, next, grown⟩, next, w, grown, left, freed, ready, rfl⟩

theorem handle (h : v.After c n) (command : ViewerCommand) :
    (v.handle command).2.After c (if command = .nextGeneration then n + 1 else n) := by
  cases command with
  | quit => exact h
  | render => exact h.render
  | nextGeneration =>
    rw [if_pos rfl]
    obtain ⟨grows, next, w, grown, left, freed, -, ends⟩ |
      ⟨stops, stayed, status, jobs, busy, -, ends⟩ := h.next
    · have onward : c.system.attempts (n + 1) = next := by
        rw [LSystem.attempts_succ, ← h.system]
        exact LSystem.attempt_of_ok grown
      have told : w.After c (n + 1) := by
        refine ⟨?_, ?_, ?_, ?_, ?_⟩
        · rw [left]; exact h.isOpen
        · rw [left]; exact h.unhindered
        · rw [left]; exact h.step
        · rw [left]; exact onward.symm
        · simp [freed, grows]
      rw [ends]
      exact told.render
    · have system : v.coordinator.system = c.system.attempts (n + 1) := by
        rw [LSystem.attempts_succ, ← h.system, stayed]
      rw [ends]
      exact ⟨h.isOpen, h.unhindered, h.step, system, by simp [busy, stops]⟩

theorem run (h : v.After c n) (commands : List ViewerCommand) :
    (v.run commands).After c (n + commands.count .nextGeneration) := by
  induction commands generalizing v n with
  | nil => exact h
  | cons command commands ih =>
    have onward := ih (h.handle command).drained
    rw [List.count_cons]
    by_cases next : command = .nextGeneration
    · subst next
      rw [if_pos rfl] at onward
      rw [if_pos (beq_self_eq_true _), Nat.add_comm _ 1, ← Nat.add_assoc]
      exact onward
    · rw [if_neg next] at onward
      rw [if_neg (by simpa using next)]
      exact onward

end After

theorem run_jobs (idle : v.coordinator.jobs = []) (commands : List ViewerCommand) :
    (v.run commands).coordinator.jobs = [] := by
  induction commands generalizing v with
  | nil => exact idle
  | cons command commands ih => exact ih rfl

theorem handle_fst (v : Viewer α) (command : ViewerCommand) :
    (v.handle command).1 = false ↔ command = .quit := by
  cases command with
  | quit => simp [handle]
  | render => simp [handle]
  | nextGeneration =>
    cases busy : v.status.busy with
    | true => simp [handle_of_busy busy]
    | false => simp [handle_of_free busy]

theorem render_frameReady (ready : v.status.frameReady = true) :
    v.render.status.frameReady = true :=
  (ViewerStatus.foldl_notice_frameReady _).mpr (.inl ready)

/-- After whatever commands to a viewer just opened, each waited for: the generation tells how many
rewrites have succeeded, which is all that were asked for as long as the system can go on. A command
to render, and one for a new generation that can be grown, leads to one render of the generation
that there is then, and the viewer shows how it has ended. A generation that cannot be grown is not
rendered, and the viewer stays busy. -/
theorem run_handled (c : Coordinator α) (title : Text) (isOpen : c.isOpen = true)
    (unhindered : c.surface.pending = []) (idle : c.jobs = []) (step : 1 ≤ c.interpreter.step)
    (commands : List ViewerCommand) :
    let v := (start c title).run commands
    let n := commands.count .nextGeneration
    v.coordinator.jobs = [] ∧
    v.coordinator.system.generation = c.system.generation + c.system.successes n ∧
    (c.system.successes n = n ↔ c.system.CanGrow n) ∧
    (v.status.busy = true ↔ ¬c.system.CanGrow n) ∧
    v.handle .quit = (false, v) ∧
    (∀ command, ((v.handle command).1 = false ↔ command = .quit) ∧
      (v.status.frameReady = true → (v.handle command).2.status.frameReady = true)) ∧
    (v.handle .render).2.Shows v.status.frameReady v.coordinator ∧
    (c.system.CanGrow (n + 1) → ∃ next, v.coordinator.system.iterate.outcome = .ok next ∧
      next.generation = c.system.generation + (n + 1) ∧
      (v.handle .nextGeneration).2.Shows v.status.frameReady
        { v.coordinator with system := next, measured := none, jobs := [none] }) ∧
    (¬c.system.CanGrow (n + 1) → ∃ status jobs,
      status.busy = true ∧ status.frameReady = v.status.frameReady ∧
      v.handle .nextGeneration = (true, { v with
        coordinator := { v.coordinator with jobs := jobs }, status := status })) := by
  intro v n
  have opened : (start c title).After c 0 := by
    have busy : (start c title).status.busy = false := rfl
    exact ⟨isOpen, unhindered, rfl, rfl, by simp [busy, LSystem.canGrow_zero]⟩
  have after : v.After c n := Nat.zero_add n ▸ opened.run commands
  have jobs : v.coordinator.jobs = [] := run_jobs idle commands
  have generation : v.coordinator.system.generation
      = c.system.generation + c.system.successes n := by
    rw [after.system, LSystem.attempts_eq]
  refine ⟨jobs, generation, LSystem.successes_eq_self_iff, after.busy, rfl, ?_, ?_, ?_, ?_⟩
  · intro command
    refine ⟨v.handle_fst command, fun ready => ?_⟩
    cases command with
    | quit => exact ready
    | render => exact render_frameReady ready
    | nextGeneration =>
      obtain ⟨-, next, w, -, -, -, kept, ends⟩ | ⟨-, -, status, jobs, -, kept, ends⟩ := after.next
      · rw [ends]
        exact render_frameReady (kept.trans ready)
      · rw [ends]
        exact kept.trans ready
  · exact render_shows after.isOpen after.unhindered (after.step ▸ step)
  · intro grows
    obtain ⟨-, next, w, grown, left, -, kept, ends⟩ | ⟨stops, -⟩ := after.next
    · have all : c.system.successes n = n :=
        LSystem.successes_eq_self_iff.mpr (grows.of_le (Nat.le_succ n))
      have later : next.generation = v.coordinator.system.generation + 1 := by
        rw [(LSystem.iterate_eq_ok_iff.mp grown).1]
      have shows := w.render_shows (left ▸ after.isOpen) (left ▸ after.unhindered)
        (left ▸ after.step ▸ step)
      rw [jobs, List.nil_append] at left
      rw [left, kept] at shows
      refine ⟨next, grown, by omega, ?_⟩
      rw [ends]
      exact shows
    · exact (stops grows).elim
  · intro stops
    obtain ⟨grows, -⟩ | ⟨-, -, status, jobs, busy, kept, ends⟩ := after.next
    · exact (stops grows).elim
    · exact ⟨status, jobs, busy, kept, ends⟩

/-- A coordinator of the word A, which becomes AB. -/
def branching (step : Int) : Coordinator Float :=
  .start (.start ['A'] (.ofRules [('A', ['A', 'B'])]) step) ⟨.degrees, 20.0, 5⟩ 10.0
    ⟨.whole 100, .whole 100⟩

theorem branching_handled :
    let v := (start (branching 5) "A").run [.render, .nextGeneration]
    v.coordinator.system.generation = 1 ∧ v.status.busy = false ∧
      (v.handle .render).2.Shows true v.coordinator ∧
      (v.handle .render).2.status.message = "Rendering done in N ms" ∧
      (v.handle .render).2.coordinator.jobs = [none] := by
  intro v
  obtain ⟨jobs, generation, -, -, -, -, shows, -, -⟩ :=
    run_handled (branching 5) "A" rfl rfl rfl (by decide) [.render, .nextGeneration]
  have free : v.status.busy = false := by decide +kernel
  have ready : v.status.frameReady = true := by decide +kernel
  have draws : v.coordinator.pipeline.outcome = .ok () := by decide +kernel
  have one : (branching 5).system.successes 1 = 1 := by decide +kernel
  obtain ⟨message, -, -, -, ended⟩ := shows.drawn draws
  refine ⟨generation.trans one, free, ready ▸ shows, message, ?_⟩
  rw [ended, jobs]
  rfl

/-- A step whose multiple of a length is beyond the binary64 numbers lets no generation be grown. -/
theorem vast_step_never_grows :
    let c := branching (tenTo 400)
    let v := (start c "A").run [.nextGeneration]
    1 ≤ c.system.step ∧ 1 ≤ c.interpreter.step ∧ c.surface.pending = [] ∧
      v.coordinator.system.generation = 0 ∧ v.coordinator.passes = 0 ∧
      v.status = ⟨"Iterating...", 0, true, false⟩ := by
  decide +kernel

end Viewer

end LSystems
