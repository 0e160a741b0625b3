import LSystems.Proofs.Remembered
import LSystems.Proofs.Rewritten

namespace LSystems

namespace Request

variable {α : Type}

/-- Whether a request has the system grow without a job. -/
def isDirect : Request α → Bool
  | growDirectly => true
  | _ => false

theorem isDirect_of_ne {request : Request α} (indirect : request ≠ growDirectly) :
    request.isDirect = false := by
  cases request with
  | growDirectly => exact (indirect rfl).elim
  | _ => rfl

end Request

namespace Coordinator

variable {α : Type} {c d e : Coordinator α}

/-- Coordinators that have the same to do, whatever they have kept or drawn. -/
structure SameWork (c d : Coordinator α) : Prop where
  system : c.system = d.system
  interpreter : c.interpreter = d.interpreter
  base : c.base = d.base
  size : c.surface.size = d.surface.size
  isOpen : c.isOpen = d.isOpen

namespace SameWork

theorem refl (c : Coordinator α) : SameWork c c := ⟨rfl, rfl, rfl, rfl, rfl⟩

theorem symm (h : SameWork c d) : SameWork d c :=
  ⟨h.system.symm, h.interpreter.symm, h.base.symm, h.size.symm, h.isOpen.symm⟩

theorem trans (h : SameWork c d) (h' : SameWork d e) : SameWork c e :=
  ⟨h.system.trans h'.system, h.interpreter.trans h'.interpreter, h.base.trans h'.base,
    h.size.trans h'.size, h.isOpen.trans h'.isOpen⟩

end SameWork

theorem withBox_eq (c : Coordinator α) (box : Box α) :
    ∃ measured passes, c.withBox box = { c with measured := measured, passes := passes } := by
  unfold withBox
  split
  · exact ⟨c.measured, c.passes, rfl⟩
  · exact ⟨_, _, rfl⟩

theorem grow_cases (c : Coordinator α) :
    (∃ fault, c.system.iterate.outcome = .error fault ∧ c.grow = ([], c, some fault)) ∨
    ∃ next, c.system.iterate.outcome = .ok next ∧
      c.grow.2 = ({ c with
        system := next, measured := if c.isOpen then none else c.measured }, none) := by
  unfold grow
  dsimp only
  cases c.system.iterate.outcome with
  | error fault => exact .inl ⟨fault, rfl, rfl⟩
  | ok next =>
    refine .inr ⟨next, rfl, ?_⟩
    cases isOpen : c.isOpen with
    | true => simp
    | false => simp

/-- An attempt to grow that fails leaves everything as it is and tells nothing. -/
theorem grow_of_error {fault : Fault} (failed : c.system.iterate.outcome = .error fault) :
    c.system.iterate.progress = [] ∧ c.grow = ([], c, some fault) ∧
      c.growJob = ([], { c with jobs := c.jobs ++ [some fault] }) := by
  have grown : c.grow = ([], c, some fault) := by
    unfold grow
    dsimp only
    rw [failed]
  refine ⟨?_, grown, ?_⟩
  · obtain advanced | ⟨fault', -, silent⟩ := c.system.iterate_cases
    · cases failed.symm.trans advanced
    · exact silent
  · unfold growJob
    rw [grown]

/-- Those who watch an open coordinator are told how its system goes on, its generation last. -/
theorem grow_of_ok (isOpen : c.isOpen = true) {next : LSystem}
    (grown : c.system.iterate.outcome = .ok next) :
    c.grow = (c.system.iterate.progress.map .growing ++ [.grown next.generation],
        { c with system := next, measured := none }, none) ∧
      c.growJob = (c.system.iterate.progress.map .growing ++ [.grown next.generation],
        { c with system := next, measured := none, jobs := c.jobs ++ [none] }) := by
  unfold growJob grow
  dsimp only
  rw [grown]
  dsimp only
  rw [if_pos isOpen]
  exact ⟨rfl, rfl⟩

theorem grow_system (c : Coordinator α) : c.grow.2.1.system = c.system.attempt := by
  obtain ⟨fault, failed, grown⟩ | ⟨next, advanced, grown⟩ := c.grow_cases
  · rw [grown, LSystem.attempt_of_error failed]
  · rw [grown, LSystem.attempt_of_ok advanced]

/-- What a number of attempts to grow make of an open coordinator. -/
theorem growTimes_eq (isOpen : c.isOpen = true) (n : Nat) : ∃ jobs,
    (c.growTimes n).coordinator = { c with
      system := c.system.attempts n
      measured := if c.system.successes n = 0 then c.measured else none
      jobs := jobs } := by
  induction n generalizing c with
  | zero => exact ⟨c.jobs, rfl⟩
  | succ n ih =>
    unfold growTimes
    rw [if_pos isOpen]
    have onward : c.system.attempts (n + 1) = c.system.attempt.attempts n := rfl
    have grown : c.growJob.2 = { c.grow.2.1 with jobs := c.grow.2.1.jobs ++ [c.grow.2.2] } := rfl
    dsimp only
    rw [onward]
    -- One attempt that succeeds makes the box void, whatever becomes of the later ones.
    obtain ⟨fault, failed, left⟩ | ⟨next, advanced, left⟩ := c.grow_cases
    · rw [left] at grown
      have still : c.growJob.2.isOpen = true := by rw [grown]; exact isOpen
      obtain ⟨jobs, later⟩ := ih still
      refine ⟨jobs, ?_⟩
      rw [later, grown, LSystem.attempt_of_error failed, LSystem.successes_of_error failed]
    · rw [left] at grown
      have still : c.growJob.2.isOpen = true := by rw [grown]; exact isOpen
      obtain ⟨jobs, later⟩ := ih still
      refine ⟨jobs, ?_⟩
      rw [later, grown, LSystem.attempt_of_ok advanced, LSystem.successes_of_ok advanced]
      simp [isOpen]

/-- How often a request has the system try to grow. -/
def tries (c : Coordinator α) : Request α → Nat
  | .grow times => if c.isOpen then times else 0
  | .growAndRender times => if c.isOpen then times else 0
  | .growDirectly => 1
  | _ => 0

theorem tries_of_closed (closed : c.isOpen = false) (request : Request α) :
    c.tries request = if request.isDirect then 1 else 0 := by
  have none (n : Nat) : (if c.isOpen then n else 0) = 0 :=
    if_neg (by rw [closed]; exact Bool.false_ne_true)
  cases request with
  | grow times => exact none times
  | growAndRender times => exact none times
  | _ => rfl

theorem growTimes_system (c : Coordinator α) (n : Nat) :
    (c.growTimes n).coordinator.system = c.system.attempts (if c.isOpen then n else 0) := by
  cases isOpen : c.isOpen with
  | true =>
    obtain ⟨jobs, grown⟩ := growTimes_eq isOpen n
    rw [grown]
    rfl
  | false =>
    rw [growTimes_of_closed isOpen]
    rfl

variable [Scalar α]

theorem withScale_eq (c : Coordinator α) (scale : Scale α) :
    ∃ scaled, c.withScale scale = { c with scaled := scaled } := by
  unfold withScale
  split
  · exact ⟨c.scaled, rfl⟩
  · exact ⟨_, rfl⟩

/-- A render leaves what there is to do as it is. -/
theorem render_sameWork (c : Coordinator α) : SameWork c.render.coordinator c := by
  cases isOpen : c.isOpen with
  | false =>
    rw [render_of_closed isOpen]
    exact .refl c
  | true =>
    obtain ⟨jobs, ⟨e, -, -, left⟩ | ⟨box, e, -, -, -, left⟩ | ⟨box, scale, e, -, -, -, -, left⟩ |
      ⟨box, scale, strokes, -, -, -, -, left⟩⟩ := render_cases isOpen
    · rw [left]
      exact ⟨rfl, rfl, rfl, rfl, rfl⟩
    · obtain ⟨measured, passes, boxed⟩ := c.withBox_eq box
      rw [left, boxed]
      exact ⟨rfl, rfl, rfl, rfl, rfl⟩
    · obtain ⟨measured, passes, boxed⟩ := c.withBox_eq box
      obtain ⟨scaled, fitted⟩ := (c.withBox box).withScale_eq scale
      rw [left, fitted, boxed]
      exact ⟨rfl, rfl, rfl, rfl, rfl⟩
    · obtain ⟨measured, passes, boxed⟩ := c.withBox_eq box
      obtain ⟨scaled, fitted⟩ := (c.withBox box).withScale_eq scale
      rw [left, fitted, boxed]
      exact ⟨rfl, rfl, rfl, Surface.draw_size _ _, rfl⟩

/-- A request changes the system by the attempts to grow it and by nothing else. -/
theorem perform_system (c : Coordinator α) (request : Request α) :
    (c.perform request).coordinator.system = c.system.attempts (c.tries request) := by
  cases request with
  | grow times => exact c.growTimes_system times
  | growAndRender times =>
    unfold perform
    dsimp only
    cases (c.growTimes times).refusal with
    | some refusal => exact c.growTimes_system times
    | none =>
      dsimp only
      rw [(render_sameWork _).system]
      exact c.growTimes_system times
  | render => exact (render_sameWork c).system
  | growDirectly => exact c.grow_system
  | resize size => rfl
  | setAngle angle => rfl
  | setStep step => rfl
  | setBase base => rfl
  | failNext fault => rfl
  | shutdown => rfl

/-- Only a direct attempt still makes the system of a closed coordinator grow. -/
theorem perform_system_of_closed (closed : c.isOpen = false) {request : Request α}
    (indirect : request ≠ .growDirectly) : (c.perform request).coordinator.system = c.system := by
  rw [perform_system, tries_of_closed closed, Request.isDirect_of_ne indirect]
  rfl

/-- How many attempts to grow succeed in a run. -/
def successes (c : Coordinator α) : List (Request α) → Nat
  | [] => 0
  | request :: rest =>
    c.system.successes (c.tries request) + (c.perform request).coordinator.drain.2.successes rest

/-- A run makes of the system as many generations as attempts to grow it succeed. -/
theorem run_system (c : Coordinator α) (requests : List (Request α)) :
    (c.run requests).system = { c.system with
      word := c.system.grammar.grow c.system.word (c.successes requests)
      generation := c.system.generation + c.successes requests } := by
  induction requests generalizing c with
  | nil => rfl
  | cons request rest ih =>
    have performed : (c.perform request).coordinator.drain.2.system
        = c.system.attempts (c.tries request) := c.perform_system request
    have onward : c.run (request :: rest) = (c.perform request).coordinator.drain.2.run rest := rfl
    have counted : c.successes (request :: rest) = c.system.successes (c.tries request)
        + (c.perform request).coordinator.drain.2.successes rest := rfl
    rw [onward, ih, performed, LSystem.attempts_eq, counted, Grammar.grow_add, ← Nat.add_assoc]

end Coordinator

end LSystems
