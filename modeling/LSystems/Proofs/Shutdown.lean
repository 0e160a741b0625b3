import LSystems.Proofs.Effects
import LSystems.Proofs.Waiting

namespace LSystems

/-- Whether a request hands in jobs. -/
def Request.handsIn {α : Type} : Request α → Bool
  | grow times => times != 0
  | growAndRender _ => true
  | render => true
  | _ => false

namespace Coordinator

section
variable {α : Type} {c d : Coordinator α}

/-- Coordinators that show the same: what has been measured, fitted and drawn, and the stage. -/
structure SameShown (c d : Coordinator α) : Prop where
  measured : c.measured = d.measured
  passes : c.passes = d.passes
  scaled : c.scaled = d.scaled
  strokes : c.surface.strokes = d.surface.strokes
  draws : c.surface.draws = d.surface.draws
  stage : c.stage = d.stage

/-- A coordinator that is closed, has nothing left to wait for, and shows what another one shows. -/
structure Rests (d c : Coordinator α) : Prop extends SameShown d c where
  closed : d.isOpen = false
  idle : d.jobs = []

namespace Rests

theorem wait (h : Rests d c) : d.wait = (none, d) := by
  rw [wait_of_idle h.idle, ← h.idle]

theorem drain (h : Rests d c) : d.drain.2 = d := by
  unfold Coordinator.drain
  rw [← h.idle]

end Rests

/-- A direct attempt on a closed coordinator is told to nobody and changes its system alone. -/
theorem grow_of_closed (closed : c.isOpen = false) :
    (c.system.CanGrow 1 ∧ c.grow = ([], { c with system := { c.system with
      word := c.system.grammar.rewrite c.system.word
      generation := c.system.generation + 1 } }, none)) ∨
    ¬c.system.CanGrow 1 ∧ ∃ fault, c.grow = ([], c, some fault) := by
  unfold grow
  dsimp only
  rw [closed]
  cases grown : c.system.iterate.outcome with
  | error fault => exact .inr ⟨LSystem.not_canGrow_of_error grown, fault, rfl⟩
  | ok next =>
    obtain ⟨rfl, grows⟩ := LSystem.iterate_eq_ok_iff.mp grown
    exact .inl ⟨grows, rfl⟩

variable [Scalar α]

theorem perform_direct_of_closed (closed : c.isOpen = false) :
    (c.system.CanGrow 1 ∧ c.perform .growDirectly = ⟨[], { c with system := { c.system with
      word := c.system.grammar.rewrite c.system.word
      generation := c.system.generation + 1 } }, none⟩) ∨
    ¬c.system.CanGrow 1 ∧ ∃ fault, c.perform .growDirectly = ⟨[], c, some (.fault fault)⟩ := by
  unfold perform
  dsimp only
  obtain ⟨grows, grown⟩ | ⟨stops, fault, failed⟩ := grow_of_closed closed
  · rw [grown]
    exact .inl ⟨grows, rfl⟩
  · rw [failed]
    exact .inr ⟨stops, fault, rfl⟩

/-- A closed coordinator takes no jobs and stays as it is when it is asked to. -/
theorem perform_of_handsIn (closed : c.isOpen = false) {request : Request α}
    (jobs : request.handsIn = true) : c.perform request = ⟨[], c, some .closed⟩ := by
  have shut : ¬c.isOpen = true := by rw [closed]; exact Bool.false_ne_true
  have render : c.render = ⟨[], c, some .closed⟩ := if_neg shut
  have grow (n : Nat) : c.growTimes (n + 1) = ⟨[], c, some .closed⟩ := if_neg shut
  cases request with
  | grow times =>
    cases times with
    | zero => cases jobs
    | succ times => exact grow times
  | growAndRender times =>
    unfold perform
    cases times with
    | zero =>
      -- No generation is asked for, and it is the render that is refused.
      have none : c.growTimes 0 = ⟨[], c, none⟩ := rfl
      dsimp only
      rw [none]
      dsimp only
      rw [render]
      rfl
    | succ times =>
      dsimp only
      rw [grow times]
  | render => exact render
  | _ => cases jobs

namespace Rests

/-- A request to a coordinator at rest tells nothing and leaves it at rest. -/
theorem perform (h : Rests d c) (request : Request α) :
    (d.perform request).events = [] ∧ Rests (d.perform request).coordinator c := by
  cases jobs : request.handsIn with
  | true =>
    rw [perform_of_handsIn h.closed jobs]
    exact ⟨rfl, h⟩
  | false =>
    -- What is left changes the system, the settings or the size of the surface, and shows nothing.
    cases request with
    | grow times =>
      cases times with
      | zero => exact ⟨rfl, h⟩
      | succ times => cases jobs
    | growAndRender times => cases jobs
    | render => cases jobs
    | growDirectly =>
      obtain ⟨-, grown⟩ | ⟨-, fault, failed⟩ := perform_direct_of_closed h.closed
      · rw [grown]
        exact ⟨rfl, { h with }⟩
      · rw [failed]
        exact ⟨rfl, h⟩
    | resize size => exact ⟨rfl, { h with }⟩
    | setAngle angle => exact ⟨rfl, { h with }⟩
    | setStep step => exact ⟨rfl, { h with }⟩
    | setBase base => exact ⟨rfl, { h with }⟩
    | failNext fault => exact ⟨rfl, { h with }⟩
    | shutdown => exact ⟨rfl, { h with closed := rfl }⟩

theorem perform_system (h : Rests d c) (request : Request α) :
    (d.perform request).coordinator.system
      = d.system.attempts (if request.isDirect then 1 else 0) := by
  rw [Coordinator.perform_system, tries_of_closed h.closed]

theorem run (h : Rests d c) (requests : List (Request α)) :
    Rests (d.run requests) c ∧
      (d.run requests).system = d.system.attempts (requests.countP Request.isDirect) := by
  induction requests generalizing d with
  | nil => exact ⟨h, rfl⟩
  | cons request rest ih =>
    obtain ⟨-, still⟩ := h.perform request
    have onward : d.run (request :: rest) = (d.perform request).coordinator.run rest :=
      congrArg (Coordinator.run · rest) still.drain
    obtain ⟨ends, grown⟩ := ih still
    rw [onward]
    refine ⟨ends, ?_⟩
    rw [grown, h.perform_system, List.countP_cons]
    cases request.isDirect <;> rfl

end Rests

/-- After a shutdown nothing is told any more, no job is taken, waiting is over at once, and what a
coordinator shows stays as it was; only direct attempts to grow go on, each by one rewrite unless
it fails. -/
theorem shutdown_final (c : Coordinator α) (requests : List (Request α)) :
    let d := c.run (.shutdown :: requests)
    let growths := requests.countP Request.isDirect
    d.wait = (none, d) ∧ SameShown d c ∧
    d.system = { c.system with
      word := c.system.grammar.grow c.system.word (c.system.successes growths)
      generation := c.system.generation + c.system.successes growths } ∧
    (c.system.successes growths = growths ↔ c.system.CanGrow growths) ∧
    ∀ request,
      let reply := d.perform request
      reply.events = [] ∧ SameShown reply.coordinator c ∧
      reply.coordinator.wait = (none, reply.coordinator) ∧
      (request.handsIn = true → reply = ⟨[], d, some .closed⟩) ∧
      (request ≠ .growDirectly → reply.coordinator.system = d.system) ∧
      (request = .growDirectly →
        (d.system.CanGrow 1 ∧ reply = ⟨[], { d with system := { d.system with
          word := d.system.grammar.rewrite d.system.word
          generation := d.system.generation + 1 } }, none⟩) ∨
        ¬d.system.CanGrow 1 ∧ ∃ fault, reply = ⟨[], d, some (.fault fault)⟩) := by
  intro d growths
  have shut : Rests (c.perform .shutdown).coordinator.drain.2 c :=
    ⟨⟨rfl, rfl, rfl, rfl, rfl, rfl⟩, rfl, rfl⟩
  obtain ⟨rests, grown⟩ : Rests d c ∧ d.system = c.system.attempts growths := shut.run requests
  refine ⟨rests.wait, rests.toSameShown, grown.trans (c.system.attempts_eq growths),
    LSystem.successes_eq_self_iff, fun request => ?_⟩
  obtain ⟨silent, still⟩ := rests.perform request
  refine ⟨silent, still.toSameShown, still.wait, perform_of_handsIn rests.closed, ?_, ?_⟩
  · intro indirect
    exact perform_system_of_closed rests.closed indirect
  · rintro rfl
    exact perform_direct_of_closed rests.closed

/-- After one rendered generation a shutdown leaves the box of that generation and its drawing, also
when the system has grown by another one. -/
theorem rendered_algae_shutdown :
    let begun : Coordinator Float := start (.start ['A'] (.ofRules [('A', ['A', 'B'])]) 5)
      ⟨.degrees, 20.0, 5⟩ 10.0 ⟨.whole 100, .whole 100⟩
    let c := begun.run [.growAndRender 1]
    let d := c.run [.shutdown, .render, .growDirectly, .setBase 5.0]
    c.measuredGeneration = some 1 ∧ d.measuredGeneration = some 1 ∧ d.surface.draws = 1 ∧
      d.system.generation = 2 ∧ d.wait = (none, d) ∧
      d.perform (.growAndRender 3) = ⟨[], d, some .closed⟩ ∧
      (d.perform .shutdown).coordinator.system = d.system ∧
      ∃ e, d.perform .growDirectly = ⟨[], e, none⟩ ∧ e.system.generation = 3 := by
  intro begun c d
  have measured : c.measuredGeneration = some 1 := by decide +kernel
  have drawn : c.surface.draws = 1 := by decide +kernel
  have generation : d.system.generation = 2 := by decide +kernel
  have grows : d.system.CanGrow 1 := by
    have rewritten : d.system.iterate.outcome.isOk = true := by decide +kernel
    cases advanced : d.system.iterate.outcome with
    | error fault =>
      rw [advanced] at rewritten
      cases rewritten
    | ok next => exact (LSystem.iterate_eq_ok_iff.mp advanced).2
  obtain ⟨waited, shown, -, -, later⟩ := shutdown_final c [.render, .growDirectly, .setBase 5.0]
  obtain ⟨-, -, -, refused, -, -⟩ := later (.growAndRender 3)
  obtain ⟨-, -, -, -, indirect, -⟩ := later .shutdown
  obtain ⟨-, -, -, -, -, direct⟩ := later .growDirectly
  refine ⟨measured, ?_, shown.draws.trans drawn, generation, waited, refused rfl, indirect nofun,
    ?_⟩
  · exact (congrArg (Option.map Prod.fst) shown.measured).trans measured
  · obtain ⟨-, grown⟩ | ⟨stops, -⟩ := direct rfl
    · exact ⟨_, grown, congrArg (· + 1) generation⟩
    · exact (stops grows).elim

end

end Coordinator

end LSystems
