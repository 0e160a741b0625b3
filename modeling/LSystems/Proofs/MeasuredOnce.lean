import LSystems.Proofs.Effects
import LSystems.Proofs.Renewed

namespace LSystems

namespace Coordinator

variable {α : Type} {c d : Coordinator α}

theorem growTimes_passes (c : Coordinator α) (times : Nat) :
    (c.growTimes times).coordinator.passes = c.passes := by
  cases isOpen : c.isOpen with
  | true =>
    obtain ⟨jobs, grown⟩ := growTimes_eq isOpen times
    rw [grown]
  | false => rw [growTimes_of_closed isOpen]

theorem grow_passes (c : Coordinator α) : c.grow.2.1.passes = c.passes := by
  obtain ⟨fault, -, grown⟩ | ⟨next, -, grown⟩ := c.grow_cases
  · rw [grown]
  · rw [grown]

theorem rendering_passes {request : Request α} (h : c.rendering request = some d) :
    d.passes = c.passes := by
  obtain ⟨-, ⟨-, rfl⟩ | ⟨times, -, rfl⟩⟩ := rendering_cases h
  · rfl
  · exact growTimes_passes c times

/-- An open coordinator has measured some generations, each once. The box it keeps is that of the
current generation, and it has kept one if it has measured that generation. -/
structure HasMeasured (past : List Nat) (c : Coordinator α) : Prop where
  isOpen : c.isOpen = true
  rising : past.Pairwise (· < ·)
  le : ∀ generation ∈ past, generation ≤ c.system.generation
  kept : c.system.generation ∈ past → c.measuredGeneration.isSome = true
  current : ∀ generation ∈ c.measuredGeneration, generation = c.system.generation

namespace HasMeasured

variable {past : List Nat}

theorem start (system : LSystem) (i : Interpreter α) (base : α) (size : Size α) :
    HasMeasured [] (Coordinator.start system i base size) := by
  refine ⟨rfl, List.Pairwise.nil, ?_, ?_, ?_⟩
  · intro generation earlier; cases earlier
  · intro earlier; cases earlier
  · intro generation kept; cases kept

/-- After a later generation the past is as before, and no box is kept. -/
theorem onward (h : HasMeasured past c) (isOpen : d.isOpen = true)
    (later : c.system.generation < d.system.generation) (void : d.measured = none) :
    HasMeasured past d := by
  have none : d.measuredGeneration = none := congrArg (Option.map Prod.fst) void
  refine ⟨isOpen, h.rising, ?_, ?_, ?_⟩
  · intro generation earlier
    have := h.le generation earlier
    omega
  · intro earlier
    have := h.le _ earlier
    omega
  · intro generation kept
    rw [none] at kept
    cases kept

theorem of_same (h : HasMeasured past c) (isOpen : d.isOpen = c.isOpen)
    (system : d.system = c.system) (measured : d.measured = c.measured) : HasMeasured past d := by
  have same : d.measuredGeneration = c.measuredGeneration := congrArg (Option.map Prod.fst) measured
  refine ⟨isOpen.trans h.isOpen, h.rising, ?_, ?_, ?_⟩
  · rw [system]; exact h.le
  · rw [system, same]; exact h.kept
  · rw [system, same]; exact h.current

theorem grow (h : HasMeasured past c) : HasMeasured past c.grow.2.1 := by
  obtain ⟨fault, -, grown⟩ | ⟨next, advanced, grown⟩ := c.grow_cases
  · rw [grown]
    exact h
  · rw [grown]
    refine h.onward h.isOpen ?_ ?_
    · obtain moved | ⟨fault, failed, -⟩ := c.system.iterate_cases
      · cases advanced.symm.trans moved
        exact Nat.lt_succ_self _
      · cases advanced.symm.trans failed
    · exact if_pos h.isOpen

theorem growTimes (h : HasMeasured past c) (times : Nat) :
    HasMeasured past (c.growTimes times).coordinator := by
  obtain ⟨jobs, grown⟩ := growTimes_eq h.isOpen times
  rw [grown]
  by_cases failed : c.system.successes times = 0
  · refine h.of_same rfl ?_ ?_
    · dsimp only
      rw [LSystem.attempts_eq, failed]
      rfl
    · exact if_pos failed
  · refine h.onward h.isOpen ?_ ?_
    · dsimp only
      rw [LSystem.attempts_eq]
      dsimp only
      omega
    · exact if_neg failed

/-- A generation whose box is not kept has not been measured. -/
theorem not_mem_of_unkept (h : HasMeasured past c) (unkept : c.keptBox? = none) :
    c.system.generation ∉ past := by
  intro earlier
  cases measured : c.measured with
  | none =>
    have kept := h.kept earlier
    unfold measuredGeneration at kept
    rw [measured] at kept
    cases kept
  | some found =>
    obtain ⟨generation, box⟩ := found
    have known : c.measuredGeneration = some generation := congrArg (Option.map Prod.fst) measured
    have current := h.current generation known
    rw [keptBox_of_measured (current ▸ measured)] at unkept
    cases unkept

end HasMeasured

variable [Scalar α]

theorem withBox_measured (isOpen : c.isOpen = true) {box : Box α} (inUse : c.boxInUse = .ok box) :
    (c.measuresAnew = true ∧
      (c.withBox box).measuredGeneration = some c.system.generation ∧
      (c.withBox box).passes = c.passes + 1) ∨
    (c.measuresAnew = false ∧ (c.withBox box).measured = c.measured ∧
      (c.withBox box).passes = c.passes) := by
  have measures := measuresAnew_iff isOpen
  unfold withBox
  cases kept : c.keptBox? with
  | none => exact .inl ⟨measures.mpr ⟨kept, box, inUse⟩, rfl, rfl⟩
  | some box' =>
    have known : ¬c.measuresAnew = true := by
      rw [measures, kept]
      simp
    exact .inr ⟨Bool.not_eq_true _ ▸ known, rfl, rfl⟩

/-- A render that measures keeps the generation and counts the pass; any other one leaves both. -/
theorem render_measured (isOpen : c.isOpen = true) :
    (c.measuresAnew = true ∧
      c.render.coordinator.measuredGeneration = some c.system.generation ∧
      c.render.coordinator.passes = c.passes + 1) ∨
    (c.measuresAnew = false ∧ c.render.coordinator.measured = c.measured ∧
      c.render.coordinator.passes = c.passes) := by
  obtain ⟨jobs, ⟨e, inUse, -, left⟩ | ⟨box, e, inUse, -, -, left⟩ |
    ⟨box, scale, e, inUse, -, -, -, left⟩ | ⟨box, scale, strokes, inUse, -, -, -, left⟩⟩ :=
    render_cases isOpen
  · have unmeasured : ¬c.measuresAnew = true := by
      rw [measuresAnew_iff isOpen, inUse]
      simp
    rw [left]
    exact .inr ⟨Bool.not_eq_true _ ▸ unmeasured, rfl, rfl⟩
  · rw [left]
    exact withBox_measured isOpen inUse
  · obtain ⟨scaled, fitted⟩ := (c.withBox box).withScale_eq scale
    rw [left, fitted]
    exact withBox_measured isOpen inUse
  · obtain ⟨scaled, fitted⟩ := (c.withBox box).withScale_eq scale
    rw [left, fitted]
    exact withBox_measured isOpen inUse

/-- The generations measured in a run, in order. -/
def measurings (c : Coordinator α) (requests : List (Request α)) : List Nat :=
  ((c.renders requests).filter measuresAnew).map (·.system.generation)

theorem measurings_cons (c : Coordinator α) (request : Request α) (rest : List (Request α)) :
    c.measurings (request :: rest) = c.measurings [request] ++
      (c.perform request).coordinator.drain.2.measurings rest := by
  simp [measurings, renders]

theorem measurings_of_rendering {request : Request α} (h : c.rendering request = some d) :
    c.measurings [request] = if d.measuresAnew then [d.system.generation] else [] := by
  unfold measurings renders
  rw [h]
  cases anew : d.measuresAnew with
  | true => simp [renders, anew]
  | false => simp [renders, anew]

theorem measurings_of_unrendered {request : Request α} (h : c.rendering request = none) :
    c.measurings [request] = [] := by
  unfold measurings renders
  rw [h]
  rfl

/-- Every measuring is counted, and nothing else is. -/
theorem perform_passes (c : Coordinator α) (request : Request α) :
    (c.perform request).coordinator.passes = c.passes + (c.measurings [request]).length := by
  cases rendered : c.rendering request with
  | some d =>
    obtain ⟨isOpen, performed⟩ := perform_of_rendering rendered
    rw [performed, measurings_of_rendering rendered, ← rendering_passes rendered]
    obtain ⟨anew, -, passes⟩ | ⟨kept, -, passes⟩ := render_measured isOpen
    · rw [passes, anew]
      rfl
    · rw [passes, kept]
      rfl
  | none =>
    rw [measurings_of_unrendered rendered]
    cases request with
    | grow times => exact growTimes_passes c times
    | growAndRender times => rw [perform_growAndRender_of_unrendered rendered]; rfl
    | render => rw [perform_render_of_unrendered rendered]; rfl
    | growDirectly => exact grow_passes c
    | resize size => rfl
    | setAngle angle => rfl
    | setStep step => rfl
    | setBase base => rfl
    | failNext fault => rfl
    | shutdown => rfl

theorem run_passes (c : Coordinator α) (requests : List (Request α)) :
    (c.run requests).passes = c.passes + (c.measurings requests).length := by
  induction requests generalizing c with
  | nil => rfl
  | cons request rest ih =>
    have counted : (c.perform request).coordinator.drain.2.passes
        = c.passes + (c.measurings [request]).length := c.perform_passes request
    have onward : c.run (request :: rest) = (c.perform request).coordinator.drain.2.run rest := rfl
    rw [onward, ih, counted, measurings_cons c request rest, List.length_append, Nat.add_assoc]

namespace HasMeasured

variable {past : List Nat}

/-- A render measures a generation only if that has not been measured before. -/
theorem render (h : HasMeasured past c) :
    HasMeasured (past ++ if c.measuresAnew then [c.system.generation] else [])
      c.render.coordinator := by
  have same := render_sameWork c
  obtain ⟨anew, kept, -⟩ | ⟨old, measured, -⟩ := render_measured h.isOpen
  · have unmeasured := h.not_mem_of_unkept ((measuresAnew_iff h.isOpen).mp anew).1
    rw [if_pos anew]
    refine ⟨same.isOpen.trans h.isOpen, ?_, ?_, ?_, ?_⟩
    · refine List.pairwise_append.mpr ⟨h.rising, List.pairwise_singleton _ _, ?_⟩
      intro generation earlier last isLast
      have := h.le generation earlier
      have : generation ≠ c.system.generation := fun eq => unmeasured (eq ▸ earlier)
      rw [List.mem_singleton.mp isLast]
      omega
    · intro generation earlier
      rw [same.system]
      rcases List.mem_append.mp earlier with before | last
      · exact h.le generation before
      · exact Nat.le_of_eq (List.mem_singleton.mp last)
    · intro _
      rw [kept]
      rfl
    · intro generation found
      rw [kept] at found
      cases found
      rw [same.system]
  · rw [if_neg (by rw [old]; exact Bool.false_ne_true), List.append_nil]
    exact h.of_same same.isOpen same.system measured

theorem perform (h : HasMeasured past c) {request : Request α} (unclosed : request ≠ .shutdown) :
    HasMeasured (past ++ c.measurings [request]) (c.perform request).coordinator := by
  cases rendered : c.rendering request with
  | some d =>
    obtain ⟨isOpen, performed⟩ := perform_of_rendering rendered
    rw [performed, measurings_of_rendering rendered]
    obtain ⟨-, ⟨-, rfl⟩ | ⟨times, -, rfl⟩⟩ := rendering_cases rendered
    · exact h.render
    · exact (h.growTimes times).render
  | none =>
    rw [measurings_of_unrendered rendered, List.append_nil]
    cases request with
    | grow times => exact h.growTimes times
    | growAndRender times => rw [perform_growAndRender_of_unrendered rendered]; exact h
    | render => rw [perform_render_of_unrendered rendered]; exact h
    | growDirectly => exact h.grow
    | shutdown => exact (unclosed rfl).elim
    | resize size => exact h.of_same rfl rfl rfl
    | setAngle angle => exact h.of_same rfl rfl rfl
    | setStep step => exact h.of_same rfl rfl rfl
    | setBase base => exact h.of_same rfl rfl rfl
    | failNext fault => exact h.of_same rfl rfl rfl

theorem run (h : HasMeasured past c) {requests : List (Request α)}
    (unclosed : Request.shutdown ∉ requests) :
    HasMeasured (past ++ c.measurings requests) (c.run requests) := by
  -- The generations measured so far grow along with the run, so the past is general.
  induction requests generalizing c past with
  | nil =>
    have none : c.measurings [] = [] := rfl
    rw [none, List.append_nil]
    exact h
  | cons request rest ih =>
    rw [List.mem_cons, not_or] at unclosed
    obtain ⟨notThis, notLater⟩ := unclosed
    have performed := (h.perform (Ne.symm notThis)).of_same
      (d := (c.perform request).coordinator.drain.2) rfl rfl rfl
    rw [measurings_cons, ← List.append_assoc]
    exact ih performed notLater

end HasMeasured

/-- A render measures when no box is kept and the walk over the word comes to its end. -/
theorem measuresAnew_eq (isOpen : c.isOpen = true) :
    c.measuresAnew = (c.keptBox?.isNone && c.figure.isOk) := by
  rw [Bool.eq_iff_iff, measuresAnew_iff isOpen]
  unfold boxInUse
  cases c.keptBox? with
  | some box => simp
  | none => cases c.figure <;> simp [Except.isOk, Except.toBool]

theorem perform_growAndRender_events (isOpen : c.isOpen = true) (n : Nat) :
    (c.perform (.growAndRender n)).events
      = (c.growTimes n).events ++ (c.growTimes n).coordinator.render.events := by
  unfold perform
  dsimp only
  rw [(growTimes_of_open isOpen n).1]

/-- A box is kept for the current generation or not at all, and over a whole run no generation is
measured twice. Growing to a later generation and rendering measures that one alone. -/
theorem measured_once (system : LSystem) (i : Interpreter α) (base : α) (size : Size α)
    (requests : List (Request α)) (unclosed : Request.shutdown ∉ requests) :
    let begun := start system i base size
    let c := begun.run requests
    (c.measuredGeneration = none ∨ c.measuredGeneration = some c.system.generation) ∧
    (begun.measurings requests).Nodup ∧
    c.passes = (begun.measurings requests).length ∧
    (∀ d ∈ begun.renders requests,
      d.render.coordinator.passes = d.passes + if d.measuresAnew then 1 else 0) ∧
    ∀ n, 1 ≤ n → c.system.successes n = n → ∃ d, c.rendering (.growAndRender n) = some d ∧
      d.system.generation = c.system.generation + n ∧
      d.system.word = c.system.grammar.grow c.system.word n ∧
      (c.perform (.growAndRender n)).events = (c.growTimes n).events ++ d.render.events ∧
      (∀ event ∈ (c.growTimes n).events,
        (∃ percentage, event = .growing percentage) ∨ ∃ generation, event = .grown generation) ∧
      (c.perform (.growAndRender n)).coordinator = d.render.coordinator ∧
      d.passes = c.passes ∧
      let measured := (c.interpreter.measure c.base ⟨0, 0⟩ d.system.word).outcome
      c.measurings [.growAndRender n]
          = (if measured.isOk then [c.system.generation + n] else []) ∧
        (c.perform (.growAndRender n)).coordinator.passes
          = c.passes + if measured.isOk then 1 else 0 := by
  intro begun c
  have begins : HasMeasured [] begun := .start system i base size
  have history : HasMeasured (begun.measurings requests) c := begins.run unclosed
  refine ⟨?_, ?_, ?_, ?_, ?_⟩
  · cases kept : c.measuredGeneration with
    | none => exact .inl rfl
    | some generation => rw [history.current generation kept]; exact .inr rfl
  · exact history.rising.imp fun earlier => Nat.ne_of_lt earlier
  · have counted := begun.run_passes requests
    have none : begun.passes = 0 := rfl
    rw [none, Nat.zero_add] at counted
    exact counted
  · intro d rendered
    obtain ⟨before, after, split⟩ := List.append_of_mem rendered
    obtain ⟨-, isOpen⟩ := remembersLast_of_renders_eq split
    obtain ⟨anew, -, passes⟩ | ⟨kept, -, passes⟩ := render_measured isOpen
    · rw [passes, anew]
      rfl
    · rw [passes, kept]
      rfl
  · intro n positive succeeds
    obtain ⟨jobs, grown⟩ := growTimes_eq history.isOpen n
    rw [LSystem.attempts_eq, succeeds, if_neg (by omega)] at grown
    have told := perform_growAndRender_events history.isOpen n
    have passes := c.growTimes_passes n
    have rendered : c.rendering (.growAndRender n) = some (c.growTimes n).coordinator :=
      if_pos history.isOpen
    obtain ⟨isOpen, performed⟩ := perform_of_rendering rendered
    have unkept : (c.growTimes n).coordinator.keptBox? = none := by
      rw [grown]
      rfl
    have anew : (c.growTimes n).coordinator.measuresAnew
        = (c.growTimes n).coordinator.figure.isOk := by
      rw [measuresAnew_eq isOpen, unkept]
      rfl
    have counted := c.perform_passes (.growAndRender n)
    have measured := measurings_of_rendering rendered
    rw [anew, grown] at measured
    refine ⟨(c.growTimes n).coordinator, rendered, ?_, ?_, told, fun event => told_by_growTimes,
      performed, passes, ?_⟩
    · rw [grown]
    · rw [grown]
    · rw [counted, measured, grown]
      refine ⟨rfl, ?_⟩
      rw [apply_ite List.length]
      rfl

theorem stairs_measured_once :
    let requests : List (Request Float) := [.render, .growDirectly]
    let c := stairs.run requests
    Request.shutdown ∉ requests ∧
      c.measuredGeneration = none ∧ (stairs.measurings requests).Nodup ∧ c.passes = 1 ∧
      1 ≤ 2 ∧ c.system.successes 2 = 2 ∧
      ∃ d, c.rendering (.growAndRender 2) = some d ∧ d.system.generation = 3 ∧
        (c.perform (.growAndRender 2)).coordinator = d.render.coordinator ∧
        (c.perform (.growAndRender 2)).coordinator.surface.strokes.length = 16 ∧
        c.measurings [.growAndRender 2] = [3] ∧
        (c.perform (.growAndRender 2)).coordinator.passes = 2 := by
  intro requests c
  have unclosed : Request.shutdown ∉ requests := by simp [requests]
  have passes : c.passes = 1 := by decide +kernel
  have generation : c.system.generation = 1 := by decide +kernel
  have succeeds : c.system.successes 2 = 2 := by decide +kernel
  have unmeasured : c.measuredGeneration = none := by decide +kernel
  have drawn : (c.perform (.growAndRender 2)).coordinator.surface.strokes.length = 16 := by
    decide +kernel
  have run : (start stairs.system stairs.interpreter stairs.base stairs.surface.size).run requests
      = c := rfl
  have stated := measured_once stairs.system stairs.interpreter stairs.base stairs.surface.size
    requests unclosed
  dsimp only at stated
  rw [run] at stated
  obtain ⟨-, once, -, -, onward⟩ := stated
  obtain ⟨d, rendered, later, word, -, -, performed, -, measured, counted⟩ :=
    onward 2 (by decide) succeeds
  have isOk : (c.interpreter.measure c.base ⟨0, 0⟩ d.system.word).outcome.isOk = true := by
    rw [word]
    decide +kernel
  have measured := measured.trans (if_pos isOk)
  have counted := counted.trans (congrArg (c.passes + ·) (if_pos isOk))
  rw [generation] at measured later
  rw [passes] at counted
  exact ⟨unclosed, unmeasured, once, passes, by decide, succeeds, d, rendered, later, performed,
    drawn, measured, counted⟩

end Coordinator

end LSystems
