import LSystems.Proofs.Handled

namespace LSystems

/-- What the worker of a job has still to do when the work itself is done. -/
inductive Errand
  | tell (event : Event)
  | askRender

/-- What an event makes to do: the viewer that is told of a new generation asks for its render. -/
def Event.errands : Event → List Errand
  | .grown generation => [.tell (.grown generation), .askRender]
  | event => [.tell event]

/-- Errands that tell of no new generation. -/
def Quiet (errands : List Errand) : Prop :=
  ∀ generation, .tell (.grown generation) ∉ errands

/-- Whether an event tells of a new generation. -/
def Event.isGrown : Event → Bool
  | .grown _ => true
  | _ => false

theorem quiet_errands {events : List Event} (h : ∀ generation, .grown generation ∉ events) :
    Quiet (events.flatMap Event.errands) := by
  intro generation mem
  obtain ⟨event, told, made⟩ := List.mem_flatMap.mp mem
  cases event with
  | grown n => exact h n told
  | _ => cases List.mem_singleton.mp made

/-- When a system has gone on, telling of its new generation comes last. -/
theorem errands_grow {α : Type} {c : Coordinator α} {next : LSystem} (isOpen : c.isOpen = true)
    (grown : c.system.iterate.outcome = .ok next) :
    ∃ before, Quiet before ∧ c.growJob.1.flatMap Event.errands
      = before ++ [.tell (.grown next.generation), .askRender] := by
  have quiet : Quiet ((c.system.iterate.progress.map Event.growing).flatMap Event.errands) :=
    quiet_errands (by simp)
  refine ⟨_, quiet, ?_⟩
  rw [(c.grow_of_ok isOpen grown).2, List.flatMap_append]
  rfl

theorem quiet_cons_iff {errand : Errand} {rest : List Errand} :
    Quiet (errand :: rest) ↔ Quiet [errand] ∧ Quiet rest := by
  simp [Quiet, forall_and]

/-- A viewer whose jobs are carried out beside it: how many rewrites have been asked for and how
those that are over have ended, the one that runs, the renders asked for, each with the number of
rewrites that it waits for, and the one that runs. -/
structure Workload (α : Type) where
  viewer : Viewer α
  asked : Nat
  ended : List (Option Fault)
  rewriting : Option (Option Fault × List Errand)
  renders : List Nat
  rendering : Option (List Errand)

namespace Workload

variable {α : Type}

/-- A viewer that has just been opened, with nothing to do. -/
def opened (c : Coordinator α) (title : Text) : Workload α :=
  ⟨⟨c, title, .initial⟩, 0, [], none, [], none⟩

/-- Asks for a render, which waits for all rewrites that have been asked for. -/
def askRender (w : Workload α) : Workload α :=
  { w with renders := w.renders ++ [w.asked] }

/-- Does an errand. -/
def carryOut (w : Workload α) : Errand → Workload α
  | .tell event => { w with viewer := { w.viewer with status := w.viewer.status.notice event } }
  | .askRender => w.askRender

/-- Takes a command, without waiting for anything. -/
def handle (w : Workload α) : ViewerCommand → Workload α
  | .quit => w
  | .nextGeneration =>
    match w.viewer.status.beginGrowth with
    | (true, status) =>
      { w with viewer := { w.viewer with status := status }, asked := w.asked + 1 }
    | (false, _) => w
  | .render => w.askRender

theorem handle_of_free {w : Workload α} (free : w.viewer.status.busy = false) :
    w.handle .nextGeneration = { w with
      viewer := { w.viewer with status := w.viewer.status.awaiting }, asked := w.asked + 1 } := by
  unfold Workload.handle
  rw [ViewerStatus.beginGrowth_of_free free]

theorem handle_of_busy {w : Workload α} (busy : w.viewer.status.busy = true) :
    w.handle .nextGeneration = w := by
  unfold Workload.handle
  rw [ViewerStatus.beginGrowth_of_busy busy]

/-- How the rewrites that have been begun have come out. -/
def begun (w : Workload α) : List (Option Fault) :=
  w.ended ++ (w.rewriting.map Prod.fst).toList

/-- Whether every job is over. -/
structure Idle (w : Workload α) : Prop where
  rewriting : w.rewriting = none
  rendering : w.rendering = none
  renders : w.renders = []
  ended : w.ended.length = w.asked

/-- Begins the next rewrite: the system goes on at once, and what there is to tell of it follows. -/
def startRewrite (w : Workload α) : Workload α :=
  { w with
    viewer := { w.viewer with coordinator := w.viewer.coordinator.growJob.2 }
    rewriting := some (w.viewer.coordinator.grow.2.2,
      w.viewer.coordinator.growJob.1.flatMap Event.errands) }

/-- Begins a render and leaves the rest of those that have been asked for. -/
def startRender [Scalar α] (w : Workload α) (rest : List Nat) : Workload α :=
  { w with
    viewer := { w.viewer with coordinator := w.viewer.coordinator.render.coordinator }
    renders := rest
    rendering := some (w.viewer.coordinator.render.events.flatMap Event.errands) }

/-- What can go on beside a viewer. Rewriting and rendering shut each other out, so that the work of
each is one step; the errands of both can come in any order. -/
inductive Works [Scalar α] : Workload α → Workload α → Prop
  | grow {w : Workload α} (free : w.rewriting = none) (left : w.ended.length < w.asked) :
      Works w w.startRewrite
  | report {w : Workload α} {outcome : Option Fault} {errand : Errand} {rest : List Errand}
      (busy : w.rewriting = some (outcome, errand :: rest)) :
      Works w { w.carryOut errand with rewriting := some (outcome, rest) }
  | grown {w : Workload α} {outcome : Option Fault} (done : w.rewriting = some (outcome, [])) :
      Works w { w with rewriting := none, ended := w.ended ++ [outcome] }
  | render {w : Workload α} {needed : Nat} {rest : List Nat} (free : w.rendering = none)
      (next : w.renders = needed :: rest) (ready : needed ≤ w.ended.length) :
      Works w (w.startRender rest)
  | present {w : Workload α} {errand : Errand} {rest : List Errand}
      (busy : w.rendering = some (errand :: rest)) :
      Works w { w.carryOut errand with rendering := some rest }
  | rendered {w : Workload α} (done : w.rendering = some []) : Works w { w with rendering := none }
  | drain {w : Workload α} : Works w { w with viewer := w.viewer.drain.2 }

/-- What a workload comes to by commands and work in any order. -/
inductive Reaches [Scalar α] (w : Workload α) : Workload α → Prop
  | refl : Reaches w w
  | handle {s : Workload α} (before : Reaches w s) (command : ViewerCommand) :
      Reaches w (s.handle command)
  | work {s t : Workload α} (before : Reaches w s) (step : Works s t) : Reaches w t

/-- An errand changes the status and the renders asked for; only news of a new generation free the
viewer. -/
theorem carryOut_eq (w : Workload α) (errand : Errand) : ∃ status renders,
    w.carryOut errand
      = { w with viewer := { w.viewer with status := status }, renders := renders } ∧
    (Quiet [errand] ∧ status.busy = w.viewer.status.busy ∨
      (∃ generation, errand = .tell (.grown generation)) ∧ status.busy = false) := by
  cases errand with
  | askRender => exact ⟨_, _, rfl, .inl ⟨by simp [Quiet], rfl⟩⟩
  | tell event =>
    cases event with
    | grown generation => exact ⟨_, _, rfl, .inr ⟨⟨generation, rfl⟩, rfl⟩⟩
    | _ => exact ⟨_, _, rfl, .inl ⟨by simp [Quiet], rfl⟩⟩

theorem carryOut_of_quiet {w : Workload α} {errand : Errand} (quiet : Quiet [errand]) :
    ∃ status renders, w.carryOut errand
      = { w with viewer := { w.viewer with status := status }, renders := renders } ∧
        status.busy = w.viewer.status.busy := by
  obtain ⟨status, renders, made, ⟨-, kept⟩ | ⟨⟨generation, rfl⟩, -⟩⟩ := w.carryOut_eq errand
  · exact ⟨status, renders, made, kept⟩
  · exact (quiet generation List.mem_cons_self).elim

/-- Where the rewrites stand when so many have succeeded: none is under way that the viewer has not
been told of, the last one is still to be begun or to be told of, or it has failed. -/
inductive Flight (n : Nat) (w : Workload α) : Prop
  | free (asked : w.asked = n) (begun : w.begun = .replicate n none)
      (quiet : ∀ outcome errands, w.rewriting = some (outcome, errands) → Quiet errands)
      (busy : w.viewer.status.busy = false)
  | queued (asked : w.asked = n + 1) (begun : w.begun = .replicate n none)
      (quiet : ∀ outcome errands, w.rewriting = some (outcome, errands) → Quiet errands)
      (busy : w.viewer.status.busy = true)
  | growing {before : List Errand} {generation : Nat} (asked : w.asked = n)
      (begun : w.begun = .replicate n none)
      (rewriting : w.rewriting
        = some (none, before ++ [.tell (.grown generation), .askRender]))
      (quiet : Quiet before) (busy : w.viewer.status.busy = true)
  | stuck {fault : Fault} (asked : w.asked = n + 1)
      (begun : w.begun = .replicate n none ++ [some fault])
      (fails : w.viewer.coordinator.system.iterate.outcome = .error fault)
      (quiet : ∀ outcome errands, w.rewriting = some (outcome, errands) → Quiet errands)
      (busy : w.viewer.status.busy = true)

/-- What holds of a workload whose system has come from another one by rewrites. -/
structure Sound (s : LSystem) (w : Workload α) : Prop where
  isOpen : w.viewer.coordinator.isOpen = true
  quiet : ∀ errands, w.rendering = some errands → Quiet errands
  flight : ∃ n, s.CanGrow n ∧ w.viewer.coordinator.system = s.attempts n ∧ Flight n w

variable {s : LSystem} {n : Nat} {w t : Workload α}

theorem Flight.of_same (h : Flight n w) (asked : t.asked = w.asked) (ended : t.ended = w.ended)
    (rewriting : t.rewriting = w.rewriting)
    (busy : t.viewer.status.busy = w.viewer.status.busy)
    (system : t.viewer.coordinator.system = w.viewer.coordinator.system) : Flight n t := by
  have same : t.begun = w.begun := by
    unfold Workload.begun
    rw [ended, rewriting]
  cases h with
  | free all begun quiet idle =>
    exact .free (asked.trans all) (same.trans begun) (rewriting ▸ quiet) (busy.trans idle)
  | queued all begun quiet taken =>
    exact .queued (asked.trans all) (same.trans begun) (rewriting ▸ quiet) (busy.trans taken)
  | growing all begun runs quiet taken =>
    exact .growing (asked.trans all) (same.trans begun) (rewriting.trans runs) quiet
      (busy.trans taken)
  | stuck all begun fails quiet taken =>
    exact .stuck (asked.trans all) (same.trans begun) (system ▸ fails) (rewriting ▸ quiet)
      (busy.trans taken)

theorem Sound.opened {c : Coordinator α} (isOpen : c.isOpen = true) (title : Text) :
    Sound c.system (.opened c title) where
  isOpen := isOpen
  quiet := by simp [Workload.opened]
  flight := ⟨0, LSystem.canGrow_zero _, rfl, .free rfl rfl (by simp [Workload.opened]) rfl⟩

theorem Sound.handle (h : Sound s w) (command : ViewerCommand) : Sound s (w.handle command) := by
  cases command with
  | quit => exact h
  | render =>
    obtain ⟨n, grows, reached, flight⟩ := h.flight
    exact ⟨h.isOpen, h.quiet, n, grows, reached, flight.of_same rfl rfl rfl rfl rfl⟩
  | nextGeneration =>
    cases busy : w.viewer.status.busy with
    | true =>
      rw [handle_of_busy busy]
      exact h
    | false =>
      obtain ⟨n, grows, reached, flight⟩ := h.flight
      rw [handle_of_free busy]
      refine ⟨h.isOpen, h.quiet, n, grows, reached, ?_⟩
      cases flight with
      | free asked begun quiet _ => exact .queued (congrArg (· + 1) asked) begun quiet rfl
      | queued asked begun quiet taken => cases busy.symm.trans taken
      | growing asked begun runs quiet taken => cases busy.symm.trans taken
      | stuck asked begun fails quiet taken => cases busy.symm.trans taken

/-- A rewrite that is begun takes the system on, or it fails and the viewer is never told. -/
theorem Sound.grow (h : Sound s w) (free : w.rewriting = none) (left : w.ended.length < w.asked) :
    Sound s w.startRewrite := by
  unfold startRewrite
  obtain ⟨n, grows, reached, flight⟩ := h.flight
  have settled : w.begun = w.ended := by simp [Workload.begun, free]
  cases flight with
  | free asked begun quiet _ =>
    have ended := congrArg List.length (settled.symm.trans begun)
    rw [List.length_replicate] at ended
    omega
  | growing asked begun runs quiet _ => cases free.symm.trans runs
  | stuck asked begun fails quiet _ =>
    have ended := congrArg List.length (settled.symm.trans begun)
    simp only [List.length_append, List.length_replicate, List.length_singleton] at ended
    omega
  | queued asked begun quiet taken =>
    have sofar := settled.symm.trans begun
    cases grown : w.viewer.coordinator.system.iterate.outcome with
    | error fault =>
      obtain ⟨-, outcome, job⟩ := Coordinator.grow_of_error grown
      rw [outcome, job]
      refine ⟨h.isOpen, h.quiet, n, grows, reached, .stuck asked ?_ grown ?_ taken⟩
      · exact congrArg (· ++ [some fault]) sofar
      · rintro _ _ ⟨⟩
        exact quiet_errands (by simp)
    | ok next =>
      obtain ⟨before, silent, told⟩ := errands_grow h.isOpen grown
      obtain ⟨outcome, job⟩ := Coordinator.grow_of_ok h.isOpen grown
      have onward : s.attempts (n + 1) = next := by
        rw [LSystem.attempts_succ, ← reached]
        exact LSystem.attempt_of_ok grown
      rw [outcome, told, job]
      refine ⟨h.isOpen, h.quiet, n + 1, ?_, onward.symm, .growing asked ?_ rfl silent taken⟩
      · exact LSystem.canGrow_succ_iff.mpr ⟨grows, next, reached ▸ grown⟩
      · rw [List.replicate_succ']
        exact congrArg (· ++ [none]) sofar

/-- The worker of a rewrite tells what it has to tell; a new generation frees the viewer. -/
theorem Sound.report (h : Sound s w) {outcome : Option Fault} {errand : Errand} {rest : List Errand}
    (runs : w.rewriting = some (outcome, errand :: rest)) :
    Sound s { w.carryOut errand with rewriting := some (outcome, rest) } := by
  obtain ⟨n, grows, reached, flight⟩ := h.flight
  obtain ⟨status, renders, made, busy⟩ := w.carryOut_eq errand
  have same : w.begun = w.ended ++ [outcome] := by simp [Workload.begun, runs]
  have unfreed (quiet : Quiet [errand]) : status.busy = w.viewer.status.busy := by
    obtain ⟨-, kept⟩ | ⟨⟨generation, rfl⟩, -⟩ := busy
    · exact kept
    · exact (quiet generation List.mem_cons_self).elim
  have onward {rest : List Errand} (quiet : Quiet rest) : ∀ outcome' errands,
      some (outcome, rest) = some (outcome', errands) → Quiet errands := by
    rintro _ _ ⟨⟩
    exact quiet
  rw [made]
  refine ⟨h.isOpen, h.quiet, n, grows, reached, ?_⟩
  cases flight with
  | free asked begun quiet idle =>
    obtain ⟨first, later⟩ := quiet_cons_iff.mp (quiet _ _ runs)
    exact .free asked (same.symm.trans begun) (onward later) ((unfreed first).trans idle)
  | queued asked begun quiet taken =>
    obtain ⟨first, later⟩ := quiet_cons_iff.mp (quiet _ _ runs)
    exact .queued asked (same.symm.trans begun) (onward later) ((unfreed first).trans taken)
  | stuck asked begun fails quiet taken =>
    obtain ⟨first, later⟩ := quiet_cons_iff.mp (quiet _ _ runs)
    exact .stuck asked (same.symm.trans begun) fails (onward later) ((unfreed first).trans taken)
  | growing asked begun rewriting quiet taken =>
    rename_i before generation
    cases before with
    | nil =>
      obtain ⟨rfl, rfl, rfl⟩ : outcome = none ∧ errand = .tell (.grown generation) ∧
        rest = [.askRender] := by simpa using runs.symm.trans rewriting
      obtain ⟨quiet, -⟩ | ⟨-, freed⟩ := busy
      · exact (quiet generation List.mem_cons_self).elim
      · exact .free asked (same.symm.trans begun) (onward (by simp [Quiet])) freed
    | cons first before =>
      obtain ⟨rfl, rfl, rfl⟩ : outcome = none ∧ errand = first ∧
        rest = before ++ [.tell (.grown generation), .askRender] := by
        simpa using runs.symm.trans rewriting
      obtain ⟨first, later⟩ := quiet_cons_iff.mp quiet
      exact .growing asked (same.symm.trans begun) rfl later ((unfreed first).trans taken)

/-- The end of a rewrite is nothing to the viewer, which has been told of it if it succeeded. -/
theorem Sound.end_rewrite (h : Sound s w) {outcome : Option Fault}
    (done : w.rewriting = some (outcome, [])) :
    Sound s { w with rewriting := none, ended := w.ended ++ [outcome] } := by
  obtain ⟨n, grows, reached, flight⟩ := h.flight
  have same : w.begun = w.ended ++ [outcome] ++ [] := by simp [Workload.begun, done]
  have silent : ∀ outcome errands, none = some ((outcome, errands) : Option Fault × List Errand) →
      Quiet errands := by simp
  refine ⟨h.isOpen, h.quiet, n, grows, reached, ?_⟩
  cases flight with
  | free asked begun quiet idle => exact .free asked (same.symm.trans begun) silent idle
  | queued asked begun quiet taken => exact .queued asked (same.symm.trans begun) silent taken
  | stuck asked begun fails quiet taken =>
    exact .stuck asked (same.symm.trans begun) fails silent taken
  | growing asked begun rewriting quiet taken =>
    have left := done.symm.trans rewriting
    simp at left

theorem Sound.present (h : Sound s w) {errand : Errand} {rest : List Errand}
    (busy : w.rendering = some (errand :: rest)) :
    Sound s { w.carryOut errand with rendering := some rest } := by
  obtain ⟨n, grows, reached, flight⟩ := h.flight
  obtain ⟨first, later⟩ := quiet_cons_iff.mp (h.quiet _ busy)
  obtain ⟨status, renders, made, kept⟩ := w.carryOut_of_quiet first
  rw [made]
  refine ⟨h.isOpen, ?_, n, grows, reached, flight.of_same rfl rfl rfl kept rfl⟩
  rintro _ ⟨⟩
  exact later

/-- At rest the viewer is free with every rewrite done, or the last one has failed and it is not. -/
theorem Sound.rest (h : Sound s w) (idle : w.Idle) :
    w.viewer.status.busy = false ∧ w.ended = .replicate w.asked none ∧ s.CanGrow w.asked ∨
    ∃ n fault, w.viewer.status.busy = true ∧ w.asked = n + 1 ∧
      w.ended = .replicate n none ++ [some fault] ∧
      w.viewer.coordinator.system.iterate.outcome = .error fault ∧ ¬s.CanGrow w.asked := by
  obtain ⟨n, grows, reached, flight⟩ := h.flight
  have settled : w.begun = w.ended := by simp [Workload.begun, idle.rewriting]
  have all := idle.ended
  cases flight with
  | free asked begun quiet free =>
    rw [asked]
    exact .inl ⟨free, settled.symm.trans begun, grows⟩
  | queued asked begun quiet taken =>
    have ended := congrArg List.length (settled.symm.trans begun)
    rw [List.length_replicate] at ended
    omega
  | growing asked begun rewriting quiet taken => cases idle.rewriting.symm.trans rewriting
  | stuck asked begun fails quiet taken =>
    refine .inr ⟨n, _, taken, asked, settled.symm.trans begun, fails, fun all => ?_⟩
    rw [asked] at all
    obtain ⟨-, next, grown⟩ := LSystem.canGrow_succ_iff.mp all
    rw [← reached] at grown
    cases fails.symm.trans grown

variable [Scalar α]

theorem Sound.render (h : Sound s w) (rest : List Nat) : Sound s (w.startRender rest) := by
  obtain ⟨n, grows, reached, flight⟩ := h.flight
  have kept := w.viewer.coordinator.render_sameWork
  refine ⟨kept.isOpen.trans h.isOpen, ?_, n, grows, kept.system.trans reached,
    flight.of_same rfl rfl rfl rfl kept.system⟩
  rintro _ ⟨⟩
  exact quiet_errands (Coordinator.grown_not_mem_render h.isOpen)

theorem Sound.work (h : Sound s w) (step : Works w t) : Sound s t := by
  obtain ⟨n, grows, reached, flight⟩ := h.flight
  cases step with
  | grow free left => exact h.grow free left
  | report runs => exact h.report runs
  | grown done => exact h.end_rewrite done
  | render free next ready => exact h.render _
  | present busy => exact h.present busy
  | rendered done =>
    exact ⟨h.isOpen, by simp, n, grows, reached, flight.of_same rfl rfl rfl rfl rfl⟩
  | drain => exact ⟨h.isOpen, h.quiet, n, grows, reached, flight.of_same rfl rfl rfl rfl rfl⟩

theorem Sound.reaches (h : Sound s w) (run : Reaches w t) : Sound s t := by
  induction run with
  | refl => exact h
  | handle _ command ih => exact ih.handle command
  | work _ step ih => exact ih.work step

/-- A viewer that is left busy with nothing under way stays as it is: every later rewrite asked for
is ignored. -/
theorem Sound.halted (h : Sound s w) (idle : w.Idle) (busy : w.viewer.status.busy = true)
    (run : Reaches w t) :
    t.rewriting = none ∧ t.asked = w.asked ∧ t.ended = w.ended ∧
      t.viewer.status.busy = true ∧ t.viewer.coordinator.system = w.viewer.coordinator.system := by
  induction run with
  | refl => exact ⟨idle.rewriting, rfl, rfl, busy, rfl⟩
  | handle before command ih =>
    obtain ⟨resting, asked, ended, taken, same⟩ := ih
    cases command with
    | quit => exact ⟨resting, asked, ended, taken, same⟩
    | render => exact ⟨resting, asked, ended, taken, same⟩
    | nextGeneration =>
      rw [handle_of_busy taken]
      exact ⟨resting, asked, ended, taken, same⟩
  | work before step ih =>
    obtain ⟨resting, asked, ended, taken, same⟩ := ih
    have sound := h.reaches before
    cases step with
    | grow free left =>
      have all := idle.ended
      rw [asked, ended] at left
      omega
    | report runs => cases resting.symm.trans runs
    | grown done => cases resting.symm.trans done
    | render free next ready =>
      exact ⟨resting, asked, ended, taken, (Coordinator.render_sameWork _).system.trans same⟩
    | present shows =>
      rename_i u errand rest
      obtain ⟨first, -⟩ := quiet_cons_iff.mp (sound.quiet _ shows)
      obtain ⟨status, renders, made, kept⟩ := u.carryOut_of_quiet first
      rw [made]
      exact ⟨resting, asked, ended, kept.trans taken, same⟩
    | rendered done => exact ⟨resting, asked, ended, taken, same⟩
    | drain => exact ⟨resting, asked, ended, taken, same⟩

theorem Reaches.trans {w s t : Workload α} (h : Reaches w s) (later : Reaches s t) :
    Reaches w t := by
  induction later with
  | refl => exact h
  | handle _ command ih => exact ih.handle command
  | work _ step ih => exact ih.work step

/-- The worker of a rewrite comes to the end of its errands. -/
theorem reaches_reported {outcome : Option Fault} (events : List Event)
    (runs : w.rewriting = some (outcome, events.flatMap Event.errands)) :
    Reaches w { w with
      viewer := { w.viewer with status := events.foldl .notice w.viewer.status }
      renders := w.renders ++ .replicate (events.countP Event.isGrown) w.asked
      rewriting := some (outcome, []) } := by
  induction events generalizing w with
  | nil =>
    have same : w.renders ++ .replicate ([].countP Event.isGrown) w.asked = w.renders :=
      List.append_nil _
    rw [same]
    exact runs ▸ .refl
  | cons event events ih =>
    cases event with
    | grown generation =>
      have one :
          w.renders ++ .replicate ((.grown generation :: events).countP Event.isGrown) w.asked
            = w.renders ++ [w.asked] ++ .replicate (events.countP Event.isGrown) w.asked := by
        rw [List.countP_cons_of_pos rfl, List.replicate_succ, List.append_cons]
      have told := Reaches.refl.work (.report runs)
      rw [one]
      exact (told.work (.report rfl)).trans (ih rfl)
    | _ => exact (Reaches.refl.work (.report runs)).trans (ih rfl)

/-- The worker of a render comes to the end of its errands. -/
theorem reaches_presented (events : List Event) (silent : ∀ generation, .grown generation ∉ events)
    (shows : w.rendering = some (events.flatMap Event.errands)) :
    Reaches w { w with
      viewer := { w.viewer with status := events.foldl .notice w.viewer.status }
      rendering := some [] } := by
  induction events generalizing w with
  | nil => exact shows ▸ .refl
  | cons event events ih =>
    have later : ∀ generation, .grown generation ∉ events :=
      fun generation mem => silent generation (List.mem_cons_of_mem _ mem)
    cases event with
    | grown generation => exact (silent generation List.mem_cons_self).elim
    | _ => exact (Reaches.refl.work (.present shows)).trans (ih later rfl)

/-- A render that has been asked for comes to its end when nothing else is under way. -/
theorem reaches_render (isOpen : w.viewer.coordinator.isOpen = true) {needed : Nat}
    (free : w.rendering = none) (next : w.renders = [needed]) (ready : needed ≤ w.ended.length) :
    Reaches w { w with viewer := w.viewer.render, renders := [] } := by
  have begun := Reaches.refl.work (.render free next ready)
  have presented := begun.trans
    (reaches_presented _ (Coordinator.grown_not_mem_render isOpen) rfl)
  exact free ▸ presented.work (.rendered rfl)

/-- A rewrite that has been asked for comes to its end, and so does the render that it asks for. -/
theorem reaches_grow (isOpen : w.viewer.coordinator.isOpen = true) (rewriting : w.rewriting = none)
    (rendering : w.rendering = none) (renders : w.renders = [])
    (left : w.ended.length + 1 = w.asked) :
    ∃ t, Reaches w t ∧ t.Idle ∧ t.viewer = w.viewer.grow := by
  have started := Reaches.refl.work (.grow rewriting (by omega))
  have ended := (started.trans (reaches_reported _ rfl)).work (.grown rfl)
  dsimp only [startRewrite] at ended
  rw [renders, List.nil_append] at ended
  have all : (w.ended ++ [w.viewer.coordinator.grow.2.2]).length = w.asked := by
    rw [List.length_append]
    exact left
  cases grown : w.viewer.coordinator.system.iterate.outcome with
  | error fault =>
    obtain ⟨-, -, job⟩ := Coordinator.grow_of_error grown
    rw [Viewer.grow_of_error isOpen grown]
    rw [job] at ended ⊢
    exact ⟨_, ended, ⟨rfl, rendering, rfl, all⟩, rfl⟩
  | ok next =>
    obtain ⟨-, job⟩ := Coordinator.grow_of_ok isOpen grown
    have once : w.viewer.coordinator.growJob.1.countP Event.isGrown = 1 := by
      rw [job, List.countP_append, List.countP_eq_zero.mpr (by simp [Event.isGrown])]
      rfl
    have still : w.viewer.coordinator.growJob.2.isOpen = true := by rw [job]; exact isOpen
    rw [once] at ended
    have rendered := ended.trans (reaches_render still rendering rfl (Nat.le_of_eq all.symm))
    rw [Viewer.grow_of_ok isOpen grown]
    exact ⟨_, rendered, ⟨rfl, rendering, rfl, all⟩, rfl⟩

/-- Carrying out a command with all its jobs is one of the ways in which a workload goes on. -/
theorem reaches_handle (isOpen : w.viewer.coordinator.isOpen = true) (idle : w.Idle)
    (command : ViewerCommand) :
    ∃ t, Reaches w t ∧ t.Idle ∧ t.viewer = (w.viewer.handle command).2 := by
  cases command with
  | quit => exact ⟨w, .refl, idle, rfl⟩
  | render =>
    have asked : Reaches w { w with renders := w.renders ++ [w.asked] } :=
      Reaches.refl.handle .render
    rw [idle.renders] at asked
    have rendered := asked.trans
      (reaches_render isOpen idle.rendering rfl (Nat.le_of_eq idle.ended.symm))
    exact ⟨_, rendered, ⟨idle.rewriting, idle.rendering, rfl, idle.ended⟩, rfl⟩
  | nextGeneration =>
    cases busy : w.viewer.status.busy with
    | true => exact ⟨w, .refl, idle, congrArg Prod.snd (Viewer.handle_of_busy busy).symm⟩
    | false =>
      have begun : Reaches w (w.handle .nextGeneration) := .handle .refl _
      rw [handle_of_free busy] at begun
      rw [Viewer.handle_of_free busy]
      obtain ⟨t, grown, rests, made⟩ := reaches_grow (w := { w with
        viewer := { w.viewer with status := w.viewer.status.awaiting }, asked := w.asked + 1 })
          isOpen idle.rewriting idle.rendering idle.renders (congrArg (· + 1) idle.ended)
      exact ⟨t, begun.trans grown, rests, made⟩

/-- At rest, after whatever commands and work, a viewer is free exactly if no rewrite has failed,
and then it takes the next one. A rewrite that fails is the last one: the viewer stays busy with
nothing under way and takes no other. -/
theorem busy_at_rest (c : Coordinator α) (isOpen : c.isOpen = true) (title : Text)
    (run : Reaches (.opened c title) w) (idle : w.Idle) :
    (w.viewer.status.busy = true ↔ ∃ fault, some fault ∈ w.ended) ∧
    (w.viewer.status.busy = false ↔ c.system.CanGrow w.asked) ∧
    (w.viewer.status.busy = false → (w.handle .nextGeneration).asked = w.asked + 1 ∧
      (w.handle .nextGeneration).viewer.status.busy = true) ∧
    (∀ fault, some fault ∈ w.ended →
      w.viewer.coordinator.system.iterate.outcome = .error fault ∧
      ∀ t, Reaches w t → t.rewriting = none ∧ t.asked = w.asked ∧ t.ended = w.ended ∧
        t.viewer.status.busy = true ∧
        t.viewer.coordinator.system = w.viewer.coordinator.system) ∧
    ∀ command, ∃ t, Reaches w t ∧ t.Idle ∧ t.viewer = (w.viewer.handle command).2 := by
  have sound := (Sound.opened isOpen title).reaches run
  refine ⟨?_, ?_, ?_, ?_, reaches_handle sound.isOpen idle⟩
  · obtain ⟨free, ended, -⟩ | ⟨n, fault, taken, -, ended, -⟩ := sound.rest idle
    · simp [free, ended]
    · simp [taken, ended]
  · obtain ⟨free, -, grows⟩ | ⟨n, fault, taken, -, -, -, fails⟩ := sound.rest idle
    · simp [free, grows]
    · simp [taken, fails]
  · intro free
    rw [handle_of_free free]
    exact ⟨rfl, rfl⟩
  · intro fault failed
    obtain ⟨-, ended, -⟩ | ⟨n, last, taken, -, ended, fails, -⟩ := sound.rest idle
    · rw [ended] at failed
      simp at failed
    · obtain rfl : fault = last := by
        rw [ended] at failed
        simpa using failed
      exact ⟨fails, fun t => sound.halted idle taken⟩

omit [Scalar α] in
theorem opened_idle (c : Coordinator α) (title : Text) : (opened c title).Idle :=
  ⟨rfl, rfl, rfl, rfl⟩

theorem branching_free : ∃ w, Reaches (opened (Viewer.branching 5) "A") w ∧ w.Idle ∧
    w.viewer.coordinator.system.generation = 1 ∧ w.viewer.status.busy = false ∧
    (¬∃ fault, some fault ∈ w.ended) ∧ (w.handle .nextGeneration).asked = w.asked + 1 := by
  have isOpen : (Viewer.branching 5).isOpen = true := rfl
  obtain ⟨w, run, idle, viewer⟩ :=
    reaches_handle isOpen (opened_idle (Viewer.branching 5) "A") .nextGeneration
  have free : w.viewer.status.busy = false := by
    rw [viewer]
    decide +kernel
  have first : w.viewer.coordinator.system.generation = 1 := by
    rw [viewer]
    decide +kernel
  obtain ⟨failed, -, taken, -⟩ := busy_at_rest (Viewer.branching 5) isOpen "A" run idle
  refine ⟨w, run, idle, first, free, ?_, (taken free).1⟩
  rw [← failed, free]
  exact Bool.false_ne_true

/-- A step of no points makes the first rewrite fail, and the viewer waits for it for ever. -/
theorem stepless_stays_busy : (Viewer.branching 0).isOpen = true ∧ ∃ w,
    Reaches (opened (Viewer.branching 0) "A") w ∧ w.Idle ∧ w.viewer.status.busy = true ∧
      w.handle .nextGeneration = w := by
  have isOpen : (Viewer.branching 0).isOpen = true := rfl
  obtain ⟨w, run, idle, viewer⟩ :=
    reaches_handle isOpen (opened_idle (Viewer.branching 0) "A") .nextGeneration
  have taken : w.viewer.status.busy = true := by
    rw [viewer]
    decide +kernel
  exact ⟨isOpen, w, run, idle, taken, handle_of_busy taken⟩

end Workload

end LSystems
