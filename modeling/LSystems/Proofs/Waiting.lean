import LSystems.Proofs.Backlog
import LSystems.Proofs.Effects
import LSystems.Proofs.LostWay

namespace LSystems

namespace Coordinator

section
variable {α : Type} {c : Coordinator α}

theorem wait_of_success {rest : List (Option Fault)} (jobs : c.jobs = none :: rest) :
    c.wait = Coordinator.wait { c with jobs := rest } := by
  unfold wait
  rw [jobs]
  rfl

theorem wait_of_failure {fault : Fault} {rest : List (Option Fault)}
    (jobs : c.jobs = some fault :: rest) : c.wait = (some fault, { c with jobs := rest }) := by
  unfold wait
  rw [jobs]
  rfl

theorem wait_of_idle (idle : c.jobs = []) : c.wait = (none, { c with jobs := [] }) := by
  unfold wait
  rw [idle]
  rfl

theorem wait_cases (c : Coordinator α) :
    (c.wait = (none, { c with jobs := [] }) ∧ c.jobs.filterMap id = []) ∨
    ∃ fault rest, c.wait = (some fault, { c with jobs := rest }) ∧
      c.jobs.filterMap id = fault :: rest.filterMap id := by
  obtain ⟨jobs, given⟩ : ∃ jobs, c.jobs = jobs := ⟨_, rfl⟩
  induction jobs generalizing c with
  | nil =>
    rw [given]
    exact .inl ⟨wait_of_idle given, rfl⟩
  | cons job rest ih =>
    rw [given]
    cases job with
    | none =>
      rw [wait_of_success given]
      exact ih { c with jobs := rest } rfl
    | some fault => exact .inr ⟨fault, rest, wait_of_failure given, rfl⟩

/-- The faults that are met by waiting again and again, until a wait ends without one. -/
inductive Waits : Coordinator α → List Fault → Coordinator α → Prop
  | back {c d : Coordinator α} (waited : c.wait = (none, d)) : Waits c [] d
  | raised {c d e : Coordinator α} {fault : Fault} {faults : List Fault}
    (waited : c.wait = (some fault, d)) (again : Waits d faults e) : Waits c (fault :: faults) e

theorem Waits.of_wait_eq {d e : Coordinator α} {faults : List Fault} (same : c.wait = d.wait)
    (waits : Waits d faults e) : Waits c faults e := by
  cases waits with
  | back waited => exact .back (same.trans waited)
  | raised waited again => exact .raised (same.trans waited) again

theorem drain_waits (c : Coordinator α) : Waits c c.drain.1 c.drain.2 := by
  obtain ⟨jobs, given⟩ : ∃ jobs, c.jobs = jobs := ⟨_, rfl⟩
  induction jobs generalizing c with
  | nil =>
    unfold drain
    rw [given]
    exact .back (wait_of_idle given)
  | cons job rest ih =>
    have later := ih { c with jobs := rest } rfl
    unfold drain at later ⊢
    rw [given]
    cases job with
    | none => exact later.of_wait_eq (wait_of_success given)
    | some fault => exact .raised (wait_of_failure given) later

/-- Waiting again and again ends, and it is what draining is. -/
theorem waits_iff_drain {faults : List Fault} {d : Coordinator α} :
    Waits c faults d ↔ c.drain = (faults, d) := by
  constructor
  · intro waits
    induction waits with
    | @back c d waited =>
      obtain ⟨ends, none⟩ | ⟨fault, rest, ends, -⟩ := c.wait_cases
      · cases ends.symm.trans waited
        exact congrArg (·, _) none
      · cases ends.symm.trans waited
    | @raised c d e fault faults waited again ih =>
      obtain ⟨ends, -⟩ | ⟨fault, rest, ends, found⟩ := c.wait_cases
      · cases ends.symm.trans waited
      · cases ends.symm.trans waited
        obtain ⟨left, rfl⟩ := Prod.mk.inj ih
        unfold drain
        rw [found, ← left]
  · rintro ⟨⟩
    exact c.drain_waits

theorem grow_jobs (c : Coordinator α) : c.grow.2.1.jobs = c.jobs := by
  obtain ⟨fault, -, grown⟩ | ⟨next, -, grown⟩ := c.grow_cases
  · rw [grown]
  · rw [grown]

end

end Coordinator

theorem Job.after_jobs {α : Type} [Scalar α] (job : Job) (c : Coordinator α) :
    (job.after c).jobs = c.jobs ++ [(Task.mk job (some (job.fault? c))).failure] := by
  cases job with
  | grow =>
    have passed : (Task.mk .grow (some c.grow.2.2)).failure = c.grow.2.2 := by
      cases found : c.grow.2.2 with
      | none => rfl
      | some fault => rfl
    unfold Job.after Job.fault?
    dsimp only
    rw [passed, ← c.grow_jobs]
    rfl
  | render =>
    obtain ⟨success, failure⟩ := c.renderJob_jobs
    unfold Job.after Job.fault?
    cases ends : c.pipeline.outcome with
    | ok _ => exact success ends
    | error fault =>
      have passed : (Task.mk .render (some (some fault))).failure
          = if fault.isExpected then none else some fault := by
        unfold Task.failure
        cases known : fault.isExpected with
        | true => simp [Job.passesOn, known]
        | false => simp [Job.passesOn, known]
      dsimp only
      rw [passed]
      exact failure fault ends

namespace Backlog

variable {α : Type}

/-- What a coordinator keeps for those who wait when the first `k` jobs of a backlog have been met and
all of them are over. -/
structure Answers (k : Nat) (b : Backlog α) (c : Coordinator α) : Prop extends Sound k b where
  ended : ∀ task ∈ b.tasks, task.ended ≠ none
  jobs : c.jobs = (b.tasks.drop k).map Task.failure

/-- A backlog all of whose jobs are over and still to be met, beside the coordinator that has carried
them out. -/
structure Mirrors (c : Coordinator α) (b : Backlog α) : Prop where
  coordinator : b.coordinator = c
  waiter : b.waiter = .away
  answers : Answers 0 b c

section
variable {b : Backlog α} {c d : Coordinator α} {k : Nat}

theorem Mirrors.opened (idle : c.jobs = []) : Mirrors c (opened c) :=
  ⟨rfl, rfl, .opened c, nofun, idle⟩

variable [Scalar α]

/-- Going through a copy of all jobs ends as a wait of the coordinator does. -/
theorem Answers.through (h : Answers k b c) (stands : b.waiter = .inside b.unmet) :
    ∃ m t, Reaches b t ∧ t.tasks = b.tasks ∧ Answers m t c.wait.2 ∧
      t.met = b.met ++ c.wait.1.toList ∧
      t.waiter = if c.wait.1.isNone then .back else .away := by
  generalize count : b.tasks.length - k = n
  induction n generalizing k b c with
  | zero =>
    have none : b.unmet = [] := by
      rw [h.unmet, count]
      rfl
    have all : b.tasks.drop k = [] := List.drop_eq_nil_of_le (Nat.le_of_sub_eq_zero count)
    have idle : c.jobs = [] := by
      rw [h.jobs, all]
      rfl
    rw [none] at stands
    have step : Works b { b with waiter := .back } := .leave stands none
    obtain ⟨⟨m, sound⟩, -⟩ := h.works step
    rw [Coordinator.wait_of_idle idle]
    refine ⟨m, _, .work .refl step, rfl, ⟨sound, h.ended, ?_⟩, by simp, rfl⟩
    have count : m = b.tasks.length := sound.back rfl
    simp [count]
  | succ n ih =>
    have inside : k < b.tasks.length := by omega
    obtain ⟨rest, unmet⟩ : ∃ rest, b.unmet = k :: rest := ⟨_, h.unmet_cons inside⟩
    have asked := List.getElem?_eq_getElem inside
    have settled := h.ended _ (List.getElem_mem inside)
    have jobs : c.jobs = b.tasks[k].failure :: (b.tasks.drop (k + 1)).map Task.failure := by
      rw [h.jobs, List.drop_eq_getElem_cons inside]
      rfl
    rw [unmet] at stands
    cases found : b.tasks[k].failure with
    | none =>
      rw [found] at jobs
      have step := Works.pass stands asked settled found
      have sound := h.meet stands asked settled (.inl rfl)
      rw [found] at sound
      have others : b.unmet.erase k = rest := by rw [unmet, List.erase_cons_head]
      have later : Answers (k + 1) { b with unmet := b.unmet.erase k, waiter := .inside rest }
          { c with jobs := (b.tasks.drop (k + 1)).map Task.failure } :=
        ⟨by simpa using sound, h.ended, rfl⟩
      obtain ⟨m, t, run, same, answers, met, waiter⟩ :=
        ih later (congrArg Waiter.inside others.symm) (by dsimp only; omega)
      rw [Coordinator.wait_of_success jobs]
      exact ⟨m, t, (Reaches.work .refl step).trans run, same, answers, met, waiter⟩
    | some fault =>
      rw [found] at jobs
      have step := Works.raise stands asked found
      have sound := h.meet stands asked settled (.inr rfl)
      rw [found] at sound
      rw [Coordinator.wait_of_failure jobs]
      exact ⟨k + 1, _, .work .refl step, rfl, ⟨sound, h.ended, rfl⟩, rfl, rfl⟩

/-- One who waits comes out of a wait as the coordinator says. -/
theorem Answers.wait (h : Answers k b c) (away : b.waiter = .away) :
    ∃ m t, Reaches b t ∧ t.tasks = b.tasks ∧ Answers m t c.wait.2 ∧
      t.met = b.met ++ c.wait.1.toList ∧
      t.waiter = if c.wait.1.isNone then .back else .away := by
  have call : Works b { b with waiter := .inside [] } := .call away
  by_cases none : b.unmet = []
  · have begun : Answers k { b with waiter := .inside [] } c := ⟨h.enter (.inl rfl), h.ended, h.jobs⟩
    obtain ⟨m, t, run, rest⟩ := begun.through (congrArg Waiter.inside none.symm)
    exact ⟨m, t, (Reaches.work .refl call).trans run, rest⟩
  · have copy : Works { b with waiter := .inside [] } { b with waiter := .inside b.unmet } :=
      .copy rfl none
    have copied : Answers k { b with waiter := .inside b.unmet } c :=
      ⟨h.enter (.inr rfl), h.ended, h.jobs⟩
    obtain ⟨m, t, run, rest⟩ := copied.through rfl
    exact ⟨m, t, (Reaches.work (.work .refl call) copy).trans run, rest⟩

/-- Waiting again and again comes to its end when the coordinator's waits do. -/
theorem Answers.waits {faults : List Fault} (waits : c.Waits faults d) (h : Answers k b c)
    (away : b.waiter = .away) :
    ∃ t, Reaches b t ∧ t.tasks = b.tasks ∧ t.met = b.met ++ faults ∧ t.waiter = .back := by
  induction waits generalizing k b with
  | back waited =>
    obtain ⟨m, t, run, same, -, met, waiter⟩ := h.wait away
    rw [waited] at met waiter
    exact ⟨t, run, same, met, waiter⟩
  | raised waited again ih =>
    obtain ⟨m, t, run, same, answers, met, waiter⟩ := h.wait away
    rw [waited] at answers met waiter
    obtain ⟨s, later, same', met', back⟩ := ih answers waiter
    refine ⟨s, run.trans later, same'.trans same, ?_, back⟩
    rw [met', met, List.append_assoc]
    rfl

theorem Mirrors.change (h : Mirrors c b) (same : d.jobs = c.jobs) :
    ∃ t, Reaches b t ∧ Mirrors d t := by
  have step : Asks b { b with coordinator := d } := .change d
  exact ⟨_, .ask .refl step, rfl, h.waiter, h.answers.ask step, h.answers.ended,
    same.trans h.answers.jobs⟩

theorem Mirrors.job (h : Mirrors c b) (isOpen : c.isOpen = true) (job : Job) :
    ∃ t, Reaches b t ∧ Mirrors (job.after c) t := by
  obtain ⟨rfl, away, answers⟩ := h
  have asked : Asks b (b.askFor job) := .job isOpen job
  have waiting : (b.askFor job).tasks[b.tasks.length]? = some ⟨job, none⟩ :=
    List.getElem?_concat_length
  have ready : (b.askFor job).Ready b.tasks.length job := by
    unfold Ready askFor
    dsimp only
    rw [List.take_left]
    exact fun task listed _ => answers.ended task listed
  have worked : Works (b.askFor job) ((b.askFor job).carryOut b.tasks.length job) :=
    .work waiting ready
  have done : (b.tasks ++ [Task.mk job none]).set b.tasks.length
        ⟨job, some (job.fault? b.coordinator)⟩
      = b.tasks ++ [⟨job, some (job.fault? b.coordinator)⟩] := by
    rw [List.set_append_right _ _ (Nat.le_refl _), Nat.sub_self]
    rfl
  refine ⟨_, .work (.ask .refl asked) worked, rfl, ?_, (answers.ask asked).carryOut waiting, ?_, ?_⟩
  · exact congrArg Waiter.roused away
  · unfold carryOut askFor
    dsimp only
    rw [done]
    intro task listed
    obtain before | last := List.mem_append.mp listed
    · exact answers.ended task before
    · rw [List.mem_singleton.mp last]
      nofun
  · unfold carryOut askFor
    dsimp only
    rw [done, job.after_jobs, answers.jobs]
    simp

theorem Mirrors.growTimes (h : Mirrors c b) (times : Nat) :
    ∃ t, Reaches b t ∧ Mirrors (c.growTimes times).coordinator t := by
  induction times generalizing c b with
  | zero => exact ⟨b, .refl, h⟩
  | succ times ih =>
    unfold Coordinator.growTimes
    cases isOpen : c.isOpen with
    | false => exact ⟨b, .refl, h⟩
    | true =>
      obtain ⟨s, first, grown⟩ := h.job isOpen .grow
      obtain ⟨t, later, mirrors⟩ := ih grown
      exact ⟨t, first.trans later, mirrors⟩

theorem Mirrors.render (h : Mirrors c b) :
    ∃ t, Reaches b t ∧ Mirrors c.render.coordinator t := by
  unfold Coordinator.render
  cases isOpen : c.isOpen with
  | false => exact ⟨b, .refl, h⟩
  | true => exact h.job isOpen .render

theorem Mirrors.perform (h : Mirrors c b) (request : Request α) :
    ∃ t, Reaches b t ∧ Mirrors (c.perform request).coordinator t := by
  cases request with
  | grow times => exact h.growTimes times
  | growAndRender times =>
    obtain ⟨s, first, grown⟩ := h.growTimes times
    unfold Coordinator.perform
    dsimp only
    cases (c.growTimes times).refusal with
    | some refusal => exact ⟨s, first, grown⟩
    | none =>
      obtain ⟨t, later, mirrors⟩ := grown.render
      exact ⟨t, first.trans later, mirrors⟩
  | render => exact h.render
  | growDirectly => exact h.change c.grow_jobs
  | resize size => exact h.change rfl
  | setAngle angle => exact h.change rfl
  | setStep step => exact h.change rfl
  | setBase base => exact h.change rfl
  | failNext fault => exact h.change rfl
  | shutdown => exact h.change rfl

theorem Mirrors.performs (h : Mirrors c b) (requests : List (Request α)) :
    ∃ t, Reaches b t ∧
      Mirrors (requests.foldl (fun c request => (c.perform request).coordinator) c) t := by
  induction requests generalizing c b with
  | nil => exact ⟨b, .refl, h⟩
  | cons request rest ih =>
    obtain ⟨s, first, performed⟩ := h.perform request
    obtain ⟨t, later, mirrors⟩ := ih performed
    exact ⟨t, first.trans later, mirrors⟩

end

/-- Whatever jobs are asked for and however they go on beside one who waits, what it meets is in
order and nothing else; it is never held up, it comes to an end of waiting, and then it has met each
failure once, all jobs are over, and another wait is back at once. A coordinator that has carried out
requests meets the same. -/
theorem failures_met_once [Scalar α] (c : Coordinator α) :
    (∀ b, Reaches (opened c) b →
      b.met <+: b.failures ∧
      (b.waiter = .back → b.met = b.failures ∧ b.unmet = [] ∧ (∀ task ∈ b.tasks, task.ended ≠ none) ∧
        ∀ t, Works { b with waiter := .inside [] } t ↔ t = b) ∧
      (∀ n t, WorksFor n b t → n ≤ b.left) ∧
      (b.waiter ≠ .back → ∃ t, Works b t)) ∧
    (c.jobs = [] → ∀ requests : List (Request α),
      let d := requests.foldl (fun c request => (c.perform request).coordinator) c
      ∃ b t, Reaches (opened c) b ∧ b.coordinator = d ∧ (∀ task ∈ b.tasks, task.ended ≠ none) ∧
        Reaches b t ∧ t.tasks = b.tasks ∧ t.waiter = .back ∧ t.met = b.failures ∧
        ∀ faults e, d.Waits faults e ↔ faults = b.failures ∧ e = { d with jobs := [] }) := by
  constructor
  · intro b run
    obtain ⟨k, sound⟩ := (Sound.opened c).reaches run
    refine ⟨sound.met_prefix, sound.at_back, ?_, sound.progress⟩
    intro n t worked
    exact Nat.le_trans (Nat.le_add_right n t.left) (sound.worksFor worked)
  · intro idle requests d
    obtain ⟨b, run, same, away, answers⟩ := (Mirrors.opened idle).performs requests
    obtain ⟨t, waited, tasks, met, back⟩ := answers.waits d.drain_waits away
    have jobs : d.jobs.filterMap id = b.failures := by
      rw [answers.jobs, List.filterMap_map]
      rfl
    refine ⟨b, t, run, same, answers.ended, waited, tasks, back, ?_, ?_⟩
    · rw [met, answers.met]
      exact jobs
    · intro faults e
      rw [Coordinator.waits_iff_drain]
      unfold Coordinator.drain
      rw [jobs, Prod.mk.injEq, eq_comm, @eq_comm _ e]

/-- Of a render that crashes, one that fails, one that succeeds and a growth without a step, the first
and the last are met. -/
theorem crash_and_stepless_growth_met :
    let c : Coordinator Float :=
      .start (.start ['X'] (.ofRules []) 0) ⟨.degrees, 20.0, 5⟩ 10.0 ⟨.whole 100, .whole 100⟩
    let crash : SurfaceFault := ⟨"OSError", "disk full", false⟩
    let requests : List (Request Float) := [.failNext crash, .render,
      .failNext ⟨"RenderError", "no canvas", true⟩, .render, .render, .grow 1]
    let d := requests.foldl (fun c request => (c.perform request).coordinator) c
    c.jobs = [] ∧ ∃ b, Reaches (opened c) b ∧ b.waiter = .back ∧
      b.met = [.surface crash, .progressStep] ∧ b.failures = b.met ∧ b.unmet = [] ∧
      (∀ t, Works { b with waiter := .inside [] } t ↔ t = b) ∧
      d.Waits [.surface crash, .progressStep] { d with jobs := [] } := by
  intro c crash requests d
  have found : d.drain.1 = [.surface crash, .progressStep] := by decide +kernel
  obtain ⟨beside, after⟩ := failures_met_once c
  obtain ⟨b, t, run, -, -, waited, -, back, met, waits⟩ := after rfl requests
  have drained := (waits _ _).mp d.drain_waits
  have failures : b.failures = [.surface crash, .progressStep] := drained.1.symm.trans found
  have reached := run.trans waited
  obtain ⟨-, home, -⟩ := beside t reached
  obtain ⟨all, none, -, again⟩ := home back
  refine ⟨rfl, t, reached, back, met.trans failures, all.symm, none, again, ?_⟩
  exact (waits _ _).mpr ⟨failures.symm, rfl⟩

end Backlog

end LSystems
