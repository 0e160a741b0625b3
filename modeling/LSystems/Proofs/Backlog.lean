import LSystems.Coordinator

namespace LSystems

/-- What a coordinator does beside those who ask for it. -/
inductive Job
  | grow
  | render
deriving DecidableEq

namespace Job

/-- Whether a fault of a job is passed on to those who wait; a render keeps what is expected to
itself. -/
def passesOn : Job → Fault → Bool
  | grow, _ => true
  | render, fault => !fault.isExpected

variable {α : Type} [Scalar α]

/-- The fault that a job ends with. -/
def fault? (c : Coordinator α) : Job → Option Fault
  | grow => c.grow.2.2
  | render =>
    match c.pipeline.outcome with
    | .ok () => none
    | .error fault => some fault

/-- The coordinator after a job. -/
def after (c : Coordinator α) : Job → Coordinator α
  | grow => c.growJob.2
  | render => c.renderJob.2

end Job

/-- A job that has been asked for, and how it has ended if it is over: without a fault or with one. -/
structure Task where
  job : Job
  ended : Option (Option Fault)

/-- The fault of a job that those who wait are to meet. -/
def Task.failure (task : Task) : Option Fault :=
  task.ended.join.filter task.job.passesOn

/-- Where the one who waits stands: not in a wait, or in one that has ended with a fault; in a wait,
with the rest of the jobs that it has copied; or back from a wait that met no fault, with no job
asked for since. -/
inductive Waiter
  | away
  | inside (copied : List Nat)
  | back

/-- A new job makes void that a wait has come back. -/
def Waiter.roused : Waiter → Waiter
  | back => away
  | waiter => waiter

theorem Waiter.inside_of_roused {waiter : Waiter} {copied : List Nat}
    (inside : waiter.roused = .inside copied) : waiter = .inside copied := by
  cases waiter with
  | inside rest => exact inside
  | away => cases inside
  | back => cases inside

theorem Waiter.roused_ne_back (waiter : Waiter) : waiter.roused ≠ .back := by
  cases waiter <;> nofun

/-- How many steps the one who waits can take without a job that ends. -/
def Waiter.rank : Waiter → Nat
  | away => 2
  | inside [] => 1
  | inside (_ :: _) => 0
  | back => 0

theorem Waiter.rank_inside_le (copied : List Nat) : (inside copied).rank ≤ 1 := by
  cases copied with
  | nil => exact Nat.le_refl 1
  | cons => exact Nat.zero_le 1

/-- A coordinator whose jobs are carried out beside the one who waits for them: the jobs in the order
in which they have been asked for, the numbers of those that are still to be met, where the one who
waits stands, and the faults that it has met. -/
structure Backlog (α : Type) where
  coordinator : Coordinator α
  tasks : List Task
  unmet : List Nat
  waiter : Waiter
  met : List Fault

namespace Backlog

variable {α : Type}

/-- A coordinator that no job has been asked of. -/
def opened (c : Coordinator α) : Backlog α :=
  ⟨c, [], [], .away, []⟩

/-- The faults that are to be met, in the order in which the jobs have been asked for. -/
def failures (b : Backlog α) : List Fault :=
  b.tasks.filterMap Task.failure

/-- Asks for a job. -/
def askFor (b : Backlog α) (job : Job) : Backlog α :=
  { b with
    tasks := b.tasks ++ [⟨job, none⟩]
    unmet := b.unmet ++ [b.tasks.length]
    waiter := b.waiter.roused }

/-- Whether nothing holds up a job: growing waits for the growing that has been asked for before, and
a render for whatever has been. -/
def Ready (b : Backlog α) (number : Nat) (job : Job) : Prop :=
  ∀ task ∈ b.tasks.take number, job = .render ∨ task.job = .grow → task.ended ≠ none

/-- Carries out a job. -/
def carryOut [Scalar α] (b : Backlog α) (number : Nat) (job : Job) : Backlog α :=
  { b with
    coordinator := job.after b.coordinator
    tasks := b.tasks.set number ⟨job, some (job.fault? b.coordinator)⟩ }

/-- What goes on by itself. A wait copies the jobs that are still to be met and goes through the
copy, each one when it is over; a fault ends the wait, and so does a copy of none. One who waits
begins again after a fault. -/
inductive Works [Scalar α] : Backlog α → Backlog α → Prop
  | work {b : Backlog α} {number : Nat} {job : Job} (asked : b.tasks[number]? = some ⟨job, none⟩)
    (ready : b.Ready number job) : Works b (b.carryOut number job)
  | call {b : Backlog α} (away : b.waiter = .away) : Works b { b with waiter := .inside [] }
  | copy {b : Backlog α} (through : b.waiter = .inside []) (left : b.unmet ≠ []) :
      Works b { b with waiter := .inside b.unmet }
  | leave {b : Backlog α} (through : b.waiter = .inside []) (none : b.unmet = []) :
      Works b { b with waiter := .back }
  | pass {b : Backlog α} {number : Nat} {rest : List Nat} {task : Task}
    (next : b.waiter = .inside (number :: rest)) (asked : b.tasks[number]? = some task)
    (settled : task.ended ≠ none) (silent : task.failure = none) :
      Works b { b with unmet := b.unmet.erase number, waiter := .inside rest }
  | raise {b : Backlog α} {number : Nat} {rest : List Nat} {task : Task} {fault : Fault}
    (next : b.waiter = .inside (number :: rest)) (asked : b.tasks[number]? = some task)
    (failed : task.failure = some fault) :
      Works b { b with
        unmet := b.unmet.erase number, waiter := .away, met := b.met ++ [fault] }

/-- What can be done from outside: a job is asked for, the coordinator is changed in whatever way, and
one who is back waits once more. -/
inductive Asks : Backlog α → Backlog α → Prop
  | job {b : Backlog α} (isOpen : b.coordinator.isOpen = true) (job : Job) :
      Asks b (b.askFor job)
  | change {b : Backlog α} (c : Coordinator α) : Asks b { b with coordinator := c }
  | call {b : Backlog α} (back : b.waiter = .back) : Asks b { b with waiter := .inside [] }

/-- What a backlog comes to, in whatever order jobs are asked for, carried out and waited for. -/
inductive Reaches [Scalar α] (b : Backlog α) : Backlog α → Prop
  | refl : Reaches b b
  | ask {s t : Backlog α} (before : Reaches b s) (step : Asks s t) : Reaches b t
  | work {s t : Backlog α} (before : Reaches b s) (step : Works s t) : Reaches b t

/-- So many steps with nothing asked for on the way. -/
inductive WorksFor [Scalar α] : Nat → Backlog α → Backlog α → Prop
  | none {b : Backlog α} : WorksFor 0 b b
  | more {n : Nat} {b s t : Backlog α} (step : Works b s) (later : WorksFor n s t) :
      WorksFor (n + 1) b t

/-- A bound of the steps that are left when nothing more is asked for. -/
def left (b : Backlog α) : Nat :=
  b.tasks.countP (fun task => task.ended.isNone) + 3 * b.unmet.length + b.waiter.rank

/-- What holds when the first `k` jobs have been met: they are over, what they failed with has been
passed on, and the others are still to be met, in a copy of them too. -/
structure Sound (k : Nat) (b : Backlog α) : Prop where
  asked : k ≤ b.tasks.length
  unmet : b.unmet = List.range' k (b.tasks.length - k)
  settled : ∀ task ∈ b.tasks.take k, task.ended ≠ none
  met : b.met = (b.tasks.take k).filterMap Task.failure
  copied : ∀ copied, b.waiter = .inside copied →
    ∃ m, copied = List.range' k m ∧ k + m ≤ b.tasks.length
  back : b.waiter = .back → k = b.tasks.length

section
variable {b t : Backlog α} {k : Nat}

theorem Sound.opened (c : Coordinator α) : Sound 0 (opened c) :=
  ⟨Nat.le_refl 0, rfl, nofun, rfl, nofun, nofun⟩

/-- One who waits may begin to go through the jobs or through a new copy of them. -/
theorem Sound.enter (h : Sound k b) {copied : List Nat} (part : copied = [] ∨ copied = b.unmet) :
    Sound k { b with waiter := .inside copied } := by
  refine ⟨h.asked, h.unmet, h.settled, h.met, ?_, nofun⟩
  rintro copied ⟨⟩
  obtain rfl | rfl := part
  · exact ⟨0, rfl, h.asked⟩
  · exact ⟨_, h.unmet, Nat.le_of_eq (Nat.add_sub_of_le h.asked)⟩

theorem Sound.met_prefix (h : Sound k b) : b.met <+: b.failures := by
  rw [h.met]
  exact (List.take_prefix k b.tasks).filterMap _

theorem Sound.askFor (h : Sound k b) (job : Job) : Sound k (b.askFor job) := by
  have asked := h.asked
  have same : (b.askFor job).tasks.take k = b.tasks.take k := List.take_append_of_le_length asked
  have count : (b.askFor job).tasks.length = b.tasks.length + 1 := List.length_append
  refine ⟨by omega, ?_, ?_, ?_, ?_, ?_⟩
  · unfold Backlog.askFor at count ⊢
    dsimp only at count ⊢
    rw [h.unmet, count, Nat.succ_sub asked, List.range'_concat]
    congr 2
    omega
  · rw [same]
    exact h.settled
  · rw [same]
    exact h.met
  · intro copied inside
    obtain ⟨m, all, within⟩ := h.copied copied (Waiter.inside_of_roused inside)
    exact ⟨m, all, by omega⟩
  · intro back
    exact (b.waiter.roused_ne_back back).elim

theorem Sound.ask (h : Sound k b) (step : Asks b t) : Sound k t := by
  cases step with
  | change c => exact ⟨h.asked, h.unmet, h.settled, h.met, h.copied, h.back⟩
  | call back => exact h.enter (.inl rfl)
  | job isOpen job => exact h.askFor job

/-- A job that can be carried out is not one of those that have been met. -/
theorem Sound.le_of_waiting (h : Sound k b) {number : Nat} {job : Job}
    (asked : b.tasks[number]? = some ⟨job, none⟩) : k ≤ number := by
  apply Nat.le_of_not_lt
  intro earlier
  have taken : (b.tasks.take k)[number]? = some ⟨job, none⟩ := by
    rw [List.getElem?_take_of_lt earlier, asked]
  exact h.settled _ (List.mem_of_getElem? taken) rfl

theorem Sound.unmet_cons (h : Sound k b) (inside : k < b.tasks.length) :
    b.unmet = k :: List.range' (k + 1) (b.tasks.length - (k + 1)) := by
  rw [h.unmet, ← List.range'_succ]
  congr 1
  omega

/-- The job that a wait looks at is the first one that has not been met. -/
theorem Sound.next (h : Sound k b) {number : Nat} {rest : List Nat}
    (next : b.waiter = .inside (number :: rest)) :
    number = k ∧ k < b.tasks.length ∧
      (∃ m, rest = List.range' (k + 1) m ∧ k + 1 + m ≤ b.tasks.length) ∧
      b.unmet.erase number = List.range' (k + 1) (b.tasks.length - (k + 1)) ∧
      b.unmet.length = (b.unmet.erase number).length + 1 := by
  -- A copy is a beginning of what is unmet, since new jobs come last and jobs are met in order.
  obtain ⟨m, all, within⟩ := h.copied _ next
  cases m with
  | zero => cases all
  | succ m =>
    obtain ⟨rfl, rest⟩ := List.cons.inj (all.trans List.range'_succ)
    have inside : number < b.tasks.length := by omega
    have unmet := h.unmet_cons inside
    refine ⟨rfl, inside, ⟨m, rest, by omega⟩, ?_, ?_⟩
    · rw [unmet, List.erase_cons_head]
    · rw [unmet, List.erase_cons_head, List.length_cons]

/-- A job that is over is met by going past it or by leaving the wait. -/
theorem Sound.meet (h : Sound k b) {number : Nat} {rest : List Nat} {task : Task}
    (next : b.waiter = .inside (number :: rest)) (asked : b.tasks[number]? = some task)
    (settled : task.ended ≠ none) {waiter : Waiter} (stands : waiter = .inside rest ∨ waiter = .away) :
    Sound (k + 1) { b with
      unmet := b.unmet.erase number, waiter := waiter, met := b.met ++ task.failure.toList } := by
  obtain ⟨rfl, inside, later, unmet, -⟩ := h.next next
  have taken : b.tasks.take (number + 1) = b.tasks.take number ++ [task] := by
    rw [List.take_add_one, asked]
    rfl
  refine ⟨inside, unmet, ?_, ?_, ?_, ?_⟩
  · intro earlier listed
    dsimp only at listed
    rw [taken, List.mem_append] at listed
    obtain before | last := listed
    · exact h.settled earlier before
    · rw [List.mem_singleton.mp last]
      exact settled
  · dsimp only
    rw [taken, List.filterMap_append, h.met]
    cases found : task.failure with
    | none => simp [found]
    | some fault => simp [found]
  · rintro copied inside
    obtain rfl | rfl := stands
    · cases inside
      exact later
    · cases inside
  · intro back
    obtain rfl | rfl := stands
    · cases back
    · cases back

/-- The first job that is not over can be carried out. -/
theorem exists_ready {task : Task} (asked : task ∈ b.tasks) (waiting : task.ended = none) :
    ∃ number job, b.tasks[number]? = some ⟨job, none⟩ ∧ b.Ready number job := by
  have first : ∃ number job, b.tasks[number]? = some ⟨job, none⟩ ∧
      ∀ earlier ∈ b.tasks.take number, earlier.ended ≠ none := by
    generalize b.tasks = tasks at asked
    induction tasks with
    | nil => cases asked
    | cons head rest ih =>
      obtain ⟨job, ended⟩ := head
      cases ended with
      | none => exact ⟨0, job, rfl, nofun⟩
      | some outcome =>
        obtain rfl | later := List.mem_cons.mp asked
        · cases waiting
        · obtain ⟨number, job', found, settled⟩ := ih later
          refine ⟨number + 1, job', found, ?_⟩
          rw [List.take_succ_cons]
          intro earlier listed
          obtain rfl | before := List.mem_cons.mp listed
          · nofun
          · exact settled earlier before
  obtain ⟨number, job, found, settled⟩ := first
  exact ⟨number, job, found, fun earlier listed _ => settled earlier listed⟩

variable [Scalar α]

theorem Sound.carryOut (h : Sound k b) {number : Nat} {job : Job}
    (asked : b.tasks[number]? = some ⟨job, none⟩) : Sound k (b.carryOut number job) := by
  have beyond := h.le_of_waiting asked
  have count : (b.carryOut number job).tasks.length = b.tasks.length := List.length_set
  have same : (b.carryOut number job).tasks.take k = b.tasks.take k := List.take_set_of_le beyond
  refine ⟨?_, ?_, ?_, ?_, ?_, ?_⟩
  · rw [count]
    exact h.asked
  · rw [count]
    exact h.unmet
  · rw [same]
    exact h.settled
  · rw [same]
    exact h.met
  · rw [count]
    exact h.copied
  · rw [count]
    exact h.back

theorem left_carryOut {number : Nat} {job : Job}
    (asked : b.tasks[number]? = some ⟨job, none⟩) : (b.carryOut number job).left < b.left := by
  obtain ⟨inside, found⟩ := List.getElem?_eq_some_iff.mp asked
  have some_left : 0 < b.tasks.countP fun task => task.ended.isNone :=
    List.countP_pos_iff.mpr ⟨_, List.mem_of_getElem? asked, rfl⟩
  have fewer : (b.carryOut number job).tasks.countP (fun task => task.ended.isNone)
      = b.tasks.countP (fun task => task.ended.isNone) - 1 := by
    unfold carryOut
    dsimp only
    rw [List.countP_set inside, found]
    rfl
  unfold left
  rw [fewer]
  have same : (b.carryOut number job).unmet = b.unmet ∧ (b.carryOut number job).waiter = b.waiter :=
    ⟨rfl, rfl⟩
  rw [same.1, same.2]
  omega

/-- What goes on by itself leads on: jobs are met in their order, and less is left to do. -/
theorem Sound.works (h : Sound k b) (step : Works b t) : (∃ k, Sound k t) ∧ t.left < b.left := by
  cases step with
  | work asked ready => exact ⟨⟨k, h.carryOut asked⟩, left_carryOut asked⟩
  | call away =>
    refine ⟨⟨k, h.enter (.inl rfl)⟩, ?_⟩
    unfold left
    rw [away]
    exact Nat.lt_succ_self _
  | copy through some_left =>
    refine ⟨⟨k, h.enter (.inr rfl)⟩, ?_⟩
    obtain ⟨number, rest, unmet⟩ := List.exists_cons_of_ne_nil some_left
    unfold left
    rw [through, unmet]
    exact Nat.lt_succ_self _
  | leave through none =>
    refine ⟨⟨k, h.asked, h.unmet, h.settled, h.met, nofun, fun _ => ?_⟩, ?_⟩
    · have all : b.tasks.length - k = 0 := List.range'_eq_nil_iff.mp (h.unmet.symm.trans none)
      exact Nat.le_antisymm h.asked (Nat.le_of_sub_eq_zero all)
    · unfold left
      rw [through]
      exact Nat.lt_succ_self _
  | @pass number rest task next asked settled silent =>
    have sound := h.meet next asked settled (.inl rfl)
    rw [silent] at sound
    obtain ⟨-, -, -, -, fewer⟩ := h.next next
    refine ⟨⟨k + 1, by simpa using sound⟩, ?_⟩
    unfold left
    rw [next, fewer]
    dsimp only
    have := Waiter.rank_inside_le rest
    omega
  | @raise number rest task fault next asked failed =>
    have settled : task.ended ≠ none := by
      intro waiting
      unfold Task.failure at failed
      rw [waiting] at failed
      cases failed
    have sound := h.meet next asked settled (.inr rfl)
    rw [failed] at sound
    obtain ⟨-, -, -, -, fewer⟩ := h.next next
    refine ⟨⟨k + 1, sound⟩, ?_⟩
    unfold left
    rw [next, fewer]
    dsimp only
    have : Waiter.away.rank = 2 := rfl
    omega

theorem Sound.reaches (h : Sound k b) (run : Reaches b t) : ∃ k, Sound k t := by
  induction run with
  | refl => exact ⟨k, h⟩
  | ask before step ih =>
    obtain ⟨m, sound⟩ := ih
    exact ⟨m, sound.ask step⟩
  | work before step ih =>
    obtain ⟨m, sound⟩ := ih
    exact (sound.works step).1

theorem Sound.worksFor (h : Sound k b) {n : Nat} (run : WorksFor n b t) : n + t.left ≤ b.left := by
  induction run generalizing k with
  | none => omega
  | more step later ih =>
    obtain ⟨⟨m, sound⟩, less⟩ := h.works step
    have := ih sound
    omega

/-- Nothing holds up one who waits. -/
theorem Sound.progress (h : Sound k b) (waits : b.waiter ≠ .back) : ∃ t, Works b t := by
  cases stands : b.waiter with
  | back => exact (waits stands).elim
  | away => exact ⟨_, .call stands⟩
  | inside copied =>
    cases copied with
    | nil =>
      by_cases none : b.unmet = []
      · exact ⟨_, .leave stands none⟩
      · exact ⟨_, .copy stands none⟩
    | cons number rest =>
      obtain ⟨rfl, inside, -⟩ := h.next stands
      have asked := List.getElem?_eq_getElem inside
      by_cases settled : b.tasks[number].ended ≠ none
      · cases found : b.tasks[number].failure with
        | none => exact ⟨_, .pass stands asked settled found⟩
        | some fault => exact ⟨_, .raise stands asked found⟩
      · -- The job looked at may have to wait for another one, but never the first that is not over.
        have waiting : b.tasks[number].ended = none := Decidable.not_not.mp settled
        obtain ⟨earlier, job, found, ready⟩ := exists_ready (List.getElem_mem inside) waiting
        exact ⟨_, .work found ready⟩

/-- One who is back has met all failures; there is nothing left to do but to come back again. -/
theorem Sound.at_back (h : Sound k b) (back : b.waiter = .back) :
    b.met = b.failures ∧ b.unmet = [] ∧ (∀ task ∈ b.tasks, task.ended ≠ none) ∧
      ∀ t, Works { b with waiter := .inside [] } t ↔ t = b := by
  have all : k = b.tasks.length := h.back back
  have taken : b.tasks.take k = b.tasks := List.take_of_length_le (by omega)
  have none : b.unmet = [] := by
    rw [h.unmet, all, Nat.sub_self]
    rfl
  have settled := h.settled
  have met := h.met
  rw [taken] at settled met
  refine ⟨met, none, settled, fun t => ⟨?_, ?_⟩⟩
  · intro step
    cases step with
    | work asked ready => exact (settled _ (List.mem_of_getElem? asked) rfl).elim
    | call away => cases away
    | copy through some_left => exact (some_left none).elim
    | leave through _ => rw [← back]
    | pass next => cases next
    | raise next => cases next
  · rintro rfl
    have leave : Works { t with waiter := .inside [] } { t with waiter := .back } := .leave rfl none
    rwa [← back] at leave

theorem Reaches.trans {s : Backlog α} (h : Reaches b s) (later : Reaches s t) : Reaches b t := by
  induction later with
  | refl => exact h
  | ask _ step ih => exact ih.ask step
  | work _ step ih => exact ih.work step

end

end Backlog

end LSystems
