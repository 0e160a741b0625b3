import LSystems.Proofs.Percentages
import Mathlib.Algebra.Order.Floor.Div
import Mathlib.GroupTheory.GroupAction.Ring
import Mathlib.Data.List.Chain
import Mathlib.Data.List.ReduceOption

namespace LSystems

namespace Throttle

/-- What anybody may ask of a throttle, in any order: the percentage of a count, or to come to
its end. -/
inductive Call
  | update (count : Int)
  | finish
deriving DecidableEq

/-- Carries out one call. -/
def answer (t : Throttle) : Call → Option Int × Throttle
  | .update count => t.update count
  | .finish => t.finish

/-- The throttle that is left by calls. -/
def after (t : Throttle) : List Call → Throttle
  | [] => t
  | call :: rest => (t.answer call).2.after rest

/-- The answers to calls, each to the throttle that the calls before it leave. -/
def answers (t : Throttle) : List Call → List (Option Int)
  | [] => []
  | call :: rest => (t.answer call).1 :: (t.answer call).2.answers rest

variable {t : Throttle}

/-- A call changes nothing, or it sends a percentage that is remembered: 100, or one that lies a step
above what was remembered before. -/
theorem answer_cases (t : Throttle) (call : Call) :
    t.answer call = (none, t) ∨ ∃ p next, t.answer call = (some p, next) ∧
      (t.step ≤ p - t.last ∨ p = 100) ∧ next.step = t.step ∧ next.total = t.total := by
  cases call with
  | update count =>
    unfold answer update
    dsimp only
    split_ifs with silent sends
    · exact .inl rfl
    · exact .inr ⟨_, _, rfl, sends.symm, rfl, rfl⟩
    · exact .inl rfl
  | finish =>
    unfold answer Throttle.finish
    split_ifs
    · exact .inl rfl
    · exact .inr ⟨100, _, rfl, .inr rfl, rfl, rfl⟩

theorem answer_of_finished (finished : t.finished = true) (call : Call) :
    t.answer call = (none, t) := by
  cases call with
  | update count => simp [answer, update, finished]
  | finish => simp [answer, Throttle.finish, finished]

theorem update_of_no_total (empty : t.total ≤ 0) (count : Int) : t.update count = (none, t) := by
  simp [update, empty]

theorem after_step_total (t : Throttle) (calls : List Call) :
    (t.after calls).step = t.step ∧ (t.after calls).total = t.total := by
  induction calls generalizing t with
  | nil => exact ⟨rfl, rfl⟩
  | cons call rest ih =>
    show ((t.answer call).2.after rest).step = _ ∧ ((t.answer call).2.after rest).total = _
    obtain same | ⟨p, next, sends, -, step, total⟩ := t.answer_cases call
    · rw [same]
      exact ih t
    · rw [sends, ← step, ← total]
      exact ih next

theorem after_of_finished (finished : t.finished = true) (calls : List Call) :
    t.after calls = t := by
  induction calls with
  | nil => rfl
  | cons call rest ih =>
    show (t.answer call).2.after rest = t
    rw [answer_of_finished finished]
    exact ih

theorem finished_of_mem {calls : List Call} (ended : .finish ∈ calls) :
    (t.after calls).finished = true := by
  induction calls generalizing t with
  | nil => cases ended
  | cons call rest ih =>
    show ((t.answer call).2.after rest).finished = true
    rcases List.mem_cons.mp ended with rfl | later
    · have done : (t.answer .finish).2.finished = true := by
        show t.finish.2.finished = true
        unfold Throttle.finish
        split_ifs with before
        · exact before
        · rfl
      rw [after_of_finished done]
      exact done
    · exact ih later

theorem getElem?_answers (t : Throttle) (calls : List Call) (k : Nat) :
    (t.answers calls)[k]?
      = calls[k]?.map fun call => ((t.after (calls.take k)).answer call).1 := by
  induction calls generalizing t k with
  | nil => rfl
  | cons call rest ih =>
    cases k with
    | zero => rfl
    | succ k => exact ih (t.answer call).2 k

/-- What a throttle has sent, each percentage a step above the one before it unless it is 100. -/
structure Spaced (t : Throttle) (sent : List Int) : Prop extends Sent t sent where
  apart : sent.IsChain fun p q => t.step ≤ q - p ∨ q = 100

namespace Spaced

variable {sent : List Int}

theorem of_start {total step : Int} (started : Throttle.start total step = .ok t) :
    Spaced t [] :=
  ⟨.of_start started, .nil⟩

theorem answer (h : Spaced t sent) (call : Call) :
    Spaced (t.answer call).2 (sent ++ (t.answer call).1.toList) := by
  have onward : Sent (t.answer call).2 (sent ++ (t.answer call).1.toList) := by
    cases call with
    | update count => exact h.toSent.update count
    | finish => exact h.toSent.finish
  refine ⟨onward, ?_⟩
  obtain same | ⟨p, next, sends, above, step, -⟩ := t.answer_cases call
  · rw [same]
    simpa using h.apart
  · rw [sends, step]
    apply h.apart.append (List.isChain_singleton p)
    intro q previous r now
    have member : q ∈ sent := List.mem_of_getLast? previous
    have := h.le_last q member
    obtain rfl : p = r := by simpa using now
    omega

theorem answers (h : Spaced t sent) (calls : List Call) :
    Spaced (t.after calls) (sent ++ (t.answers calls).reduceOption) := by
  induction calls generalizing t sent with
  | nil => simpa [after, Throttle.answers] using h
  | cons call rest ih =>
    have onward := ih (h.answer call)
    have parts : (t.answers (call :: rest)).reduceOption
        = (t.answer call).1.toList ++ ((t.answer call).2.answers rest).reduceOption := by
      show ((t.answer call).1 :: (t.answer call).2.answers rest).reduceOption = _
      cases (t.answer call).1 <;> simp
    rw [parts, ← List.append_assoc]
    exact onward

theorem lt {k l : Nat} {p q : Int} (h : Spaced t sent) (before : k < l) (first : sent[k]? = some p)
    (second : sent[l]? = some q) : p < q := by
  obtain ⟨inside, rfl⟩ := List.getElem?_eq_some_iff.mp first
  obtain ⟨inside', rfl⟩ := List.getElem?_eq_some_iff.mp second
  exact List.pairwise_iff_getElem.mp h.rising k l inside inside' before

/-- Only the last percentage may come sooner than a step after the one before it, and it is 100. -/
theorem step_le {k : Nat} {p q : Int} (h : Spaced t sent) (first : sent[k]? = some p)
    (second : sent[k + 1]? = some q) : t.step ≤ q - p ∨ q = 100 ∧ k + 2 = sent.length := by
  obtain ⟨inside, rfl⟩ := List.getElem?_eq_some_iff.mp second
  obtain ⟨inside', rfl⟩ := List.getElem?_eq_some_iff.mp first
  refine (h.apart.getElem k inside).imp_right fun hundred => ⟨hundred, ?_⟩
  by_contra onward
  obtain ⟨r, third⟩ : ∃ r, sent[k + 2]? = some r :=
    ⟨_, List.getElem?_eq_getElem (by omega)⟩
  have above := h.lt (Nat.lt_succ_self (k + 1)) second third
  have below := (h.within r (List.mem_of_getElem? third)).2
  omega

theorem mul_step_le {k : Nat} {p : Int} (h : Spaced t sent) (found : sent[k]? = some p)
    (below : p < 100) : k * t.step ≤ p := by
  induction k generalizing p with
  | zero =>
    have := (h.within p (List.mem_of_getElem? found)).1
    omega
  | succ k ih =>
    have inside := (List.getElem?_eq_some_iff.mp found).1
    obtain ⟨q, previous⟩ : ∃ q, sent[k]? = some q := ⟨_, List.getElem?_eq_getElem (by omega)⟩
    have less := h.lt (Nat.lt_succ_self k) previous found
    have earlier := ih previous (by omega)
    obtain far | ⟨hundred, -⟩ := h.step_le previous found
    · rw [Int.natCast_succ, Int.add_mul, Int.one_mul]
      omega
    · omega

theorem length_le (h : Spaced t sent) : sent.length ≤ 100 ⌈/⌉ t.step.toNat + 1 := by
  have step_pos := t.step_pos
  by_contra longer
  obtain ⟨k, length⟩ : ∃ k, sent.length = k + 2 := ⟨sent.length - 2, by omega⟩
  obtain ⟨p, found⟩ : ∃ p, sent[k]? = some p := ⟨_, List.getElem?_eq_getElem (by omega)⟩
  obtain ⟨q, next⟩ : ∃ q, sent[k + 1]? = some q := ⟨_, List.getElem?_eq_getElem (by omega)⟩
  have less := h.lt (Nat.lt_succ_self k) found next
  have below := (h.within q (List.mem_of_getElem? next)).2
  have reached := h.mul_step_le found (by omega)
  -- Before 100 there is room for no more than so many percentages a step apart.
  have room : 100 ≤ t.step.toNat * k := by
    apply (ceilDiv_le_iff_le_mul (by omega)).mp
    omega
  have total : ((t.step.toNat * k : Nat) : Int) = k * t.step := by
    rw [Int.natCast_mul, Int.toNat_of_nonneg (by omega), Int.mul_comm]
  omega

end Spaced

/-- In whatever order a throttle is called and with whatever counts, it sends percentages that go
up by its step, and no more once it has sent 100, which a call to finish makes sure of. -/
theorem calls_spaced (total step : Int) (least : 1 ≤ step) (calls : List Call) :
    ∃ t, start total step = .ok t ∧
      let answers := t.answers calls
      let sent := answers.reduceOption
      (∀ p ∈ sent, 0 ≤ p ∧ p ≤ 100) ∧ sent.Pairwise (· < ·) ∧
      (∀ (k : Nat) p q, sent[k]? = some p → sent[k + 1]? = some q →
        step ≤ q - p ∨ q = 100 ∧ k + 2 = sent.length) ∧
      (∀ (k l : Nat) a, k < l → answers[k]? = some (some 100) → answers[l]? = some a → a = none) ∧
      sent.length ≤ 100 ⌈/⌉ step.toNat + 1 ∧
      (.finish ∈ calls → sent.count 100 = 1) ∧
      (total ≤ 0 → ∀ (k : Nat) count, calls[k]? = some (.update count) →
        answers[k]? = some none) := by
  obtain ⟨t, started⟩ : ∃ t, start total step = .ok t := ⟨_, start_eq_ok least⟩
  refine ⟨t, started, ?_⟩
  intro answers sent
  have spaced : Spaced (t.after calls) sent := (Spaced.of_start started).answers calls
  obtain ⟨_, rfl⟩ := eq_of_start started
  have same := (after_step_total ⟨total, step, -step, false, least⟩ calls).1
  refine ⟨spaced.within, spaced.rising, ?_, ?_, ?_, ?_, ?_⟩
  · intro k p q first second
    have apart := spaced.step_le first second
    rw [same] at apart
    exact apart
  · intro k l a before hundred found
    cases a with
    | none => rfl
    | some p =>
      have rising := List.pairwise_filterMap.mp spaced.rising
      obtain ⟨inside, first⟩ := List.getElem?_eq_some_iff.mp hundred
      obtain ⟨inside', second⟩ := List.getElem?_eq_some_iff.mp found
      have above := List.pairwise_iff_getElem.mp rising k l inside inside' before 100 first p second
      have member : p ∈ sent := List.reduceOption_mem_iff.mpr (List.mem_of_getElem? found)
      have := (spaced.within p member).2
      omega
  · have few := spaced.length_le
    rw [same] at few
    exact few
  · intro ended
    exact (spaced.complete (finished_of_mem ended)).count_hundred
  · intro empty k count asked
    have stays := (after_step_total ⟨total, step, -step, false, least⟩ (calls.take k)).2
    rw [getElem?_answers, asked]
    show some (update _ count).1 = some none
    rw [update_of_no_total (by rw [stays]; exact empty)]

/-- Counts below zero and beyond the total, in no order, and two calls to finish. -/
theorem unordered_calls_spaced :
    let calls : List Call := [.update (-7), .update 9, .update 20, .update 3, .update 70, .update 44,
      .update 800, .finish, .update 71, .finish]
    let t : Throttle := ⟨90, 30, -30, false, by decide⟩
    let empty : Throttle := ⟨0, 30, -30, false, by decide⟩
    let sent := (t.answers calls).reduceOption
    1 ≤ (30 : Int) ∧ start 90 30 = .ok t ∧
      t.answers calls = [none, some 10, none, none, some 77, none, some 100, none, none, none] ∧
      (∀ p ∈ sent, 0 ≤ p ∧ p ≤ 100) ∧ sent.Pairwise (· < ·) ∧
      sent.length ≤ 100 ⌈/⌉ (30 : Int).toNat + 1 ∧ .finish ∈ calls ∧ sent.count 100 = 1 ∧
      start 0 30 = .ok empty ∧ calls[4]? = some (.update 70) ∧
      (empty.answers calls)[4]? = some none := by
  intro calls t empty sent
  have least : 1 ≤ (30 : Int) := by decide
  have ended : .finish ∈ calls := by decide
  obtain ⟨t', started, within, rising, -, -, few, once, -⟩ := calls_spaced 90 30 least calls
  obtain ⟨empty', started', -, -, -, -, -, -, silent⟩ := calls_spaced 0 30 least calls
  cases started
  cases started'
  exact ⟨least, rfl, by decide, within, rising, few, ended, once ended, rfl, rfl,
    silent (Int.le_refl 0) 4 70 rfl⟩

end Throttle

end LSystems
