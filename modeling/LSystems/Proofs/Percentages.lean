import LSystems.Proofs.Reports
import LSystems.Proofs.Rewritten
import Mathlib.Tactic.SplitIfs

namespace LSystems

/-- Percentages that go up to 100. -/
structure Complete (sent : List Int) : Prop where
  rising : sent.Pairwise (· < ·)
  last : sent.getLast? = some 100

namespace Complete

variable {sent : List Int}

theorem exists_front (h : Complete sent) :
    ∃ front, sent = front ++ [100] ∧ ∀ p ∈ front, p < 100 := by
  obtain ⟨front, rfl⟩ := List.getLast?_eq_some_iff.mp h.last
  have below := (List.pairwise_append.mp h.rising).2.2
  exact ⟨front, rfl, fun p earlier => below p earlier 100 (by simp)⟩

theorem ne_nil (h : Complete sent) : sent ≠ [] := by
  obtain ⟨front, rfl, -⟩ := h.exists_front
  simp

theorem count_hundred (h : Complete sent) : sent.count 100 = 1 := by
  obtain ⟨front, rfl, below⟩ := h.exists_front
  have earlier : front.count 100 = 0 := by
    rw [List.count_eq_zero]
    intro mem
    have := below 100 mem
    omega
  rw [List.count_append, earlier]
  rfl

end Complete

namespace Throttle

variable {t : Throttle} {sent : List Int}

theorem update_of_far {count p : Int} (unfinished : t.finished = false) (positive : 0 < t.total)
    (place : t.percentage count = p) (far : p = 100 ∨ t.step ≤ p - t.last) :
    t.update count = (some p, { t with last := p, finished := p == 100 }) := by
  have speaks : ¬(t.finished = true ∨ t.total ≤ 0) := by
    rw [unfinished]
    simpa using positive
  subst place
  unfold update
  rw [if_neg speaks]
  exact if_pos far

theorem update_of_near {count p : Int} (place : t.percentage count = p) (unreached : p ≠ 100)
    (near : p - t.last < t.step) : t.update count = (none, t) := by
  subst place
  unfold update
  split_ifs with silent
  · rfl
  · exact if_neg (by omega)

/-- What a throttle has sent so far: percentages that go up, up to the one it remembers. It has
finished when 100 is among them. -/
structure Sent (t : Throttle) (sent : List Int) : Prop where
  rising : sent.Pairwise (· < ·)
  within : ∀ p ∈ sent, 0 ≤ p ∧ p ≤ 100
  le_last : ∀ p ∈ sent, p ≤ t.last
  neg_step_le : -t.step ≤ t.last
  finished : t.finished = true ↔ 100 ∈ sent

namespace Sent

theorem of_start {total step : Int} (started : Throttle.start total step = .ok t) : Sent t [] := by
  obtain ⟨least, rfl⟩ := eq_of_start started
  exact ⟨.nil, by simp, by simp, by simp, by simp⟩

theorem concat (h : Sent t sent) {p : Int} {next : Throttle} (le : p ≤ 100) (nonneg : 0 ≤ p)
    (above : ∀ q ∈ sent, q < p) (step : next.step = t.step) (last : next.last = p)
    (finished : next.finished = true ↔ p = 100) : Sent next (sent ++ [p]) := by
  have step_pos := t.step_pos
  refine ⟨?_, ?_, ?_, by omega, ?_⟩
  · exact List.pairwise_append.mpr ⟨h.rising, List.pairwise_singleton _ _, by simpa using above⟩
  · intro q mem
    rcases List.mem_append.mp mem with earlier | now
    · exact h.within q earlier
    · rw [List.mem_singleton.mp now]
      exact ⟨nonneg, le⟩
  · intro q mem
    rw [last]
    rcases List.mem_append.mp mem with earlier | now
    · exact Int.le_of_lt (above q earlier)
    · exact Int.le_of_eq (List.mem_singleton.mp now)
  · rw [finished, List.mem_append, List.mem_singleton]
    constructor
    · intro eq
      exact .inr eq.symm
    · rintro (earlier | now)
      · have := above 100 earlier
        omega
      · exact now.symm

theorem update (h : Sent t sent) (count : Int) :
    Sent (t.update count).2 (sent ++ (t.update count).1.toList) := by
  unfold Throttle.update
  dsimp only
  split_ifs with silent sends
  · simpa using h
  · have le : t.percentage count ≤ 100 := Int.min_le_left _ _
    have unsent : 100 ∉ sent := fun mem => silent (.inl (h.finished.mpr mem))
    have floor := h.neg_step_le
    have step_pos := t.step_pos
    refine h.concat le ?_ ?_ rfl rfl beq_iff_eq
    · omega
    · intro q earlier
      have := h.le_last q earlier
      have := (h.within q earlier).2
      have : q ≠ 100 := fun eq => unsent (eq ▸ earlier)
      omega
  · simpa using h

theorem finish (h : Sent t sent) : Sent t.finish.2 (sent ++ t.finish.1.toList) := by
  unfold Throttle.finish
  split_ifs with done
  · simpa using h
  · refine h.concat (by omega) (by omega) ?_ rfl rfl (by simp)
    intro q earlier
    have := (h.within q earlier).2
    have : q ≠ 100 := fun eq => done (h.finished.mpr (eq ▸ earlier))
    omega

theorem feed (h : Sent t sent) (counts : List Int) :
    Sent (t.feed counts).2 (sent ++ (t.feed counts).1) := by
  induction counts generalizing t sent with
  | nil => simpa [Throttle.feed] using h
  | cons count rest ih =>
    have onward := ih (h.update count)
    rw [List.append_assoc] at onward
    rw [feed_cons]
    exact onward

/-- A throttle that has finished has sent 100 last. -/
theorem complete (h : Sent t sent) (finished : t.finished = true) : Complete sent := by
  have hundred := h.finished.mp finished
  refine ⟨h.rising, ?_⟩
  cases last : sent.getLast? with
  | none =>
    rw [List.getLast?_eq_none_iff.mp last] at hundred
    cases hundred
  | some p =>
    obtain ⟨front, rfl⟩ := List.getLast?_eq_some_iff.mp last
    rcases List.mem_append.mp hundred with earlier | now
    · have := (List.pairwise_append.mp h.rising).2.2 100 earlier p (by simp)
      have := (h.within p (by simp)).2
      omega
    · rw [List.mem_singleton.mp now]

/-- Whatever has been sent before, a throttle that finishes has sent up to 100. -/
theorem complete_finish (h : Sent t sent) : Complete (sent ++ t.finish.1.toList) := by
  refine h.finish.complete ?_
  unfold Throttle.finish
  split_ifs with done
  · exact done
  · rfl

end Sent

theorem update_total (t : Throttle) (count : Int) : (t.update count).2.total = t.total := by
  unfold update
  dsimp only
  split_ifs <;> rfl

theorem feed_total (t : Throttle) (counts : List Int) : (t.feed counts).2.total = t.total := by
  induction counts generalizing t with
  | nil => rfl
  | cons count rest ih =>
    rw [feed_cons]
    exact (ih _).trans (t.update_total count)

theorem percentage_natCast {t : Throttle} {total count : Nat} (same : t.total = total)
    (within : count ≤ total) : t.percentage count = (100 * count / total : Nat) := by
  have most : 100 * count / total ≤ 100 :=
    Nat.div_le_of_le_mul (by rw [Nat.mul_comm total]; exact Nat.mul_le_mul_left 100 within)
  have exactly : 100 * (count : Int) / total = (100 * count / total : Nat) := by
    push_cast
    rfl
  unfold percentage
  rw [same, exactly]
  omega

/-- The whole of a total makes a throttle finish. -/
theorem update_whole (positive : 0 < t.total) : (t.update t.total).2.finished = true := by
  have whole : t.percentage t.total = 100 := by
    unfold percentage
    rw [Int.mul_ediv_cancel _ (by omega)]
    rfl
  unfold update
  dsimp only
  rw [whole]
  split_ifs with silent sends
  · exact silent.resolve_right (by omega)
  · rfl
  · exact (sends (.inl rfl)).elim

theorem complete_feed {total step : Int} (started : start total step = .ok t) (positive : 0 < total)
    (counts : List Int) : Complete (t.feed (counts ++ [total])).1 := by
  have same : t.total = total := by
    obtain ⟨least, rfl⟩ := eq_of_start started
    rfl
  have begun := Sent.of_start started
  have fed := begun.feed (counts ++ [total])
  refine fed.complete ?_
  rw [feed_append, feed_eq _ [total]]
  have whole := update_whole (t := (t.feed counts).2) (by rw [feed_total, same]; exact positive)
  rw [feed_total, same] at whole
  exact whole

/-- The percentages of a whole pass go up to 100. -/
theorem complete_sentInAll {total step : Int} (started : start total step = .ok t) (count : Nat) :
    Complete (t.sentInAll count) := by
  have fed : Sent (t.sentUpTo count).2 (t.sentUpTo count).1 := (Sent.of_start started).feed _
  exact fed.complete_finish

end Throttle

theorem chunkEnds_eq_concat {pieces : List Word} (h : pieces ≠ []) (taken : Nat) :
    ∃ before,
      chunkEnds taken pieces = before ++ [((taken + pieces.flatten.length : Nat) : Int)] := by
  induction pieces generalizing taken with
  | nil => exact (h rfl).elim
  | cons piece rest ih =>
    by_cases last : rest = []
    · subst last
      exact ⟨[], by simp [chunkEnds]⟩
    · obtain ⟨before, ends⟩ := ih last (taken + piece.length)
      refine ⟨((taken + piece.length : Nat) : Int) :: before, ?_⟩
      simp only [chunkEnds, ends, List.flatten_cons, List.length_append, List.cons_append,
        Nat.add_assoc]

theorem chunks_ne_nil {w : Word} (h : w ≠ []) (size : Nat) : chunks size w ≠ [] := by
  unfold chunks
  rw [dif_neg h]
  simp

/-- An advance that comes to its end has reported up to 100. -/
theorem Grammar.complete_advance {g : Grammar} {step : Int} {w next : Word}
    (advanced : (g.advance step w).outcome = .ok next) : Complete (g.advance step w).progress := by
  unfold advance at advanced ⊢
  cases started : Throttle.start w.length step with
  | error fault =>
    rw [started] at advanced
    cases advanced
  | ok throttle =>
    rw [started] at advanced
    dsimp only at advanced ⊢
    by_cases empty : w.isEmpty = true
    · rw [if_pos empty]
      exact (Throttle.Sent.of_start started).complete_finish
    · rw [if_neg empty] at advanced ⊢
      cases sized : chunkSize w.length step with
      | error fault =>
        rw [sized] at advanced
        cases advanced
      | ok size =>
        have nonempty : w ≠ [] := fun eq => empty (List.isEmpty_iff.mpr eq)
        obtain ⟨before, ends⟩ := chunkEnds_eq_concat (chunks_ne_nil nonempty size) 0
        rw [flatten_chunks, Nat.zero_add] at ends
        have positive : (0 : Int) < w.length := by
          have := List.length_pos_iff.mpr nonempty
          omega
        dsimp only
        rw [ends]
        exact Throttle.complete_feed started positive before

/-- A pass with a percentage for its step reports up to 100. -/
theorem Interpreter.complete_reports {α : Type} {i : Interpreter α} (step : 1 ≤ i.step)
    (word : Word) : Complete (i.reports word) := by
  unfold reports
  rw [Throttle.start_eq_ok step]
  exact Throttle.complete_sentInAll (Throttle.start_eq_ok step) word.length

end LSystems
