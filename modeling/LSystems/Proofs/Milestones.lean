import LSystems.Proofs.DryPass
import LSystems.Proofs.Underflow

namespace LSystems

/-- The multiples of a step from zero on that lie below a bound. -/
def multiples (step : Int) (bound : Nat) : List Int :=
  ((List.range bound).map Int.ofNat).filter (step ∣ ·)

theorem multiples_succ (step : Int) (bound : Nat) : multiples step (bound + 1)
    = multiples step bound ++ if step ∣ (bound : Int) then [(bound : Int)] else [] := by
  unfold multiples
  rw [List.range_succ, List.map_append, List.filter_append, List.map_singleton,
    List.filter_singleton]
  simp

example : multiples 30 100 = [0, 30, 60, 90] := by decide

theorem succ_emod {p step : Int} (least : 1 ≤ step) :
    step ∣ p + 1 ∧ p % step + 1 = step ∧ (p + 1) % step = 0 ∨
      ¬step ∣ p + 1 ∧ p % step + 1 < step ∧ (p + 1) % step = p % step + 1 := by
  have low := Int.emod_nonneg p (by omega : step ≠ 0)
  have high := Int.emod_lt_of_pos p (by omega : 0 < step)
  have onward : (p + 1) % step = (p % step + 1) % step := (Int.emod_add_emod p step 1).symm
  rw [Int.dvd_iff_emod_eq_zero]
  by_cases last : p % step + 1 = step
  · rw [last, Int.emod_self] at onward
    omega
  · have inside : (p % step + 1) % step = p % step + 1 :=
      Int.emod_eq_of_lt (by omega) (by omega)
    omega

namespace Throttle

/-- A throttle that has come to a percentage below 100 and has sent what its step divides. -/
def reached (total : Nat) (step : Int) (least : 1 ≤ step) (p : Nat) : Throttle :=
  ⟨total, step, p - p % step, false, least⟩

variable {total count p : Nat} {step : Int} {least : 1 ≤ step}

theorem update_first (least : 1 ≤ step) (long : 100 < total) :
    (Throttle.mk total step (-step) false least).update (0 + 1 : Nat)
      = (some 0, reached total step least 0) := by
  have zero : 100 * (0 + 1) / total = 0 := Nat.div_eq_of_lt (by omega)
  have place : (Throttle.mk total step (-step) false least).percentage (0 + 1 : Nat) = 0 := by
    rw [percentage_natCast rfl (by omega : 0 + 1 ≤ total), zero]
    rfl
  have far : step ≤ 0 - -step := by omega
  have positive : (0 : Int) < total := by omega
  rw [update_of_far rfl positive place (.inr far)]
  simp [reached]

theorem update_still (below : p < 100)
    (still : (reached total step least p).percentage count = p) :
    (reached total step least p).update count = (none, reached total step least p) := by
  have rest := Int.emod_lt_of_pos (p : Int) (by omega : 0 < step)
  apply update_of_near still
  · omega
  · show (p : Int) - (p - p % step) < step
    omega

/-- One percent on, a throttle sends the percentage exactly if its step divides it. -/
theorem update_onward (positive : 0 < total) (below : p + 1 < 100)
    (onward : (reached total step least p).percentage count = (p + 1 : Nat)) :
    (reached total step least p).update count
      = (if step ∣ ((p + 1 : Nat) : Int) then some ((p + 1 : Nat) : Int) else none,
        reached total step least (p + 1)) := by
  rw [Int.natCast_succ] at onward ⊢
  obtain ⟨divides, last, next⟩ | ⟨other, inside, next⟩ := succ_emod (p := p) least
  · have far : step ≤ (p : Int) + 1 - (p - p % step) := by omega
    have unfinished : ((p : Int) + 1 == 100) = false := by
      rw [beq_eq_false_iff_ne]
      omega
    rw [if_pos divides, update_of_far rfl (Int.natCast_pos.mpr positive) onward (.inr far)]
    simp only [reached, Int.natCast_succ, next, unfinished, Int.sub_zero]
  · have kept : (p : Int) + 1 - (p % step + 1) = p - p % step := by omega
    rw [if_neg other, update_of_near onward]
    · simp only [reached, Int.natCast_succ, next, kept]
    · omega
    · show (p : Int) + 1 - (p - p % step) < step
      omega

theorem sentUpTo_succ (t : Throttle) (count : Nat) :
    t.sentUpTo (count + 1)
      = ((t.sentUpTo count).1 ++ ((t.sentUpTo count).2.update (count + 1 : Nat)).1.toList,
        ((t.sentUpTo count).2.update (count + 1 : Nat)).2) := by
  have alone (t : Throttle) (n : Int) : t.feed [n] = ((t.update n).1.toList, (t.update n).2) := by
    rw [feed_cons]
    simp [feed]
  unfold sentUpTo
  rw [List.range'_1_concat, List.map_append, feed_append, List.map_singleton, alone,
    Nat.add_comm 1 count]
  rfl

/-- A long pass comes to every percentage, so that it sends just the multiples of its step. -/
theorem sentUpTo_of_long (least : 1 ≤ step) (long : 100 < total) (n : Nat)
    (inside : n + 1 < total) :
    (Throttle.mk total step (-step) false least).sentUpTo (n + 1)
      = (multiples step (100 * (n + 1) / total + 1),
        reached total step least (100 * (n + 1) / total)) := by
  have positive : 0 < total := by omega
  induction n with
  | zero =>
    have zero : 100 * (0 + 1) / total = 0 := Nat.div_eq_of_lt (by omega)
    have begun : (Throttle.mk total step (-step) false least).sentUpTo 0
        = ([], Throttle.mk total step (-step) false least) := rfl
    rw [sentUpTo_succ, begun, update_first least long, zero]
    simp [multiples]
  | succ n ih =>
    have before := ih (by omega)
    have place : (reached total step least (100 * (n + 1) / total)).percentage (n + 1 + 1 : Nat)
        = (100 * (n + 1 + 1) / total : Nat) := percentage_natCast rfl (by omega)
    have below : 100 * (n + 1 + 1) / total < 100 := by
      rw [Nat.div_lt_iff_lt_mul positive]
      omega
    have later : 100 * (n + 1) / total ≤ 100 * (n + 1 + 1) / total :=
      Nat.div_le_div_right (by omega)
    -- With more than a hundred counts the percentage goes up by no more than one.
    have near : 100 * (n + 1 + 1) / total ≤ 100 * (n + 1) / total + 1 := by
      rw [← Nat.add_div_right _ positive]
      exact Nat.div_le_div_right (by omega)
    rw [sentUpTo_succ, before]
    obtain still | onward : 100 * (n + 1 + 1) / total = 100 * (n + 1) / total ∨
        100 * (n + 1 + 1) / total = 100 * (n + 1) / total + 1 := by omega
    · rw [still] at place below ⊢
      rw [update_still below place]
      simp
    · rw [onward] at place below ⊢
      rw [update_onward positive below place, multiples_succ step (100 * (n + 1) / total + 1)]
      split <;> rfl

theorem sentUpTo_whole (least : 1 ≤ step) (long : 100 < total) :
    (Throttle.mk total step (-step) false least).sentUpTo total
      = (multiples step 100 ++ [100], ⟨total, step, 100, true, least⟩) := by
  obtain ⟨n, rfl⟩ : ∃ n, total = n + 1 + 1 := ⟨total - 2, by omega⟩
  have almost : 100 * (n + 1) / (n + 1 + 1) = 99 :=
    Nat.div_eq_of_lt_le (by omega) (by omega)
  have before := sentUpTo_of_long least long n (by omega)
  rw [almost] at before
  have place : (reached (n + 1 + 1) step least 99).percentage (n + 1 + 1 : Nat) = 100 := by
    rw [percentage_natCast rfl (Nat.le_refl _), Nat.mul_div_cancel _ (Nat.succ_pos _)]
    rfl
  rw [sentUpTo_succ, before, update_of_far rfl (Int.natCast_pos.mpr (Nat.succ_pos _)) place (.inl rfl)]
  rfl

end Throttle

/-- Whatever the symbols of a long word, whoever comes to its end has told all multiples of the step
below 100, and 100. -/
theorem long_pass_tells_multiples {α : Type} [Scalar α] :
    (∀ (total : Nat) (step : Int), 100 < total → 1 ≤ step →
      ∃ t, Throttle.start total step = .ok t ∧
        (t.sentUpTo total).1 = multiples step 100 ++ [100] ∧
        (t.sentUpTo total).2.finish.1 = none) ∧
    ∀ (i : Interpreter α) (mode : Mode) (distance : α) (origin : Point α) (word : Word)
      (found : Finding α), 100 < word.length →
      (i.run mode distance origin word).outcome = .ok found →
        (i.run mode distance origin word).progress = multiples i.step 100 ++ [100] := by
  constructor
  · intro total step long least
    refine ⟨_, Throttle.start_eq_ok least, ?_⟩
    rw [Throttle.sentUpTo_whole least long]
    exact ⟨rfl, rfl⟩
  · intro i mode distance origin word found long ends
    obtain ⟨σ, note, record, read, -, -, outcome⟩ := i.run_eq_trace mode distance origin word
    have least : 1 ≤ i.step := by
      cases traced : (i.trace note record distance origin word).outcome with
      | error e =>
        rw [outcome, traced] at ends
        cases ends
      | ok recorded => exact (Interpreter.trace_eq_ok_iff.mp traced).1
    obtain ⟨-, -, -, told, -⟩ | ⟨count, e, -, fails, -⟩ := i.run_cases mode distance origin word
    · rw [told]
      unfold Interpreter.reports
      rw [Throttle.start_eq_ok least]
      dsimp only
      unfold Throttle.sentInAll
      rw [Throttle.sentUpTo_whole least long]
      exact List.append_nil _
    · cases ends.symm.trans fails

/-- A step that does not divide 100, and open brackets among the symbols. -/
theorem bracketed_pass_tells_multiples :
    let i : Interpreter Float := ⟨.rightAngled, 90.0, 30⟩
    let word : Word := (List.replicate 26 ['F', '[', '+', 'X']).flatten
    let drawn := i.run .draw 10.0 ⟨0.5, 0.0⟩ word
    100 < 200 ∧ 1 ≤ (7 : Int) ∧
      (∃ t, Throttle.start 200 7 = .ok t ∧ (t.sentUpTo 200).1 = [0, 7, 14, 21, 28, 35, 42, 49, 56, 63,
        70, 77, 84, 91, 98, 100] ∧ (t.sentUpTo 200).2.finish.1 = none) ∧
      100 < word.length ∧ (∃ found, drawn.outcome = .ok found) ∧
      drawn.progress = [0, 30, 60, 90, 100] := by
  intro i word drawn
  have long : 100 < word.length := by decide
  have least : 1 ≤ (7 : Int) := by decide
  obtain ⟨throttles, passes⟩ := long_pass_tells_multiples (α := Float)
  obtain ⟨t, started, told, silent⟩ := throttles 200 7 (by decide) least
  have succeeds : drawn.outcome.isOk = true := by decide +kernel
  obtain ⟨found, ends⟩ := exists_of_isOk succeeds
  exact ⟨by decide, least, ⟨t, started, told, silent⟩, long, ⟨found, ends⟩,
    (passes i .draw 10.0 ⟨0.5, 0.0⟩ word found long ends).trans (by decide)⟩

end LSystems
