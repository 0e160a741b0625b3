import LSystems.Proofs.Percentages
import LSystems.Proofs.RoundedUp
import Mathlib.Data.List.Chain

namespace LSystems

theorem chunkSize_eq {total : Nat} {step : Int} (small : total * step.toNat < twoTo 53) :
    chunkSize total step = .ok (max 1 (total * step.toNat ⌈/⌉ 100)) := by
  obtain ⟨quotient, nearest⟩ :=
    Magnitude.exists_nearest (by decide : 0 < 100) (by decide : 53 ≤ 1020) small
  unfold chunkSize
  rw [nearest, ← Magnitude.ceil_hundredth small nearest]

theorem ceilDiv_eq_succ {n size : Nat} (size_pos : 0 < size) (n_pos : 0 < n) :
    n ⌈/⌉ size = (n - size) ⌈/⌉ size + 1 := by
  apply eq_of_forall_ge_iff
  intro c
  cases c with
  | zero =>
    rw [ceilDiv_le_iff_le_mul size_pos]
    omega
  | succ c =>
    rw [Nat.add_le_add_iff_right, ceilDiv_le_iff_le_mul size_pos, ceilDiv_le_iff_le_mul size_pos,
      Nat.mul_succ]
    omega

theorem length_chunks {size : Nat} (size_pos : 0 < size) (w : Word) :
    (chunks size w).length = w.length ⌈/⌉ size := by
  fun_induction chunks size w with
  | case1 => exact (zero_ceilDiv size).symm
  | case2 w nonempty ih =>
    rw [List.length_cons, ih, List.length_drop, Nat.max_eq_right size_pos,
      ceilDiv_eq_succ size_pos (List.length_pos_iff.mpr nonempty)]

/-- All pieces have the same size, but that the last one ends with the word. -/
theorem chunkEnds_chunks {size : Nat} (size_pos : 0 < size) (taken : Nat) (w : Word) :
    chunkEnds taken (chunks size w) = (List.range' 1 (w.length ⌈/⌉ size)).map
      fun k => ((taken + min w.length (k * size) : Nat) : Int) := by
  fun_induction chunks size w generalizing taken with
  | case1 =>
    rw [List.length_nil, zero_ceilDiv]
    rfl
  | case2 w nonempty ih =>
    have shifted (n : Nat) : List.range' 2 n = (List.range' 1 n).map (1 + ·) :=
      (List.map_add_range' 1 n 1).symm
    rw [Nat.max_eq_right size_pos] at ih ⊢
    rw [ceilDiv_eq_succ size_pos (List.length_pos_iff.mpr nonempty), List.range'_succ, shifted,
      List.map_cons, List.map_map]
    simp only [chunkEnds, ih, List.length_take, List.length_drop]
    congr 1
    · congr 2
      omega
    · apply List.map_congr_left
      intro k _
      dsimp only [Function.comp_apply]
      rw [Nat.add_mul]
      congr 1
      omega

namespace Throttle

/-- Percentages that lie a step apart are all sent, and so is 100 after them. -/
theorem feed_eq_map {t : Throttle} {counts : List Int} (positive : 0 < t.total)
    (done : t.finished = true → t.last = 100)
    (apart : (t.last :: counts.map t.percentage).IsChain
      fun p q => p ≠ 100 ∧ (q = 100 ∨ t.step ≤ q - p)) :
    (t.feed counts).1 = counts.map t.percentage := by
  induction counts generalizing t with
  | nil => rfl
  | cons count rest ih =>
    obtain ⟨⟨less, sends⟩, onward⟩ := List.isChain_cons_cons.mp apart
    have fresh : t.finished = false := by
      cases finished : t.finished with
      | false => rfl
      | true => exact (less (done finished)).elim
    have later := ih (t := { t with last := t.percentage count, finished := t.percentage count == 100 })
      positive beq_iff_eq.mp onward
    rw [feed_cons, update_of_far fresh positive rfl sends, later]
    rfl

end Throttle

/-- The percentage of a whole that a number of pieces make, the last one cut at its end. -/
def share (whole size count : Nat) : Nat :=
  100 * min whole (count * size) / whole

section
variable {n c s k : Nat}

/-- Before the last piece not the whole has been taken. -/
theorem share_lt (c_pos : 0 < c) (earlier : k < n ⌈/⌉ c) : share n c k < 100 := by
  have part : k * c < n := by
    by_contra whole
    have : n ⌈/⌉ c ≤ k := by
      rw [ceilDiv_le_iff_le_mul c_pos, Nat.mul_comm]
      omega
    omega
  unfold share
  rw [Nat.min_eq_right (Nat.le_of_lt part), Nat.div_lt_iff_lt_mul (by omega)]
  omega

theorem share_whole (c_pos : 0 < c) (n_pos : 0 < n) : share n c (n ⌈/⌉ c) = 100 := by
  have whole : n ≤ n ⌈/⌉ c * c := by
    rw [Nat.mul_comm, ← ceilDiv_le_iff_le_mul c_pos]
  unfold share
  rw [Nat.min_eq_left whole, Nat.mul_div_cancel _ n_pos]

/-- A piece that holds `s` percent of the whole takes the percentage up by as much, or up to 100. -/
theorem share_succ (n_pos : 0 < n) (large : n * s ≤ 100 * c) :
    share n c (k + 1) = 100 ∨ share n c k + s ≤ share n c (k + 1) := by
  have onward : (k + 1) * c = k * c + c := Nat.succ_mul k c
  unfold share
  by_cases whole : n ≤ (k + 1) * c
  · rw [Nat.min_eq_left whole, Nat.mul_div_cancel _ n_pos]
    exact .inl rfl
  · rw [Nat.min_eq_right (by omega : k * c ≤ n), Nat.min_eq_right (by omega : (k + 1) * c ≤ n),
      ← Nat.add_mul_div_left _ _ n_pos]
    right
    apply Nat.div_le_div_right
    omega

end

/-- A throttle sends a percentage for every piece that holds as much as its step. -/
theorem Throttle.feed_pieces {n c : Nat} {step : Int} {t : Throttle} (n_pos : 0 < n) (c_pos : 0 < c)
    (large : n * step.toNat ≤ 100 * c) (started : Throttle.start n step = .ok t) :
    (t.feed ((List.range' 1 (n ⌈/⌉ c)).map fun k => ((min n (k * c) : Nat) : Int))).1
      = (List.range' 1 (n ⌈/⌉ c)).map fun k => (share n c k : Int) := by
  obtain ⟨least, rfl⟩ := eq_of_start started
  have shares : ((List.range' 1 (n ⌈/⌉ c)).map fun k => ((min n (k * c) : Nat) : Int)).map
      (percentage ⟨n, step, -step, false, least⟩)
        = (List.range' 1 (n ⌈/⌉ c)).map fun k => (share n c k : Int) := by
    rw [List.map_map]
    apply List.map_congr_left
    intro k _
    exact percentage_natCast rfl (Nat.min_le_left n (k * c))
  rw [← shares]
  apply feed_eq_map
  · exact Int.natCast_pos.mpr n_pos
  · intro finished
    cases finished
  · rw [shares, List.isChain_iff_getElem]
    intro k inside
    rw [List.length_cons, List.length_map, List.length_range'] at inside
    cases k with
    | zero =>
      -- Before the first piece the throttle remembers a percentage below zero by its step.
      simp only [List.getElem_cons_zero, List.getElem_cons_succ, List.getElem_map,
        List.getElem_range']
      omega
    | succ k =>
      have earlier : share n c (1 + 1 * k) < 100 := share_lt c_pos (by omega)
      have next := share_succ (k := 1 + 1 * k) n_pos large
      simp only [List.getElem_cons_succ, List.getElem_map, List.getElem_range']
      have place : 1 + 1 * (k + 1) = 1 + 1 * k + 1 := by omega
      rw [place]
      omega

theorem chunkSize_pos {total size : Nat} {step : Int} (sized : chunkSize total step = .ok size) :
    0 < size := by
  unfold chunkSize at sized
  cases nearest : Magnitude.nearest? (total * step.toNat) 100 with
  | none =>
    rw [nearest] at sized
    cases sized
  | some quotient =>
    rw [nearest] at sized
    obtain rfl := Except.ok.inj sized
    exact Nat.lt_of_lt_of_le Nat.one_pos (Nat.le_max_left 1 quotient.ceil)

namespace Grammar

variable (g : Grammar) {step : Int} {w : Word}

theorem advance_nil (least : 1 ≤ step) : g.advance step [] = ⟨[100], .ok []⟩ := by
  unfold advance
  rw [List.length_nil, Int.natCast_zero, Throttle.start_eq_ok least]
  rfl

theorem advance_of_chunkSize {size : Nat} {t : Throttle} (nonempty : w ≠ [])
    (started : Throttle.start w.length step = .ok t) (sized : chunkSize w.length step = .ok size) :
    g.advance step w = ⟨(t.feed ((List.range' 1 (w.length ⌈/⌉ size)).map
      fun k => ((min w.length (k * size) : Nat) : Int))).1, .ok (g.rewrite w)⟩ := by
  have ends := chunkEnds_chunks (chunkSize_pos sized) 0 w
  simp only [Nat.zero_add] at ends
  unfold advance
  rw [started]
  dsimp only
  rw [if_neg (by simpa using nonempty), sized]
  dsimp only
  rw [g.flatMap_rewrite_chunks, ends]

theorem advance_of_chunkSize_error {fault : Fault} {t : Throttle} (nonempty : w ≠ [])
    (started : Throttle.start w.length step = .ok t) (sized : chunkSize w.length step = .error fault) :
    g.advance step w = ⟨[], .error fault⟩ := by
  unfold advance
  rw [started]
  dsimp only
  rw [if_neg (by simpa using nonempty), sized]

/-- What is told on the way depends neither on the symbols of a word nor on what they become. -/
theorem advance_progress_congr {g' : Grammar} {w' : Word} (same : w.length = w'.length) :
    (g.advance step w).progress = (g'.advance step w').progress := by
  by_cases low : step < 1
  · unfold advance
    rw [Throttle.start_eq_error low, Throttle.start_eq_error low]
  have least : 1 ≤ step := by omega
  by_cases empty : w = []
  · have empty' : w' = [] := by
      rw [← List.length_eq_zero_iff, ← same, empty]
      rfl
    rw [empty, empty', g.advance_nil least, g'.advance_nil least]
  · have nonempty' : w' ≠ [] := by
      rintro rfl
      exact empty (List.length_eq_zero_iff.mp same)
    have started : Throttle.start w.length step = .ok _ := Throttle.start_eq_ok least
    cases sized : chunkSize w.length step with
    | error fault =>
      rw [g.advance_of_chunkSize_error empty started sized]
      rw [same] at started sized
      rw [g'.advance_of_chunkSize_error nonempty' started sized]
    | ok size =>
      rw [g.advance_of_chunkSize empty started sized]
      rw [same] at started sized
      rw [g'.advance_of_chunkSize nonempty' started sized, same]

/-- An advance tells of every piece, however a step and a length fall together: the pieces are
large enough for the throttle, and the last one makes 100. -/
theorem advance_tells_pieces :
    (∀ (g : Grammar) (step : Int) (w : Word), 1 ≤ step → w ≠ [] →
      w.length * step < (twoTo 53 : Int) →
        let n := w.length
        let c := max 1 (n * step.toNat ⌈/⌉ 100)
        let m := n ⌈/⌉ c
        chunkSize n step = .ok c ∧ (chunks c w).length = m ∧
        (g.advance step w).outcome = .ok (g.rewrite w) ∧
        (g.advance step w).progress
          = (List.range' 1 m).map (fun k => ((100 * min n (k * c) / n : Nat) : Int)) ∧
        (∀ k, 1 ≤ k → k ≤ m → (100 * min n (k * c) / n = 100 ↔ k = m)) ∧
        m ≤ 100 ⌈/⌉ step.toNat) ∧
    (∀ (g : Grammar) (step : Int), 1 ≤ step → g.advance step [] = ⟨[100], .ok []⟩) ∧
    ∀ (g g' : Grammar) (step : Int) (w w' : Word), w.length = w'.length →
      (g.advance step w).progress = (g'.advance step w').progress := by
  refine ⟨?_, fun g step => g.advance_nil, fun g g' step w w' => g.advance_progress_congr⟩
  intro g step w least nonempty small n c m
  have n_pos : 0 < n := List.length_pos_iff.mpr nonempty
  have c_pos : 0 < c := Nat.lt_of_lt_of_le Nat.one_pos (Nat.le_max_left _ _)
  have points : ((n * step.toNat : Nat) : Int) = n * step := by
    rw [Int.natCast_mul, Int.toNat_of_nonneg (by omega)]
  have few : n * step.toNat < twoTo 53 := by
    have small : n * step < (twoTo 53 : Int) := small
    omega
  have sized : chunkSize n step = .ok c := chunkSize_eq few
  have large : n * step.toNat ≤ 100 * c := by
    rw [← ceilDiv_le_iff_le_mul (by decide)]
    exact Nat.le_max_right _ _
  have started : Throttle.start n step = .ok _ := Throttle.start_eq_ok least
  have advanced := g.advance_of_chunkSize nonempty started sized
  have sent := Throttle.feed_pieces n_pos c_pos large started
  refine ⟨sized, length_chunks c_pos w, ?_, ?_, ?_, ?_⟩
  · rw [advanced]
  · rw [advanced]
    exact sent
  · intro k _ inside
    constructor
    · intro hundred
      by_contra other
      have := share_lt (n := n) c_pos (by omega : k < m)
      unfold share at this
      omega
    · rintro rfl
      exact share_whole c_pos n_pos
  · have step_pos : 0 < step.toNat := by omega
    have all : 100 ≤ step.toNat * (100 ⌈/⌉ step.toNat) := by
      rw [← ceilDiv_le_iff_le_mul step_pos]
    have hundredfold : 100 * n ≤ 100 * (c * (100 ⌈/⌉ step.toNat)) := by
      calc
        100 * n ≤ step.toNat * (100 ⌈/⌉ step.toNat) * n := Nat.mul_le_mul_right n all
        _ = n * step.toNat * (100 ⌈/⌉ step.toNat) := by rw [Nat.mul_comm, Nat.mul_assoc]
        _ ≤ 100 * c * (100 ⌈/⌉ step.toNat) := Nat.mul_le_mul_right _ large
        _ = 100 * (c * (100 ⌈/⌉ step.toNat)) := Nat.mul_assoc _ _ _
    rw [ceilDiv_le_iff_le_mul c_pos]
    omega

/-- Seven symbols in pieces of three, and as many again that become something else. -/
theorem seven_symbols_in_pieces :
    let g : Grammar := .ofRules [('A', ['A', 'B']), ('B', [])]
    let w : Word := ['A', 'B', 'A', '+', 'A', 'C', 'B']
    let v : Word := ['X', 'X', 'X', 'X', 'X', 'X', 'X']
    1 ≤ (30 : Int) ∧ w ≠ [] ∧ w.length * 30 < (twoTo 53 : Int) ∧ w.length = v.length ∧
      chunkSize 7 30 = .ok 3 ∧ (g.advance 30 w).progress = [42, 85, 100] ∧
      (g.advance 30 w).outcome = .ok (g.rewrite w) ∧ 3 ≤ 100 ⌈/⌉ (30 : Int).toNat ∧
      g.advance 30 [] = ⟨[100], .ok []⟩ ∧
      ((ofRules []).advance 30 v).progress = (g.advance 30 w).progress := by
  intro g w v
  have least : 1 ≤ (30 : Int) := by decide
  have nonempty : w ≠ [] := by decide
  have small : w.length * 30 < (twoTo 53 : Int) := by decide +kernel
  have same : w.length = v.length := rfl
  obtain ⟨pieces, empty, alike⟩ := advance_tells_pieces
  obtain ⟨sized, -, advanced, told, -, few⟩ := pieces g 30 w least nonempty small
  have size : max 1 (w.length * (30 : Int).toNat ⌈/⌉ 100) = 3 := by decide
  have number : w.length ⌈/⌉ 3 = 3 := by decide
  rw [size, number] at told few
  rw [size] at sized
  exact ⟨least, nonempty, small, same, sized, told.trans (by decide), advanced, few, empty g 30 least,
    (alike g (ofRules []) 30 w v same).symm⟩

end Grammar

end LSystems
