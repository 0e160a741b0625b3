import LSystems.Growth
import LSystems.Proofs.LargestFloat

namespace LSystems

/-- The pieces of a word, one after another, are the word. -/
theorem flatten_chunks (size : Nat) (w : Word) : (chunks size w).flatten = w := by
  fun_induction chunks size w with
  | case1 => rfl
  | case2 w nonempty ih => rw [List.flatten_cons, ih, List.take_append_drop]

namespace Grammar

variable (g : Grammar)

theorem flatMap_rewrite_chunks (size : Nat) (w : Word) :
    (chunks size w).flatMap g.rewrite = g.rewrite w := by
  have whole := congrArg g.rewrite (flatten_chunks size w)
  rw [List.flatten_eq_flatMap] at whole
  unfold rewrite at *
  rw [List.flatMap_assoc] at whole
  exact whole

/-- However a word is cut, an advance rewrites it; one that fails has reported nothing. -/
theorem advance_cases (step : Int) (w : Word) :
    (g.advance step w).outcome = .ok (g.rewrite w) ∨
    ∃ fault, (g.advance step w).outcome = .error fault ∧ (g.advance step w).progress = [] := by
  unfold advance
  cases Throttle.start w.length step with
  | error fault => exact .inr ⟨fault, rfl, rfl⟩
  | ok throttle =>
    dsimp only
    by_cases empty : w.isEmpty = true
    · have nothing : w = [] := List.isEmpty_iff.mp empty
      rw [if_pos empty, nothing]
      exact .inl rfl
    · rw [if_neg empty]
      cases chunkSize w.length step with
      | error fault => exact .inr ⟨fault, rfl, rfl⟩
      | ok size => exact .inl (congrArg Except.ok (g.flatMap_rewrite_chunks size w))

/-- An advance needs a step of at least one point and pieces whose size is a binary64 number. -/
theorem advance_outcome (step : Int) (w : Word) :
    (g.advance step w).outcome = if step < 1 then .error .progressStep else
      match Magnitude.nearest? (w.length * step.toNat) 100 with
      | some _ => .ok (g.rewrite w)
      | none => .error .quotientTooLarge := by
  unfold advance
  by_cases low : step < 1
  · rw [Throttle.start_eq_error low, if_pos low]
  · have least : 1 ≤ step := by omega
    rw [Throttle.start_eq_ok least, if_neg low]
    dsimp only
    by_cases empty : w.isEmpty = true
    · have nothing : w = [] := List.isEmpty_iff.mp empty
      have none : ([] : Word).length * step.toNat < twoTo 0 := by
        rw [List.length_nil, Nat.zero_mul]
        decide
      obtain ⟨quotient, nearest⟩ := Magnitude.exists_nearest (by omega : 0 < 100) (Nat.zero_le 1020) none
      rw [if_pos empty, nothing, nearest]
      rfl
    · rw [if_neg empty]
      unfold chunkSize
      cases Magnitude.nearest? (w.length * step.toNat) 100 with
      | some quotient => exact congrArg Except.ok (g.flatMap_rewrite_chunks _ w)
      | none => rfl

theorem advance_eq_ok_iff {step : Int} {w next : Word} :
    (g.advance step w).outcome = .ok next ↔ next = g.rewrite w ∧ 1 ≤ step ∧
      ∃ quotient, Magnitude.nearest? (w.length * step.toNat) 100 = some quotient := by
  rw [advance_outcome]
  by_cases low : step < 1
  · rw [if_pos low]
    constructor
    · intro advanced
      cases advanced
    · rintro ⟨-, least, -⟩
      omega
  · rw [if_neg low]
    cases Magnitude.nearest? (w.length * step.toNat) 100 with
    | none => simp
    | some quotient =>
      constructor
      · intro advanced
        cases advanced
        exact ⟨rfl, by omega, quotient, rfl⟩
      · rintro ⟨rfl, -, -⟩
        rfl

/-- With a percentage for its step an advance fails for no word that could ever be written down. -/
theorem advance_percentage {step : Int} (least : 1 ≤ step) (most : step ≤ 100) {w : Word} {k : Nat}
    (hk : k ≤ 1000) (h : w.length < twoTo k) : (g.advance step w).outcome = .ok (g.rewrite w) := by
  have small : w.length * step.toNat < twoTo (k + 7) := by
    have power : twoTo (k + 7) = twoTo k * 128 := twoTo_add k 7
    have points : step.toNat ≤ 100 := by omega
    have most : w.length * step.toNat ≤ w.length * 100 := Nat.mul_le_mul_left _ points
    omega
  exact (g.advance_eq_ok_iff).mpr ⟨rfl, least, Magnitude.exists_nearest (by decide) (by omega) small⟩

theorem advance_defaultStep {w : Word} {k : Nat} (hk : k ≤ 1000) (h : w.length < twoTo k) :
    (g.advance defaultStep w).outcome = .ok (g.rewrite w) :=
  g.advance_percentage (by decide) (by decide) hk h

theorem expand_natCast (seed : Word) (n : Nat) : g.expand seed n = .ok (g.grow seed n) := by
  unfold expand
  rw [if_neg (by omega), Int.toNat_natCast]

theorem grow_add (w : Word) (m n : Nat) : g.grow w (m + n) = g.grow (g.grow w m) n := by
  induction m generalizing w with
  | zero => rw [Nat.zero_add]; rfl
  | succ m ih =>
    rw [Nat.add_right_comm]
    exact ih (g.rewrite w)

end Grammar

namespace LSystem

theorem iterate_cases (s : LSystem) :
    s.iterate.outcome
      = .ok { s with word := s.grammar.rewrite s.word, generation := s.generation + 1 } ∨
    ∃ fault, s.iterate.outcome = .error fault ∧ s.iterate.progress = [] := by
  unfold iterate
  dsimp only
  obtain advanced | ⟨fault, failed, silent⟩ := s.grammar.advance_cases s.step s.word
  · rw [advanced]
    exact .inl rfl
  · rw [failed]
    exact .inr ⟨fault, rfl, silent⟩

/-- The system after an attempt to grow, which leaves it as it is when it fails. -/
def attempt (s : LSystem) : LSystem :=
  match s.iterate.outcome with
  | .ok next => next
  | .error _ => s

/-- The system after a number of attempts in a row. -/
def attempts (s : LSystem) : Nat → LSystem
  | 0 => s
  | n + 1 => s.attempt.attempts n

/-- How many of a number of attempts in a row succeed. -/
def successes (s : LSystem) : Nat → Nat
  | 0 => 0
  | n + 1 => (if s.iterate.outcome.isOk then 1 else 0) + s.attempt.successes n

theorem attempt_of_ok {s next : LSystem} (grown : s.iterate.outcome = .ok next) :
    s.attempt = next := by
  unfold attempt
  rw [grown]

theorem attempt_of_error {s : LSystem} {fault : Fault} (failed : s.iterate.outcome = .error fault) :
    s.attempt = s := by
  unfold attempt
  rw [failed]

theorem successes_of_ok {s next : LSystem} (grown : s.iterate.outcome = .ok next) (n : Nat) :
    s.successes (n + 1) = 1 + next.successes n := by
  have counted : s.successes (n + 1)
      = (if s.iterate.outcome.isOk then 1 else 0) + s.attempt.successes n := rfl
  rw [counted, attempt_of_ok grown, grown]
  rfl

theorem successes_of_error {s : LSystem} {fault : Fault}
    (failed : s.iterate.outcome = .error fault) (n : Nat) :
    s.successes (n + 1) = s.successes n := by
  have counted : s.successes (n + 1)
      = (if s.iterate.outcome.isOk then 1 else 0) + s.attempt.successes n := rfl
  rw [counted, attempt_of_error failed, failed]
  exact Nat.zero_add _

/-- Every attempt that succeeds is one generation, and no other attempt leaves a trace. -/
theorem attempts_eq (s : LSystem) (n : Nat) :
    s.attempts n = { s with
      word := s.grammar.grow s.word (s.successes n)
      generation := s.generation + s.successes n } := by
  induction n generalizing s with
  | zero => rfl
  | succ n ih =>
    have onward : s.attempts (n + 1) = s.attempt.attempts n := rfl
    rw [onward, ih]
    obtain advanced | ⟨fault, failed, -⟩ := s.iterate_cases
    · rw [successes_of_ok advanced, attempt_of_ok advanced, Nat.add_comm 1, ← Nat.add_assoc,
        Nat.add_right_comm s.generation]
      rfl
    · rw [successes_of_error failed, attempt_of_error failed]

theorem successes_le (s : LSystem) (n : Nat) : s.successes n ≤ n := by
  induction n generalizing s with
  | zero => exact Nat.le_refl 0
  | succ n ih =>
    have later := ih s.attempt
    unfold successes
    split <;> omega

/-- A system can go on by a number of generations: its step is at least one point, and the size of
the pieces of each word on the way is a binary64 number. -/
def CanGrow (s : LSystem) (n : Nat) : Prop :=
  ∀ k < n, 1 ≤ s.step ∧ ∃ quotient,
    Magnitude.nearest? ((s.grammar.grow s.word k).length * s.step.toNat) 100 = some quotient

theorem canGrow_zero (s : LSystem) : s.CanGrow 0 :=
  fun k h => absurd h (Nat.not_lt_zero k)

theorem canGrow_one_iff {s : LSystem} : s.CanGrow 1 ↔ 1 ≤ s.step ∧ ∃ quotient,
    Magnitude.nearest? (s.word.length * s.step.toNat) 100 = some quotient := by
  constructor
  · intro grows
    exact grows 0 Nat.zero_lt_one
  · intro grows k h
    obtain rfl : k = 0 := by omega
    exact grows

theorem CanGrow.of_le {s : LSystem} {m n : Nat} (grows : s.CanGrow n) (le : m ≤ n) : s.CanGrow m :=
  fun k h => grows k (Nat.lt_of_lt_of_le h le)

theorem iterate_eq_ok_iff {s next : LSystem} : s.iterate.outcome = .ok next ↔
    next = { s with word := s.grammar.rewrite s.word, generation := s.generation + 1 } ∧
      s.CanGrow 1 := by
  rw [canGrow_one_iff]
  unfold iterate
  dsimp only
  cases advanced : (s.grammar.advance s.step s.word).outcome with
  | error fault =>
    constructor
    · intro grown
      cases grown
    · rintro ⟨-, grows⟩
      cases advanced.symm.trans (s.grammar.advance_eq_ok_iff.mpr ⟨rfl, grows⟩)
  | ok w =>
    obtain ⟨rfl, grows⟩ := s.grammar.advance_eq_ok_iff.mp advanced
    constructor
    · intro grown
      cases grown
      exact ⟨rfl, grows⟩
    · rintro ⟨rfl, -⟩
      rfl

theorem not_canGrow_of_error {s : LSystem} {fault : Fault} {n : Nat}
    (failed : s.iterate.outcome = .error fault) : ¬s.CanGrow (n + 1) := by
  intro grows
  have first : s.CanGrow 1 := grows.of_le (Nat.le_add_left 1 n)
  cases failed.symm.trans (iterate_eq_ok_iff.mpr ⟨rfl, first⟩)

theorem canGrow_next_iff {s next : LSystem} {n : Nat} (grown : s.iterate.outcome = .ok next) :
    s.CanGrow (n + 1) ↔ next.CanGrow n := by
  obtain ⟨rfl, first⟩ := iterate_eq_ok_iff.mp grown
  constructor
  · intro all k h
    exact all (k + 1) (by omega)
  · intro onward k h
    cases k with
    | zero => exact first 0 Nat.zero_lt_one
    | succ k => exact onward k (by omega)

theorem successes_eq_self_iff {s : LSystem} {n : Nat} : s.successes n = n ↔ s.CanGrow n := by
  induction n generalizing s with
  | zero => exact ⟨fun _ => s.canGrow_zero, fun _ => rfl⟩
  | succ n ih =>
    cases grown : s.iterate.outcome with
    | error fault =>
      have later := s.successes_le n
      have stuck : ¬s.CanGrow (n + 1) := not_canGrow_of_error grown
      rw [successes_of_error grown]
      constructor
      · intro all
        omega
      · intro grows
        exact (stuck grows).elim
    | ok next =>
      rw [successes_of_ok grown, Nat.add_comm, Nat.add_right_cancel_iff, ih, canGrow_next_iff grown]

theorem attempts_of_canGrow {s : LSystem} {n : Nat} (grows : s.CanGrow n) : s.attempts n = { s with
    word := s.grammar.grow s.word n
    generation := s.generation + n } := by
  rw [attempts_eq, successes_eq_self_iff.mpr grows]

theorem attempts_succ (s : LSystem) (n : Nat) : s.attempts (n + 1) = (s.attempts n).attempt := by
  induction n generalizing s with
  | zero => rfl
  | succ n ih => exact ih s.attempt

theorem canGrow_succ_iff {s : LSystem} {n : Nat} : s.CanGrow (n + 1) ↔
    s.CanGrow n ∧ ∃ next, (s.attempts n).iterate.outcome = .ok next := by
  have later (grows : s.CanGrow n) : (s.attempts n).CanGrow 1 ↔ 1 ≤ s.step ∧ ∃ quotient,
      Magnitude.nearest? ((s.grammar.grow s.word n).length * s.step.toNat) 100 = some quotient := by
    rw [attempts_of_canGrow grows]
    exact canGrow_one_iff
  constructor
  · intro all
    have grows : s.CanGrow n := all.of_le (Nat.le_succ n)
    exact ⟨grows, _, iterate_eq_ok_iff.mpr ⟨rfl, (later grows).mpr (all n (by omega))⟩⟩
  · rintro ⟨grows, next, grown⟩ k h
    obtain earlier | rfl : k < n ∨ k = n := by omega
    · exact grows k earlier
    · exact (later grows).mp (iterate_eq_ok_iff.mp grown).2

/-- A system that could not go on once never goes on again. -/
theorem iterate_of_not_canGrow {s : LSystem} {n : Nat} (stops : ¬s.CanGrow n) :
    ∃ fault, (s.attempts n).iterate.outcome = .error fault := by
  induction n with
  | zero => exact (stops s.canGrow_zero).elim
  | succ n ih =>
    obtain ⟨fault, failed⟩ : ∃ fault, (s.attempts n).iterate.outcome = .error fault := by
      by_cases grows : s.CanGrow n
      · cases ends : (s.attempts n).iterate.outcome with
        | error fault => exact ⟨fault, rfl⟩
        | ok next => exact (stops (canGrow_succ_iff.mpr ⟨grows, next, ends⟩)).elim
      · exact ih grows
    rw [attempts_succ, attempt_of_error failed]
    exact ⟨fault, failed⟩

end LSystem

end LSystems
