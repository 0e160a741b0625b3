import LSystems.Definition
import LSystems.Proofs.Effects
import LSystems.Proofs.Percentages

namespace LSystems

namespace Environment

variable {env : Environment} {name : String} {default : Int} {minimum maximum : Option Int}

/-- A whole number that is set lies between its bounds if the default one does. -/
theorem within_of_integer {n : Int} (set : env.integer name default minimum maximum = .ok n)
    (low : ∀ bound ∈ minimum, bound ≤ default) (high : ∀ bound ∈ maximum, default ≤ bound) :
    (∀ bound ∈ minimum, bound ≤ n) ∧ ∀ bound ∈ maximum, n ≤ bound := by
  unfold integer at set
  split at set
  next =>
    cases set
    exact ⟨low, high⟩
  next value _ =>
    split at set
    next => cases set
    next parsed _ =>
      split at set
      next => cases set
      next => cases set
      next notBelow notAbove =>
        cases set
        constructor
        · intro bound mem
          have := Option.filter_eq_none_iff.mp notBelow bound mem
          simpa using this
        · intro bound mem
          have := Option.filter_eq_none_iff.mp notAbove bound mem
          simpa using this

/-- A setting that is refused is told by its name, with the bound that it is beyond. -/
theorem fault_of_integer {fault : SettingFault}
    (refused : env.integer name default minimum maximum = .error fault) :
    fault = .notInteger name ∨ (∃ bound ∈ minimum, fault = .below name (toString bound)) ∨
      ∃ bound ∈ maximum, fault = .above name (toString bound) := by
  unfold integer at refused
  split at refused
  next => cases refused
  next value _ =>
    split at refused
    next =>
      cases refused
      exact .inl rfl
    next parsed _ =>
      split at refused
      next bound below =>
        cases refused
        exact .inr (.inl ⟨bound, (Option.mem_filter_iff.mp below).1, rfl⟩)
      next bound _ above =>
        cases refused
        exact .inr (.inr ⟨bound, (Option.mem_filter_iff.mp above).1, rfl⟩)
      next => cases refused

theorem progressStep_within {step : Int} (set : env.progressStep = .ok step) :
    1 ≤ step ∧ step ≤ 100 := by
  have within := within_of_integer set (by simp) (by simp)
  exact ⟨within.1 1 rfl, within.2 100 rfl⟩

theorem canvasSize_cases (env : Environment) :
    (∃ width height, env.canvasSize = .ok (width, height) ∧ 1 ≤ width ∧ 1 ≤ height) ∨
    ∃ fault, env.canvasSize = .error fault ∧
      ∃ side ∈ ["LINDENMAYER_CANVAS_WIDTH", "LINDENMAYER_CANVAS_HEIGHT"],
        fault = .notInteger side ∨ fault = .below side "1" := by
  have told {side : String} {default : Int} {fault : SettingFault}
      (refused : env.integer side default (some 1) none = .error fault) :
      fault = .notInteger side ∨ fault = .below side "1" := by
    obtain bad | ⟨bound, least, below⟩ | ⟨bound, most, -⟩ := fault_of_integer refused
    · exact .inl bad
    · cases least
      exact .inr below
    · cases most
  unfold canvasSize
  cases wide : env.integer "LINDENMAYER_CANVAS_WIDTH" 800 (some 1) none with
  | error fault => exact .inr ⟨fault, rfl, _, by simp, told wide⟩
  | ok width =>
    cases tall : env.integer "LINDENMAYER_CANVAS_HEIGHT" 600 (some 1) none with
    | error fault => exact .inr ⟨fault, rfl, _, by simp, told tall⟩
    | ok height =>
      have width_pos := (within_of_integer wide (by simp) (by simp)).1 1 rfl
      have height_pos := (within_of_integer tall (by simp) (by simp)).1 1 rfl
      exact .inl ⟨width, height, rfl, width_pos, height_pos⟩

end Environment

namespace LSystem

theorem configured_eq_ok_iff {env : Environment} {seed : Word} {g : Grammar} {s : LSystem} :
    configured env seed g = .ok s ↔
      ∃ step, env.progressStep = .ok step ∧ s = .start seed g step := by
  unfold configured
  cases env.progressStep with
  | error fault => simp [Except.map]
  | ok step => simp [Except.map, eq_comm]

theorem canGrow_of_percentage {s : LSystem} (least : 1 ≤ s.step) (most : s.step ≤ 100) {n k : Nat}
    (hk : k ≤ 1000) (short : ∀ m < n, (s.grammar.grow s.word m).length < twoTo k) :
    s.CanGrow n := by
  intro m h
  have advanced := s.grammar.advance_percentage least most hk (short m h)
  exact (s.grammar.advance_eq_ok_iff.mp advanced).2

theorem complete_iterate {s next : LSystem} (grown : s.iterate.outcome = .ok next) :
    Complete s.iterate.progress := by
  unfold iterate at grown ⊢
  dsimp only at grown ⊢
  cases advanced : (s.grammar.advance s.step s.word).outcome with
  | error fault =>
    rw [advanced] at grown
    cases grown
  | ok w => exact Grammar.complete_advance advanced

end LSystem

/-- Whatever an environment sets, the step is a percentage or refused and the canvas has sides or is
refused. With such a step a system grows by one generation after another, and each one is reported
up to 100 and then told of. -/
theorem configured_system_grows (env : Environment) :
    (match env.progressStep with
      | .ok step => 1 ≤ step ∧ step ≤ 100
      | .error fault => fault ∈ [.notInteger "LINDENMAYER_PROGRESS_STEP",
          .below "LINDENMAYER_PROGRESS_STEP" "1", .above "LINDENMAYER_PROGRESS_STEP" "100"]) ∧
    (match env.canvasSize with
      | .ok (width, height) => 1 ≤ width ∧ 1 ≤ height
      | .error fault => ∃ side ∈ ["LINDENMAYER_CANVAS_WIDTH", "LINDENMAYER_CANVAS_HEIGHT"],
          fault = .notInteger side ∨ fault = .below side "1") ∧
    ∀ seed g begun, LSystem.configured env seed g = .ok begun →
      ∀ n, (∀ k ≤ n, (g.grow seed k).length < twoTo 53) →
        let s := begun.attempts n
        g.expand seed n = .ok s.word ∧ s.generation = n ∧
        s.iterate.outcome = .ok { s with word := g.rewrite s.word, generation := n + 1 } ∧
        s.iterate.progress ≠ [] ∧ s.iterate.progress.Pairwise (· < ·) ∧
        s.iterate.progress.getLast? = some 100 ∧ s.iterate.progress.count 100 = 1 ∧
        ∀ c : Coordinator Float, c.system = s → c.isOpen = true →
          c.grow.1 = s.iterate.progress.map .growing ++ [.grown (n + 1)] := by
  refine ⟨?_, ?_, ?_⟩
  · cases set : env.progressStep with
    | ok step => exact Environment.progressStep_within set
    | error fault =>
      obtain rfl | ⟨bound, least, rfl⟩ | ⟨bound, most, rfl⟩ := Environment.fault_of_integer set
      · exact List.mem_cons_self
      · cases least
        exact List.mem_cons_of_mem _ List.mem_cons_self
      · cases most
        exact List.mem_cons_of_mem _ (List.mem_cons_of_mem _ List.mem_cons_self)
  · obtain ⟨width, height, set, sides⟩ | ⟨fault, set, told⟩ := env.canvasSize_cases
    · rw [set]
      exact sides
    · rw [set]
      exact told
  · intro seed g begun built n short s
    obtain ⟨step, set, rfl⟩ := LSystem.configured_eq_ok_iff.mp built
    obtain ⟨least, most⟩ := Environment.progressStep_within set
    have grows : (LSystem.start seed g step).CanGrow (n + 1) :=
      LSystem.canGrow_of_percentage least most (by omega) fun k h => short k (by omega)
    have reached : s = ⟨seed, g, step, g.grow seed n, n⟩ := by
      have made := LSystem.attempts_of_canGrow (grows.of_le (Nat.le_succ n))
      exact made.trans (congrArg (LSystem.mk seed g step (g.grow seed n)) (Nat.zero_add n))
    have grown :
        s.iterate.outcome = .ok { s with word := g.rewrite s.word, generation := n + 1 } := by
      rw [reached]
      exact LSystem.iterate_eq_ok_iff.mpr ⟨rfl, LSystem.canGrow_one_iff.mpr (grows n (by omega))⟩
    have complete := LSystem.complete_iterate grown
    refine ⟨?_, ?_, grown, complete.ne_nil, complete.rising, complete.last, complete.count_hundred,
      ?_⟩
    · rw [g.expand_natCast, reached]
    · rw [reached]
    · rintro c same isOpen
      rw [← same] at grown ⊢
      exact congrArg Prod.fst (c.grow_of_ok isOpen grown).1

/-- A setting may be written with blanks, a sign and an underscore. -/
theorem spelled_step_grows :
    let env : Environment := fun name =>
      if name = "LINDENMAYER_PROGRESS_STEP" then some " +3_0\n" else
      if name = "LINDENMAYER_CANVAS_HEIGHT" then some "0" else none
    let g := Grammar.ofRules [('A', ['A', 'B']), ('B', ['A'])]
    let begun := LSystem.start ['A'] g 30
    let s := begun.attempts 3
    env.progressStep = .ok 30 ∧ env.canvasSize = .error (.below "LINDENMAYER_CANVAS_HEIGHT" "1") ∧
      LSystem.configured env ['A'] g = .ok begun ∧
      (∀ k ≤ 3, (g.grow ['A'] k).length < twoTo 53) ∧ s.generation = 3 ∧
      s.iterate.progress = [40, 80, 100] ∧ s.iterate.progress.count 100 = 1 ∧
      s.iterate.outcome = .ok { s with word := g.rewrite s.word, generation := 4 } ∧
      ∃ c : Coordinator Float, c.system = s ∧ c.isOpen = true ∧
        c.grow.1 = [.growing 40, .growing 80, .growing 100, .grown 4] := by
  intro env g begun s
  have set : env.progressStep = .ok 30 := by decide +kernel
  have small : env.canvasSize = .error (.below "LINDENMAYER_CANVAS_HEIGHT" "1") := by
    decide +kernel
  have built : LSystem.configured env ['A'] g = .ok begun :=
    LSystem.configured_eq_ok_iff.mpr ⟨30, set, rfl⟩
  have short : ∀ k ≤ 3, (g.grow ['A'] k).length < twoTo 53 := by decide +kernel
  have reported : s.iterate.progress = [40, 80, 100] := by decide +kernel
  obtain ⟨-, -, grows⟩ := configured_system_grows env
  obtain ⟨-, third, grown, -, -, -, once, told⟩ := grows ['A'] g begun built 3 short
  have watched := told (.start s ⟨.degrees, 20.0, 5⟩ 10.0 ⟨.whole 100, .whole 100⟩) rfl rfl
  rw [reported] at watched
  exact ⟨set, small, built, short, third, reported, once, grown, _, rfl, rfl, watched⟩

end LSystems
