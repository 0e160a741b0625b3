import LSystems.Proofs.Rewritten

namespace LSystems

/-- A step of at least one point cuts a word into pieces if `step` percent of its length is below
halfway from the largest binary64 number to the next power of two. -/
def Cuts (step : Int) (w : Word) : Prop :=
  1 ≤ step ∧ w.length * step < 100 * ((twoTo 1024 - twoTo 970 : Nat) : Int)

instance (step : Int) (w : Word) : Decidable (Cuts step w) :=
  inferInstanceAs (Decidable (_ ∧ _))

theorem cuts_iff {step : Int} {w : Word} : Cuts step w ↔
    1 ≤ step ∧ ∃ quotient, Magnitude.nearest? (w.length * step.toNat) 100 = some quotient := by
  rw [Magnitude.exists_nearest?_iff (by omega : 0 < 100)]
  refine and_congr_right fun least => ?_
  have points : ((w.length * step.toNat : Nat) : Int) = w.length * step := by
    rw [Int.natCast_mul, Int.toNat_of_nonneg (by omega)]
  omega

theorem Cuts.of_length_le {step : Int} {v w : Word} (cuts : Cuts step w)
    (shorter : v.length ≤ w.length) : Cuts step v := by
  obtain ⟨least, small⟩ := cuts
  have fewer : v.length * step ≤ w.length * step :=
    Int.mul_le_mul_of_nonneg_right (by omega) (by omega)
  exact ⟨least, by omega⟩

namespace Grammar

variable (g : Grammar)

theorem advance_of_cuts {step : Int} {w : Word} (cuts : Cuts step w) :
    (g.advance step w).outcome = .ok (w.map g.replacement).flatten := by
  have advanced := g.advance_eq_ok_iff.mpr ⟨rfl, cuts_iff.mp cuts⟩
  rw [advanced]
  unfold rewrite
  rw [List.flatMap_def]

theorem advance_of_not_cuts {step : Int} {w : Word} (least : 1 ≤ step) (uncut : ¬Cuts step w) :
    (g.advance step w).outcome = .error .quotientTooLarge := by
  have huge : Magnitude.nearest? (w.length * step.toNat) 100 = none := by
    rw [cuts_iff] at uncut
    rw [Option.eq_none_iff_forall_ne_some]
    intro quotient found
    exact uncut ⟨least, quotient, found⟩
  rw [advance_outcome, if_neg (by omega), huge]

/-- Whatever pieces a step cuts a word into, every symbol is replaced once and in its place. -/
theorem advance_substitutes (g : Grammar) :
    (∀ step w, Cuts step w → (g.advance step w).outcome = .ok (w.map g.replacement).flatten) ∧
    (∀ step step' w, Cuts step w → Cuts step' w →
      (g.advance step w).outcome = (g.advance step' w).outcome) ∧
    (∀ step u v, Cuts step (u ++ v) → ∃ u' v', (g.advance step u).outcome = .ok u' ∧
      (g.advance step v).outcome = .ok v' ∧ (g.advance step (u ++ v)).outcome = .ok (u' ++ v')) ∧
    (∀ step w, step < 1 → (g.advance step w).outcome = .error .progressStep) ∧
    ∀ step w, 1 ≤ step → ¬Cuts step w → (g.advance step w).outcome = .error .quotientTooLarge := by
  refine ⟨fun step w => g.advance_of_cuts, ?_, ?_, ?_, fun step w => g.advance_of_not_cuts⟩
  · intro step step' w cuts cuts'
    rw [g.advance_of_cuts cuts, g.advance_of_cuts cuts']
  · intro step u v cuts
    have left : Cuts step u := cuts.of_length_le (by simp)
    have right : Cuts step v := cuts.of_length_le (by simp)
    refine ⟨_, _, g.advance_of_cuts left, g.advance_of_cuts right, ?_⟩
    rw [g.advance_of_cuts cuts, List.map_append, List.flatten_append]
  · intro step w low
    rw [advance_outcome, if_pos low]

end Grammar

/-- Pieces of three symbols are cut across the halves of a word, and a large piece holds it all. -/
theorem erasing_grammar_substitutes :
    let g : Grammar := .ofRules [('A', ['A', 'B']), ('B', [])]
    let u : Word := ['A', 'B', 'A', '+']
    let v : Word := ['A', 'C', 'B']
    let huge : Int := (100 * twoTo 1024 : Nat)
    Cuts 30 (u ++ v) ∧ (g.advance 30 (u ++ v)).progress = [42, 85, 100] ∧
      (g.advance 30 (u ++ v)).outcome = .ok ['A', 'B', 'A', 'B', '+', 'A', 'B', 'C'] ∧
      Cuts 1000000 (u ++ v) ∧ (g.advance 1000000 (u ++ v)).progress = [100] ∧
      (g.advance 30 (u ++ v)).outcome = (g.advance 1000000 (u ++ v)).outcome ∧
      (∃ u' v', (g.advance 30 u).outcome = .ok u' ∧ (g.advance 30 v).outcome = .ok v' ∧
        u' ++ v' = (['A', 'B', 'A', 'B', '+', 'A', 'B', 'C'] : Word)) ∧
      ¬Cuts huge u ∧ (g.advance huge u).outcome = .error .quotientTooLarge ∧
      (g.advance 0 u).outcome = .error .progressStep := by
  intro g u v huge
  have fine : Cuts 30 (u ++ v) := by decide +kernel
  have coarse : Cuts 1000000 (u ++ v) := by decide +kernel
  have uncut : ¬Cuts huge u := by decide +kernel
  obtain ⟨substitutes, alike, appends, low, fails⟩ := g.advance_substitutes
  have whole : (g.advance 30 (u ++ v)).outcome = .ok ['A', 'B', 'A', 'B', '+', 'A', 'B', 'C'] :=
    substitutes 30 (u ++ v) fine
  obtain ⟨u', v', left, right, both⟩ := appends 30 u v fine
  refine ⟨fine, by decide +kernel, whole, coarse, by decide +kernel, alike _ _ _ fine coarse,
    ⟨u', v', left, right, ?_⟩, uncut, fails huge u (by decide +kernel) uncut,
    low 0 u (by decide)⟩
  exact Except.ok.inj (both.symm.trans whole)

end LSystems
