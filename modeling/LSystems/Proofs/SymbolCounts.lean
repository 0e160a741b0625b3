import LSystems.Proofs.Strokes
import LSystems.Proofs.Substitution
import Mathlib.Algebra.BigOperators.Group.Finset.Basic
import Mathlib.Data.List.Perm.Basic

namespace LSystems

theorem count_flatMap_eq_sum (f : Symbol → Word) (w : Word) (s : Symbol) :
    (w.flatMap f).count s = ∑ t ∈ w.toFinset, w.count t * (f t).count s := by
  rw [List.count_flatMap, Finset.sum_list_map_count]
  simp only [Nat.nsmul_eq_mul, Function.comp_apply]

namespace Grammar

variable (g : Grammar) {u v : Word}

theorem rewrite_perm (alike : u.Perm v) : (g.rewrite u).Perm (g.rewrite v) :=
  alike.flatMap_right g.replacement

theorem grow_perm (alike : u.Perm v) (n : Nat) : (g.grow u n).Perm (g.grow v n) := by
  induction n generalizing u v with
  | zero => exact alike
  | succ n ih => exact ih (g.rewrite_perm alike)

/-- Every symbol of a word grows on its own. -/
theorem grow_eq_flatMap (w : Word) (n : Nat) : g.grow w n = w.flatMap fun t => g.grow [t] n := by
  induction n generalizing w with
  | zero => exact (List.flatMap_singleton' w).symm
  | succ n ih =>
    have alone (t : Symbol) : g.grow [t] (n + 1) = (g.replacement t).flatMap fun s => g.grow [s] n := by
      show g.grow (g.rewrite [t]) n = _
      rw [ih]
      unfold rewrite
      rw [List.flatMap_singleton]
    show g.grow (g.rewrite w) n = _
    rw [ih]
    unfold rewrite
    rw [List.flatMap_assoc]
    simp only [alone]

theorem grow_succ (w : Word) (n : Nat) : g.grow w (n + 1) = g.rewrite (g.grow w n) :=
  g.grow_add w n 1

end Grammar

theorem Interpreter.length_of_draw {α : Type} [Scalar α] {i : Interpreter α} {distance : α}
    {origin : Point α} {word : Word} {strokes : List (Segment α)}
    (drawn : (i.draw distance origin word).outcome = .ok strokes) :
    strokes.length = word.count (.char 'F') := by
  obtain ⟨-, last, walked, rfl⟩ := draw_eq_ok_iff.mp drawn
  rw [List.length_reverse, length_record walked]
  exact Nat.zero_add _

/-- How often each symbol occurs in a generation is a sum over the symbols of the one before it, and
over those of the seed. The order of the seed does not tell in the length of a generation nor in
the number of its strokes. -/
theorem Grammar.counts_grow_linearly {α : Type} [Scalar α] (g : Grammar) (seed : Word) (n : Nat) :
    ∃ w next, g.expand seed n = .ok w ∧ g.expand seed (n + 1 : Nat) = .ok next ∧
      (∀ step, Cuts step w → (g.advance step w).outcome = .ok next) ∧
      (∀ s, next.count s = ∑ t ∈ w.toFinset, w.count t * (g.replacement t).count s) ∧
      (∀ s, w.count s = ∑ t ∈ seed.toFinset, seed.count t * (g.grow [t] n).count s) ∧
      (∀ (i : Interpreter α) (distance : α) (origin : Point α) (strokes : List (Segment α)),
        (i.draw distance origin w).outcome = .ok strokes →
          strokes.length = ∑ t ∈ seed.toFinset, seed.count t * (g.grow [t] n).count (.char 'F')) ∧
      ∀ seed' : Word, (∀ t, seed'.count t = seed.count t) → ∃ w', g.expand seed' n = .ok w' ∧
        (∀ s, w'.count s = w.count s) ∧ w'.length = w.length ∧
        ∀ (i i' : Interpreter α) (distance distance' : α) (origin origin' : Point α)
          (strokes strokes' : List (Segment α)),
          (i.draw distance origin w).outcome = .ok strokes →
          (i'.draw distance' origin' w').outcome = .ok strokes' →
            strokes'.length = strokes.length := by
  have counts (s : Symbol) : (g.grow seed n).count s
      = ∑ t ∈ seed.toFinset, seed.count t * (g.grow [t] n).count s := by
    rw [← count_flatMap_eq_sum, ← g.grow_eq_flatMap]
  refine ⟨g.grow seed n, g.grow seed (n + 1), g.expand_natCast seed n,
    g.expand_natCast seed (n + 1), ?_, ?_, counts, ?_, ?_⟩
  · intro step cuts
    rw [g.grow_succ, g.advance_of_cuts cuts]
    unfold rewrite
    rw [List.flatMap_def]
  · intro s
    rw [g.grow_succ]
    exact count_flatMap_eq_sum g.replacement (g.grow seed n) s
  · intro i distance origin strokes drawn
    rw [Interpreter.length_of_draw drawn, counts]
  · intro seed' same
    have alike : (g.grow seed' n).Perm (g.grow seed n) :=
      g.grow_perm (List.perm_iff_count.mpr same) n
    refine ⟨_, g.expand_natCast seed' n, alike.count_eq, alike.length_eq, ?_⟩
    intro i i' distance distance' origin origin' strokes strokes' drawn drawn'
    rw [Interpreter.length_of_draw drawn, Interpreter.length_of_draw drawn', alike.count_eq]

/-- Two orders of one seed, whose second generations differ in the order of their symbols only. -/
theorem reordered_seed_counts :
    let g : Grammar := .ofRules [('F', ['F', '[', '+', 'X', ']']), ('X', ['F', 'F'])]
    let i : Interpreter Float := ⟨.rightAngled, 90.0, 5⟩
    let seed : Word := ['F', '-', 'X']
    let seed' : Word := ['X', 'F', '-']
    let w := g.grow seed 2
    let w' := g.grow seed' 2
    (∀ t, seed'.count t = seed.count t) ∧ g.expand seed 2 = .ok w ∧ g.expand seed' 2 = .ok w' ∧
      w ≠ w' ∧ w'.length = w.length ∧ w'.count (.char 'X') = w.count (.char 'X') ∧ Cuts 30 w ∧
      (g.advance 30 w).outcome = .ok (g.grow seed 3) ∧
      (g.grow seed 3).count (.char 'F')
        = ∑ t ∈ w.toFinset, w.count t * (g.replacement t).count (.char 'F') ∧
      ∃ strokes strokes', (i.draw 2.0 ⟨-1.0, 0.5⟩ w).outcome = .ok strokes ∧
        (i.draw 3.0 ⟨0.0, 0.0⟩ w').outcome = .ok strokes' ∧
        strokes'.length = strokes.length := by
  intro g i seed seed' w w'
  have same : ∀ t, seed'.count t = seed.count t := (by decide : seed'.Perm seed).count_eq
  have cuts : Cuts 30 w := by decide +kernel
  have succeeds : (i.draw 2.0 ⟨-1.0, 0.5⟩ w).outcome.isOk = true := by decide +kernel
  have succeeds' : (i.draw 3.0 ⟨0.0, 0.0⟩ w').outcome.isOk = true := by decide +kernel
  obtain ⟨strokes, drawn⟩ := exists_of_isOk succeeds
  obtain ⟨strokes', drawn'⟩ := exists_of_isOk succeeds'
  obtain ⟨_, next, grown, grown', advances, counts, -, -, reordered⟩ :=
    Grammar.counts_grow_linearly (α := Float) g seed 2
  cases grown
  cases grown'
  obtain ⟨_, grown', alike, length, drawings⟩ := reordered seed' same
  cases grown'
  exact ⟨same, rfl, rfl, by decide, length, alike 'X', cuts, advances 30 cuts, counts 'F', strokes,
    strokes', drawn, drawn', drawings i i 2.0 3.0 ⟨-1.0, 0.5⟩ ⟨0.0, 0.0⟩ strokes strokes' drawn drawn'⟩

end LSystems
