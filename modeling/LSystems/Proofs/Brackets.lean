import LSystems.Definition
import LSystems.Proofs.Reports
import LSystems.Proofs.Rewritten
import Mathlib.Data.List.Infix

namespace LSystems

/-- No beginning of a word closes more brackets than it has opened. -/
def Covered (w : Word) : Prop :=
  ∀ p, p <+: w → p.count (.char ']') ≤ p.count (.char '[')

/-- A word closes the brackets that it opens, each after it was opened, and no others. -/
structure Balanced (w : Word) : Prop where
  covered : Covered w
  settled : w.count (.char '[') = w.count (.char ']')

instance (w : Word) : Decidable (Covered w) :=
  decidable_of_iff (∀ p ∈ w.inits, p.count (.char ']') ≤ p.count (.char '['))
    (by simp [Covered, List.mem_inits])

instance (w : Word) : Decidable (Balanced w) :=
  decidable_of_iff (Covered w ∧ w.count (.char '[') = w.count (.char ']'))
    ⟨fun h => ⟨h.1, h.2⟩, fun h => ⟨h.covered, h.settled⟩⟩

/-- A grammar leaves brackets alone and puts only balanced words in. -/
structure Grammar.KeepsBrackets (g : Grammar) : Prop where
  opening : .char '[' ∉ g.ruleSymbols
  closing : .char ']' ∉ g.ruleSymbols
  balanced : ∀ rule ∈ g.rules, Balanced rule.2

instance (g : Grammar) : Decidable g.KeepsBrackets :=
  decidable_of_iff
    (.char '[' ∉ g.ruleSymbols ∧ .char ']' ∉ g.ruleSymbols ∧ ∀ rule ∈ g.rules, Balanced rule.2)
    ⟨fun h => ⟨h.1, h.2.1, h.2.2⟩, fun h => ⟨h.opening, h.closing, h.balanced⟩⟩

/-- A beginning of a word rewritten symbol by symbol ends inside what one symbol becomes. -/
theorem prefix_flatMap {f : Symbol → Word} {w p : Word} (h : p <+: w.flatMap f) :
    p = w.flatMap f ∨ ∃ v c r, v ++ [c] <+: w ∧ r <+: f c ∧ p = v.flatMap f ++ r := by
  induction w generalizing p with
  | nil => exact .inl (List.prefix_nil.mp h)
  | cons d rest ih =>
    rw [List.flatMap_cons] at h
    rcases List.prefix_or_prefix_of_prefix h (List.prefix_append (f d) _) with inside | ⟨q, rfl⟩
    · exact .inr ⟨[], d, p, by simp, inside, rfl⟩
    · have later : q <+: rest.flatMap f := (List.prefix_append_right_inj (f d)).mp h
      rcases ih later with rfl | ⟨v, c, r, begun, inside, rfl⟩
      · exact .inl rfl
      · refine .inr ⟨d :: v, c, r, ?_, inside, ?_⟩
        · simpa using begun
        · rw [List.flatMap_cons, List.append_assoc]

namespace Grammar

variable {g : Grammar}

theorem replacement_of_not_mem {c : Symbol} (h : c ∉ g.ruleSymbols) : g.replacement c = [c] := by
  have missing : g.rule? c = none := by
    unfold rule?
    rw [List.lookup_eq_none_iff]
    intro rule member
    have other : c ≠ rule.1 := fun same => h (same ▸ List.mem_map_of_mem member)
    simpa using other
  unfold replacement
  rw [missing]
  rfl

theorem replacement_cases (g : Grammar) (c : Symbol) :
    g.replacement c = [c] ∨ ∃ rule ∈ g.rules, rule.1 = c ∧ g.replacement c = rule.2 := by
  unfold replacement
  cases found : g.rule? c with
  | none => exact .inl rfl
  | some r =>
    obtain ⟨before, after, parts, -⟩ := List.lookup_eq_some_iff.mp found
    have member : (c, r) ∈ g.rules := by rw [parts]; simp
    exact .inr ⟨(c, r), member, rfl, rfl⟩

namespace KeepsBrackets

/-- A bracket stays, and any other symbol becomes a balanced word. -/
theorem replacement (keeps : g.KeepsBrackets) (c : Symbol) :
    ((c = '[' ∨ c = ']') ∧ g.replacement c = [c]) ∨
    (c ≠ '[' ∧ c ≠ ']' ∧ Balanced (g.replacement c)) := by
  by_cases opening : c = '['
  · subst opening
    exact .inl ⟨.inl rfl, replacement_of_not_mem keeps.opening⟩
  by_cases closing : c = ']'
  · subst closing
    exact .inl ⟨.inr rfl, replacement_of_not_mem keeps.closing⟩
  refine .inr ⟨opening, closing, ?_⟩
  rcases g.replacement_cases c with same | ⟨rule, member, -, becomes⟩
  · rw [same]
    constructor
    · intro p begun
      have none : p.count (.char ']') = 0 :=
        List.count_eq_zero.mpr fun mem => closing (List.mem_singleton.mp (begun.subset mem)).symm
      omega
    · simp [opening, closing]
  · rw [becomes]
    exact keeps.balanced rule member

/-- Rewriting changes nothing in how many more brackets are opened than closed. -/
theorem count_rewrite (keeps : g.KeepsBrackets) (w : Word) :
    (g.rewrite w).count (.char '[') + w.count (.char ']')
      = (g.rewrite w).count (.char ']') + w.count (.char '[') := by
  unfold rewrite
  induction w with
  | nil => rfl
  | cons c rest ih =>
    rw [List.flatMap_cons, List.count_append, List.count_append]
    rcases keeps.replacement c with ⟨rfl | rfl, same⟩ | ⟨opening, closing, balanced⟩
    · rw [same]
      simp
      omega
    · rw [same]
      simp
      omega
    · have settled := balanced.settled
      simp only [List.count_cons_of_ne opening, List.count_cons_of_ne closing]
      omega

/-- A word that closes no bracket too early is rewritten to such a word. -/
theorem covered_rewrite (keeps : g.KeepsBrackets) {w : Word} (covered : Covered w) :
    Covered (g.rewrite w) := by
  intro p begun
  rcases prefix_flatMap begun with rfl | ⟨v, c, r, within, inside, rfl⟩
  · have whole := covered w List.prefix_rfl
    have counts := keeps.count_rewrite w
    unfold rewrite at counts
    omega
  · have earlier := covered v ((List.prefix_append v [c]).trans within)
    have counts := keeps.count_rewrite v
    unfold rewrite at counts
    rw [List.count_append, List.count_append]
    rcases keeps.replacement c with ⟨bracket, same⟩ | ⟨-, -, balanced⟩
    · -- What a bracket becomes is the bracket, so the beginning ends before it or with it.
      rw [same] at inside
      have upTo := covered (v ++ [c]) within
      rw [List.count_append, List.count_append] at upTo
      rcases List.prefix_cons_iff.mp inside with rfl | ⟨t, rfl, empty⟩
      · simp only [List.count_nil]
        omega
      · rw [List.prefix_nil.mp empty]
        omega
    · have part := balanced.covered r inside
      omega

theorem covered_grow (keeps : g.KeepsBrackets) {seed : Word} (covered : Covered seed) (n : Nat) :
    Covered (g.grow seed n) := by
  induction n generalizing seed with
  | zero => exact covered
  | succ n ih => exact ih (keeps.covered_rewrite covered)

end KeepsBrackets

end Grammar

namespace Interpreter

variable {α σ : Type} [Scalar α] {i : Interpreter α} {distance : α} {origin : Point α} {word : Word}

/-- A turtle is saved for every bracket that has been opened and not been closed. -/
theorem length_saved {note : σ → Segment α → σ} {index : Nat} {w w' : Walker α σ}
    (walked : i.walk note distance index w word = .ok w') :
    w'.saved.length + word.count (.char ']') = w.saved.length + word.count (.char '[') := by
  induction word generalizing index w with
  | nil =>
    cases walked
    rfl
  | cons c rest ih =>
    obtain ⟨there, obeyed, onward⟩ := walk_cons_eq_ok_iff.mp walked
    have later := ih onward
    cases obeyed with
    | stroke h => simpa using later
    | left => simpa using later
    | right => simpa using later
    | save =>
      simp only [List.length_cons] at later
      simp
      omega
    | back h =>
      have top := congrArg List.length h
      simp only [List.length_cons] at top later
      simp
      omega
    | idle c h =>
      simp only [List.mem_cons, not_or] at h
      have opening : c ≠ '[' := h.2.2.2.1
      have closing : c ≠ ']' := h.2.2.2.2.1
      simp only [List.count_cons_of_ne opening, List.count_cons_of_ne closing]
      exact later

/-- A word that closes no bracket too early never goes back to a turtle that was not saved. -/
theorem not_stops_of_covered (covered : Covered word) {count index : Nat} :
    ¬i.Stops distance origin word count (.stackUnderflow index) := by
  intro stops
  cases stops with
  | @symbol before after c w _ step parts reached fails =>
    obtain ⟨-, -, other⟩ | ⟨rfl, bare, -⟩ := obey_error_iff.mp fails
    · cases other
    · have begun : before ++ [.char ']'] <+: word := ⟨after, by rw [parts]; simp⟩
      have closed := covered _ begun
      have saved := length_saved reached
      simp only [bare, List.length_nil] at saved
      simp at closed
      omega

end Interpreter

/-- Nobody who walks over a word goes back to a turtle that was not saved. -/
def NeverUnderflows (α : Type) [Scalar α] (w : Word) : Prop :=
  ∀ (i : Interpreter α) (distance : α) (origin : Point α) (index : Nat),
    (i.measure distance origin w).outcome ≠ .error (.stackUnderflow index) ∧
    (i.draw distance origin w).outcome ≠ .error (.stackUnderflow index)

theorem neverUnderflows_of_covered {α : Type} [Scalar α] {w : Word} (covered : Covered w) :
    NeverUnderflows α w := by
  intro i distance origin index
  constructor
  · intro failed
    obtain ⟨box, measured, -⟩ | ⟨count, e, stops, stopped, -⟩ := i.measure_cases distance origin w
    · cases measured.symm.trans failed
    · cases stopped.symm.trans failed
      exact Interpreter.not_stops_of_covered covered stops
  · intro failed
    obtain ⟨strokes, drawn, -⟩ | ⟨count, e, stops, stopped, -⟩ := i.draw_cases distance origin w
    · cases drawn.symm.trans failed
    · cases stopped.symm.trans failed
      exact Interpreter.not_stops_of_covered covered stops

theorem presets_keep_brackets :
    ∀ d ∈ Definition.presets, d.grammar.KeepsBrackets ∧ Covered d.seed := by
  decide

/-- A grammar that keeps brackets makes of a word that closes none too early only such words, and
nobody who walks over them goes back to a turtle that was not saved; so it is with every preset. -/
theorem expand_never_underflows (α : Type) [Scalar α] :
    (∀ (g : Grammar) (seed : Word), g.KeepsBrackets → Covered seed → ∀ n : Nat,
      ∃ w, g.expand seed n = .ok w ∧ Covered w ∧ NeverUnderflows α w) ∧
    ∀ d ∈ Definition.presets, ∀ n : Nat,
      ∃ w, d.grammar.expand d.seed n = .ok w ∧ Covered w ∧ NeverUnderflows α w := by
  have general (g : Grammar) (seed : Word) (keeps : g.KeepsBrackets) (covered : Covered seed)
      (n : Nat) : ∃ w, g.expand seed n = .ok w ∧ Covered w ∧ NeverUnderflows α w := by
    have grown := keeps.covered_grow covered n
    exact ⟨_, g.expand_natCast seed n, grown, neverUnderflows_of_covered grown⟩
  refine ⟨general, ?_⟩
  intro d preset n
  obtain ⟨keeps, covered⟩ := presets_keep_brackets d preset
  exact general d.grammar d.seed keeps covered n

/-- A branch that is never closed does no harm. -/
theorem open_branch_never_underflows :
    let g : Grammar := .ofRules [('F', ['F', '[', '+', 'F', ']']), ('X', ['[', 'X', ']', 'F'])]
    let seed : Word := ['[', '[', 'X', ']', 'F']
    g.KeepsBrackets ∧ Covered seed ∧ ¬Balanced seed ∧
      ∃ w, g.expand seed 3 = .ok w ∧ Covered w ∧ NeverUnderflows Float w := by
  intro g seed
  have keeps : g.KeepsBrackets := by decide
  have covered : Covered seed := by decide
  have unsettled : ¬Balanced seed := by decide
  exact ⟨keeps, covered, unsettled, (expand_never_underflows Float).1 g seed keeps covered 3⟩

end LSystems
