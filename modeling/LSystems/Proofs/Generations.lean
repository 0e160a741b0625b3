import LSystems.Proofs.Effects
import LSystems.Proofs.Printing

namespace LSystems

theorem plain_generationLine {lengthsOnly : Bool} {w : Word} (generation : Nat)
    (plain : lengthsOnly = true ∨ Text.Plain w) :
    Text.Plain (generationLine lengthsOnly generation w) := by
  have colon : Text.Plain (Text.ofString ": ") := by decide
  unfold generationLine
  rw [Text.ofString_append, Text.plain_append, Text.plain_append]
  refine ⟨⟨Text.plain_toString generation, colon⟩, ?_⟩
  split
  next => exact Text.plain_toString w.length
  next whole => exact plain.resolve_left whole

theorem generationLines_succ (g : Grammar) (lengthsOnly : Bool) (first count : Nat) (w : Word) :
    generationLines g lengthsOnly first (count + 1) w = generationLine lengthsOnly first w ::
      generationLines g lengthsOnly (first + 1) count (g.rewrite w) :=
  rfl

theorem length_generationLines (g : Grammar) (lengthsOnly : Bool) (first count : Nat) (w : Word) :
    (generationLines g lengthsOnly first count w).length = count + 1 := by
  induction count generalizing first w with
  | zero => rfl
  | succ count ih =>
    rw [generationLines_succ, List.length_cons, ih]

theorem getElem?_generationLines (g : Grammar) (lengthsOnly : Bool) (first : Nat) {count k : Nat}
    (w : Word) (h : k ≤ count) :
    (generationLines g lengthsOnly first count w)[k]?
      = some (generationLine lengthsOnly (first + k) (g.grow w k)) := by
  -- The number of the first line goes up as the word is rewritten, so both are general.
  induction count generalizing first w k with
  | zero =>
    have none : k = 0 := by omega
    subst none
    rfl
  | succ count ih =>
    cases k with
    | zero => rfl
    | succ k =>
      have fewer : k ≤ count := by omega
      have number : first + 1 + k = first + (k + 1) := by omega
      rw [generationLines_succ, List.getElem?_cons_succ, ih (first + 1) (g.rewrite w) fewer, number]
      rfl

theorem getElem?_generationLines_eq_some_iff {g : Grammar} {lengthsOnly : Bool} {count k : Nat}
    {w : Word} {line : Text} : (generationLines g lengthsOnly 0 count w)[k]? = some line ↔
      k ≤ count ∧ line = generationLine lengthsOnly k (g.grow w k) := by
  have there (h : k ≤ count) := getElem?_generationLines g lengthsOnly 0 w h
  rw [Nat.zero_add] at there
  constructor
  · intro found
    obtain ⟨within, -⟩ := List.getElem?_eq_some_iff.mp found
    rw [length_generationLines] at within
    have h : k ≤ count := by omega
    exact ⟨h, Option.some.inj (found.symm.trans (there h))⟩
  · rintro ⟨h, rfl⟩
    exact there h

/-- The generations of a definition are printed line by line. -/
theorem Command.execute_expand {around : Surroundings} {source : Source} {d : Definition}
    (resolved : source.resolve around = .ok d) (generations : Nat) (lengthsOnly : Bool) :
    (Command.expand source generations lengthsOnly).execute around
      = around.printing (generationLines d.grammar lengthsOnly 0 generations d.seed) := by
  unfold execute expandCommand
  dsimp only
  rw [resolved]
  rfl

/-- As long as the words are plain, or only their lengths are asked for, their lines are printed in
full. -/
theorem Command.line_of_execute_expand {around : Surroundings} (prints : around.PrintsPlain)
    {source : Source} {d : Definition} (resolved : source.resolve around = .ok d)
    {generations k : Nat} (h : k ≤ generations) {lengthsOnly : Bool}
    (plain : lengthsOnly = true ∨ ∀ j ≤ k, Text.Plain (d.grammar.grow d.seed j)) :
    ((Command.expand source generations lengthsOnly).execute around).lines[k]?
      = some (generationLine lengthsOnly k (d.grammar.grow d.seed k)) := by
  rw [execute_expand resolved, Surroundings.printing_lines, Surroundings.getElem?_print_of_shown]
  · exact getElem?_generationLines_eq_some_iff.mpr ⟨h, rfl⟩
  · intro line mem
    obtain ⟨j, there⟩ := List.mem_iff_getElem?.mp mem
    rw [List.getElem?_take] at there
    split at there
    next early =>
      obtain ⟨-, rfl⟩ := getElem?_generationLines_eq_some_iff.mp there
      exact prints _ (plain_generationLine j (plain.imp_right fun all => all j (by omega)))
    next => cases there

namespace Coordinator

variable {α : Type} [Scalar α]

/-- Whatever is asked for, the word of a system is what its seed expands to in as many generations as
attempts to grow it have succeeded. The lines of the same words are handed to the output one after
another, up to one that it refuses; what it shows as it is, is printed in full. -/
theorem generations_agree (d : Definition) (step : Int) (i : Interpreter α) (base : α)
    (size : Size α) (requests : List (Request α)) :
    let begun := start (d.build step) i base size
    let c := begun.run requests
    let word := d.grammar.grow d.seed
    (∀ k : Nat, d.grammar.expand d.seed k = .ok (word k)) ∧
    c.system.generation = begun.successes requests ∧
    d.grammar.expand d.seed c.system.generation = .ok c.system.word ∧
    (c.isOpen = false → ∀ request, request ≠ .growDirectly →
      (c.perform request).coordinator.system = c.system) ∧
    (∀ fault, c.system.iterate.outcome = .error fault →
      c.system.iterate.progress = [] ∧ c.grow = ([], c, some fault) ∧
        c.growJob = ([], { c with jobs := c.jobs ++ [some fault] })) ∧
    (∀ w : Word, w.length < twoTo 1000 →
      (d.grammar.advance defaultStep w).outcome = .ok (d.grammar.rewrite w)) ∧
    ∀ around source, source.resolve around = .ok d → ∀ generations lengthsOnly,
      let left := (Command.expand source generations lengthsOnly).execute around
      let line (k : Nat) : Text := Text.ofString (toString k ++ ": ") ++
        if lengthsOnly then Text.ofString (toString (word k).length) else word k
      (∀ k text, left.lines[k]? = some text → k ≤ generations ∧ around.echo (line k) = .ok text) ∧
      (left.exit = 0 ∧ left.broken = none ∧ left.lines.length = generations + 1 ∨
        ∃ fault, left.exit = 1 ∧ left.broken = some (.host fault) ∧
          left.lines.length ≤ generations ∧ around.echo (line left.lines.length) = .error fault) ∧
      (around.PrintsPlain → ∀ k ≤ generations,
        (lengthsOnly = true ∨ ∀ j ≤ k, Text.Plain (word j)) → left.lines[k]? = some (line k)) := by
  intro begun c word
  have ran := begun.run_system requests
  have generation : c.system.generation = begun.successes requests := by
    have counted := congrArg LSystem.generation ran
    exact counted.trans (Nat.zero_add _)
  refine ⟨fun k => d.grammar.expand_natCast d.seed k, generation, ?_,
    fun closed request => perform_system_of_closed closed, fun fault => grow_of_error,
    fun w short => d.grammar.advance_defaultStep (Nat.le_refl 1000) short, ?_⟩
  · rw [Grammar.expand_natCast, generation]
    exact congrArg (fun s => Except.ok s.word) ran.symm
  · intro around source resolved generations lengthsOnly left line
    have printed :
        left = around.printing (generationLines d.grammar lengthsOnly 0 generations d.seed) :=
      Command.execute_expand resolved generations lengthsOnly
    refine ⟨?_, ?_, fun prints k h plain => Command.line_of_execute_expand prints resolved h plain⟩
    · intro k text there
      rw [printed, Surroundings.printing_lines] at there
      obtain ⟨handed, found, shown⟩ := Surroundings.echo_of_getElem?_print there
      obtain ⟨h, rfl⟩ := getElem?_generationLines_eq_some_iff.mp found
      exact ⟨h, shown⟩
    · have ends := around.printing_ends (generationLines d.grammar lengthsOnly 0 generations d.seed)
      rw [← printed] at ends
      obtain ⟨exit, unbroken, all⟩ | ⟨handed, fault, exit, broken, found, refused⟩ := ends
      · exact .inl ⟨exit, unbroken, all.trans (length_generationLines _ _ _ _ _)⟩
      · obtain ⟨h, rfl⟩ := getElem?_generationLines_eq_some_iff.mp found
        exact .inr ⟨fault, exit, broken, h, refused⟩

/-- With so large a step a word of two symbols has no size of pieces, and the second attempt fails. -/
theorem algae_generations_agree :
    let around := Surroundings.ofFile 900 .empty
    let source : Source := ⟨"algae", none⟩
    let d := Definition.presets[1]
    let begun : Coordinator Float :=
      start (d.build (twoTo 1030)) ⟨.degrees, 20.0, 5⟩ 10.0 ⟨.whole 100, .whole 100⟩
    let c := begun.run [.grow 2, .shutdown, .growDirectly]
    let left := (Command.expand source 3 false).execute around
    c.system.generation = 1 ∧ begun.successes [.grow 2, .shutdown, .growDirectly] = 1 ∧
      d.grammar.expand d.seed 1 = .ok c.system.word ∧
      c.isOpen = false ∧ (c.perform (.grow 1)).coordinator.system = c.system ∧
      (∃ fault, c.system.iterate.outcome = .error fault ∧ c.grow = ([], c, some fault)) ∧
      (['A', 'B'] : Word).length < twoTo 1000 ∧
      (d.grammar.advance defaultStep ['A', 'B']).outcome = .ok (d.grammar.rewrite ['A', 'B']) ∧
      source.resolve around = .ok d ∧ around.PrintsPlain ∧ 2 ≤ 3 ∧
      (∀ j ≤ 2, Text.Plain (d.grammar.grow d.seed j)) ∧
      d.grammar.expand d.seed 2 = .ok ['A', 'B', 'A'] ∧
      left.lines[2]? = some (Text.ofString "2: ABA") ∧ left.exit = 0 := by
  intro around source d begun c left
  have resolved : source.resolve around = .ok d := rfl
  have one : c.system.generation = 1 := by decide +kernel
  have closed : c.isOpen = false := by decide +kernel
  have short : (['A', 'B'] : Word).length < twoTo 1000 := by decide +kernel
  have fails : c.system.iterate.outcome.isOk = false := by decide +kernel
  have stated := generations_agree d (twoTo 1030) ⟨.degrees, 20.0, 5⟩ 10.0 ⟨.whole 100, .whole 100⟩
    [.grow 2, .shutdown, .growDirectly]
  extract_lets at stated
  obtain ⟨expands, counted, expanded, halted, silent, advanced, printed⟩ := stated
  rw [one] at counted expanded
  obtain ⟨-, ends, shown⟩ := printed around source resolved 3 false
  have prints : around.PrintsPlain := Surroundings.printsPlain_ofFile _ _
  have plain : ∀ j ≤ 3, Text.Plain (d.grammar.grow d.seed j) := by decide +kernel
  have line (k : Nat) (h : k ≤ 3) := shown prints k h (.inr fun j hj => plain j (hj.trans h))
  have exit : left.exit = 0 := by
    obtain ⟨exit, -⟩ | ⟨fault, -, -, few, -⟩ := ends
    · exact exit
    · obtain ⟨all, -⟩ := List.getElem?_eq_some_iff.mp (line 3 (Nat.le_refl 3))
      exact (Nat.not_lt.mpr few all).elim
  refine ⟨one, counted.symm, expanded, closed, halted closed _ nofun, ?_, short, advanced _ short,
    resolved, prints, by decide, fun j hj => plain j (by omega), expands 2, line 2 (by decide), exit⟩
  cases outcome : c.system.iterate.outcome with
  | ok next =>
    rw [outcome] at fails
    cases fails
  | error fault => exact ⟨fault, rfl, (silent fault outcome).2.1⟩

end Coordinator

/-- An output that is no terminal leaves out what looks like a terminal sequence, and one of bytes
refuses a surrogate. -/
theorem generation_not_printed :
    let marked := "\x7b\"axiom\": \"\\u001b[F\", \"rules\": \x7b\x7d\x7d"
    let lone := "\x7b\"axiom\": \"\\ud800\", \"rules\": \x7b\x7d\x7d"
    let cutting (line : Text) : Text := if line = Text.ofString "0: \x1b[F" then "0: " else line
    let around : Surroundings :=
      { Surroundings.ofFile 900 marked.toUTF8 with echo := fun line => .ok (cutting line) }
    let around' := Surroundings.ofFile 900 lone.toUTF8
    let source : Source := ⟨"plant", some (Path.ofText "d.json")⟩
    let command := Command.expand source 0 false
    (∃ d, source.resolve around = .ok d ∧ d.grammar.expand d.seed 0 = .ok [escapeMark, '[', 'F'] ∧
      (command.execute around).lines = [Text.ofString "0: "]) ∧
    ∃ d, source.resolve around' = .ok d ∧ d.grammar.expand d.seed 0 = .ok [.surrogate 0] ∧
      (command.execute around').lines = [] ∧ (command.execute around').exit = 1 := by
  intro marked lone cutting around around' source command
  have of_seed {around : Surroundings} {w : Word}
      (seed : (source.resolve around).toOption.map Definition.seed = some w) :
      ∃ d, source.resolve around = .ok d ∧ d.grammar.expand d.seed 0 = .ok w := by
    cases resolved : source.resolve around with
    | error left =>
      rw [resolved] at seed
      cases seed
    | ok d =>
      rw [resolved] at seed
      exact ⟨d, rfl, congrArg Except.ok (Option.some.inj seed)⟩
  obtain ⟨d, resolved, first⟩ : ∃ d, source.resolve around = .ok d ∧
      d.grammar.expand d.seed 0 = .ok [escapeMark, '[', 'F'] := of_seed (by decide +kernel)
  obtain ⟨d', resolved', first'⟩ : ∃ d, source.resolve around' = .ok d ∧
      d.grammar.expand d.seed 0 = .ok [.surrogate 0] := of_seed (by decide +kernel)
  exact ⟨⟨d, resolved, first, by decide +kernel⟩,
    ⟨d', resolved', first', by decide +kernel, by decide +kernel⟩⟩

end LSystems
