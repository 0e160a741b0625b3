import LSystems.Proofs.Brackets
import LSystems.Proofs.LostWay
import LSystems.Proofs.Percentages

namespace LSystems

/-- The shortest beginning of a word that closes more brackets than it has opened. -/
structure ClosesTooEarly (w p : Word) : Prop where
  begun : p <+: w
  more : p.count (.char '[') < p.count (.char ']')
  shortest : ∀ q, q <+: w → q.count (.char '[') < q.count (.char ']') → p.length ≤ q.length

theorem closesTooEarly_of_covered {before after : Word} (covered : Covered before)
    (even : before.count (.char '[') = before.count (.char ']')) :
    ClosesTooEarly (before ++ .char ']' :: after) (before ++ [.char ']']) := by
  have begun : before <+: before ++ .char ']' :: after := List.prefix_append _ _
  refine ⟨⟨after, by simp⟩, ?_, ?_⟩
  · have opened : (before ++ [Symbol.char ']']).count (.char '[') = before.count (.char '[') := by simp
    have closed : (before ++ [Symbol.char ']']).count (.char ']') = before.count (.char ']') + 1 := by
      simp
    omega
  · intro q within more
    rw [List.length_append, List.length_singleton]
    by_contra shorter
    have inside : q <+: before := List.prefix_of_prefix_length_le within begun (by omega)
    have := covered q inside
    omega

namespace Throttle

theorem percentage_lt {t : Throttle} {count : Int} (positive : 0 < t.total)
    (below : count < t.total) : t.percentage count < 100 := by
  have part : 100 * count / t.total < 100 := by
    rw [Int.ediv_lt_iff_lt_mul positive]
    omega
  unfold percentage
  omega

theorem update_ne_hundred {t : Throttle} {count : Int} (below : count < t.total) :
    (t.update count).1 ≠ some 100 := by
  unfold update
  dsimp only
  split_ifs with silent sends
  · intro hundred
    cases hundred
  · have less := percentage_lt (t := t) (by omega) below
    intro hundred
    have := Option.some.inj hundred
    omega
  · intro hundred
    cases hundred

/-- Counts that stay below the total do not make 100. -/
theorem hundred_not_mem_feed (t : Throttle) {counts : List Int}
    (below : ∀ count ∈ counts, count < t.total) : 100 ∉ (t.feed counts).1 := by
  induction counts generalizing t with
  | nil => simp [feed]
  | cons count rest ih =>
    have now := update_ne_hundred (below count List.mem_cons_self)
    have later : 100 ∉ ((t.update count).2.feed rest).1 := by
      apply ih
      intro other member
      rw [update_total]
      exact below other (List.mem_cons_of_mem count member)
    rw [feed_cons]
    simp only [List.mem_append, Option.mem_toList, not_or]
    exact ⟨now, later⟩

theorem hundred_not_mem_sentUpTo (t : Throttle) {count : Nat} (below : (count : Int) < t.total) :
    100 ∉ (t.sentUpTo count).1 := by
  apply t.hundred_not_mem_feed
  intro n member
  obtain ⟨k, inRange, rfl⟩ := List.mem_map.mp member
  have := List.mem_range'_1.mp inRange
  show (k : Int) < t.total
  omega

end Throttle

namespace Interpreter

/-- Before the last symbol has been carried out nobody has heard 100. -/
theorem reportsUpTo_below {α : Type} {i : Interpreter α} {word : Word} (step : 1 ≤ i.step)
    {count : Nat} (below : count < word.length) :
    ∃ throttle, Throttle.start word.length i.step = .ok throttle ∧
      i.reportsUpTo word count = (throttle.sentUpTo count).1 ∧ 100 ∉ i.reportsUpTo word count := by
  unfold reportsUpTo
  rw [Throttle.start_eq_ok step]
  refine ⟨_, rfl, rfl, ?_⟩
  apply Throttle.hundred_not_mem_sentUpTo
  exact Int.ofNat_lt.mpr below

section
variable {α σ : Type} [Scalar α] {i : Interpreter α} {distance : α} {origin : Point α} {word : Word}

/-- A walk that starts with no turtle saved comes to the end of no other words. -/
theorem covered_of_walk {note : σ → Segment α → σ} {index : Nat} {w w' : Walker α σ}
    (bare : w.saved = []) (walked : i.walk note distance index w word = .ok w') : Covered word := by
  rintro p ⟨rest, parts⟩
  rw [← parts, walk_append] at walked
  cases reached : i.walk note distance index w p with
  | error e =>
    rw [reached] at walked
    cases walked
  | ok there =>
    have saved := length_saved reached
    rw [bare, List.length_nil] at saved
    omega

theorem covered_of_trace {note : σ → Segment α → σ} {record found : σ}
    (ends : (i.trace note record distance origin word).outcome = .ok found) : Covered word := by
  obtain ⟨-, w, walked, -⟩ := trace_eq_ok_iff.mp ends
  exact covered_of_walk rfl walked

/-- A pass goes back to a turtle that was not saved at the first bracket too many. -/
theorem Stops.closesTooEarly {count index : Nat}
    (stops : i.Stops distance origin word count (.stackUnderflow index)) :
    count = index ∧ index < word.length ∧ ∃ p, ClosesTooEarly word p ∧ p.length = index + 1 := by
  cases stops with
  | @symbol before after c w _ step parts reached fails =>
    obtain ⟨-, -, other⟩ | ⟨rfl, bare, here⟩ := obey_error_iff.mp fails
    · cases other
    · cases here
      have saved := length_saved reached
      simp only [bare, List.length_nil] at saved
      refine ⟨rfl, ?_, before ++ [.char ']'], ?_, ?_⟩
      · rw [parts, List.length_append, List.length_cons]
        omega
      · rw [parts]
        exact closesTooEarly_of_covered (covered_of_walk rfl reached) (by omega)
      · rw [List.length_append, List.length_singleton]

/-- A pass in either mode reads its finding from what it has recorded. -/
theorem run_eq_trace (i : Interpreter α) (mode : Mode) (distance : α) (origin : Point α)
    (word : Word) :
    ∃ (σ : Type) (note : σ → Segment α → σ) (record : σ) (read : σ → Finding α),
      (∀ r, (read r).symbols = word.length) ∧
      (i.run mode distance origin word).progress
        = (i.trace note record distance origin word).progress ∧
      (i.run mode distance origin word).outcome
        = (i.trace note record distance origin word).outcome.map read := by
  cases mode with
  | bounds =>
    exact ⟨Box α, fun box stroke => box.insert stroke.finish, .ofPoint origin,
      fun box => ⟨.bounds, word.length, some box, []⟩, fun _ => rfl, rfl, rfl⟩
  | draw =>
    refine ⟨List (Segment α), fun strokes stroke => stroke :: strokes, [],
      fun strokes => ⟨.draw, word.length, none, strokes.reverse⟩, fun _ => rfl, rfl, ?_⟩
    unfold run draw
    dsimp only
    cases (i.trace (fun (strokes : List (Segment α)) stroke => stroke :: strokes) [] distance
      origin word).outcome with
    | ok strokes => rfl
    | error e => rfl

theorem run_cases (i : Interpreter α) (mode : Mode) (distance : α) (origin : Point α)
    (word : Word) :
    (∃ found, (i.run mode distance origin word).outcome = .ok found ∧
      found.symbols = word.length ∧
      (i.run mode distance origin word).progress = i.reports word ∧ Covered word) ∨
    ∃ count e, i.Stops distance origin word count e ∧
      (i.run mode distance origin word).outcome = .error e ∧
      (i.run mode distance origin word).progress = i.reportsUpTo word count := by
  obtain ⟨σ, note, record, read, symbols, progress, outcome⟩ :=
    i.run_eq_trace mode distance origin word
  rw [progress, outcome]
  obtain ⟨found, ends, reported⟩ | ⟨count, e, stops, ends, reported⟩ :=
    i.trace_cases note record distance origin word
  · rw [ends]
    exact .inl ⟨read found, rfl, symbols found, reported, covered_of_trace ends⟩
  · rw [ends]
    exact .inr ⟨count, e, stops, rfl, reported⟩

theorem run_underflows {mode : Mode} {index : Nat}
    (underflows : (i.run mode distance origin word).outcome = .error (.stackUnderflow index)) :
    i.Stops distance origin word index (.stackUnderflow index) ∧
      (i.run mode distance origin word).progress = i.reportsUpTo word index := by
  obtain ⟨found, ends, -⟩ | ⟨count, e, stops, ends, reported⟩ :=
    i.run_cases mode distance origin word
  · cases ends.symm.trans underflows
  · cases ends.symm.trans underflows
    obtain ⟨rfl, -⟩ := stops.closesTooEarly
    exact ⟨stops, reported⟩

end

theorem run_of_not_losesWay {i : Interpreter Float} {word : Word} (degrees : i.compass = .degrees)
    (least : 1 ≤ i.step) (kept : ¬i.LosesWay word) (mode : Mode) (distance : Float)
    (origin : Point Float) :
    (∃ found, (i.run mode distance origin word).outcome = .ok found ∧
      found.symbols = word.length ∧
      (i.run mode distance origin word).progress = i.reports word ∧ Covered word) ∨
    ∃ index, (i.run mode distance origin word).outcome = .error (.stackUnderflow index) := by
  obtain returns | ⟨count, e, stops, ends, -⟩ := i.run_cases mode distance origin word
  · exact .inl returns
  · obtain ⟨-, lost⟩ | ⟨⟨index, rfl⟩, -⟩ := stops.fault_cases degrees least
    · exact (kept lost).elim
    · exact .inr ⟨index, ends⟩

/-- A pass that keeps its way goes back to a turtle that was not saved exactly if some beginning of
its word closes more brackets than it has opened. It tells the place of the first bracket too many
and has not reported 100; any other such pass reports 100 once, at its end. -/
theorem underflow_characterized (i : Interpreter Float) (degrees : i.compass = .degrees)
    (least : 1 ≤ i.step) (word : Word) (kept : ¬i.LosesWay word) (mode : Mode) (distance : Float)
    (origin : Point Float) :
    let ended := i.run mode distance origin word
    ((∃ index, ended.outcome = .error (.stackUnderflow index)) ↔
      ∃ p, p <+: word ∧ p.count (.char '[') < p.count (.char ']')) ∧
    (∀ index, ended.outcome = .error (.stackUnderflow index) →
      (∃ p, ClosesTooEarly word p ∧ p.length = index + 1) ∧
      (∃ throttle, Throttle.start word.length i.step = .ok throttle ∧
        ended.progress = (throttle.sentUpTo index).1) ∧
      100 ∉ ended.progress) ∧
    ((¬∃ p, p <+: word ∧ p.count (.char '[') < p.count (.char ']')) →
      ∃ found, ended.outcome = .ok found ∧ found.symbols = word.length ∧
        ended.progress.count 100 = 1 ∧ ended.progress.getLast? = some 100) := by
  intro ended
  refine ⟨⟨?_, ?_⟩, ?_, ?_⟩
  · rintro ⟨index, underflows⟩
    obtain ⟨-, -, p, early, -⟩ := (run_underflows underflows).1.closesTooEarly
    exact ⟨p, early.begun, early.more⟩
  · rintro ⟨p, begun, more⟩
    obtain ⟨found, -, -, -, covered⟩ | underflows :=
      run_of_not_losesWay degrees least kept mode distance origin
    · have := covered p begun
      omega
    · exact underflows
  · intro index underflows
    obtain ⟨stops, reported⟩ := run_underflows underflows
    obtain ⟨-, below, early⟩ := stops.closesTooEarly
    obtain ⟨throttle, started, sent, unsent⟩ := reportsUpTo_below least below
    refine ⟨early, ⟨throttle, started, reported.trans sent⟩, ?_⟩
    rw [reported]
    exact unsent
  · intro none
    obtain ⟨found, ends, symbols, reported, -⟩ | ⟨index, underflows⟩ :=
      run_of_not_losesWay degrees least kept mode distance origin
    · have complete := complete_reports least word
      rw [reported]
      exact ⟨found, ends, symbols, complete.count_hundred, complete.last⟩
    · obtain ⟨-, -, p, early, -⟩ := (run_underflows underflows).1.closesTooEarly
      exact (none ⟨p, early.begun, early.more⟩).elim

end Interpreter

/-- A bracket that is never closed does no harm, and one that closes nothing does. -/
theorem stray_bracket_underflows :
    let i : Interpreter Float := ⟨.degrees, 20.0, 20⟩
    let stray : Word := ['[', '+', 'F', ']', 'X', ']', 'F', '[']
    let unclosed : Word := ['[', '+', '[', 'F', ']', '-', 'F']
    let ended := i.run .draw 10.0 ⟨1.0, 2.0⟩ stray
    i.compass = .degrees ∧ 1 ≤ i.step ∧ ¬i.LosesWay stray ∧ ¬i.LosesWay unclosed ∧
      ended.outcome = .error (.stackUnderflow 5) ∧ ended.progress = [12, 37, 62] ∧
      (∃ p, ClosesTooEarly stray p ∧ p.length = 6) ∧
      (¬∃ p, p <+: unclosed ∧ p.count (.char '[') < p.count (.char ']')) ∧
      ∃ found, (i.run .bounds 10.0 ⟨1.0, 2.0⟩ unclosed).outcome = .ok found ∧ found.symbols = 7 ∧
        (i.run .bounds 10.0 ⟨1.0, 2.0⟩ unclosed).progress.getLast? = some 100 := by
  intro i stray unclosed ended
  have least : 1 ≤ i.step := by decide
  have kept : ¬i.LosesWay stray := by decide +kernel
  have kept' : ¬i.LosesWay unclosed := by decide +kernel
  have underflows : ended.outcome = .error (.stackUnderflow 5) := by decide +kernel
  have covered : Covered unclosed := by decide
  have closed : ¬∃ p, p <+: unclosed ∧ p.count (.char '[') < p.count (.char ']') := by
    rintro ⟨p, begun, more⟩
    have := covered p begun
    omega
  obtain ⟨-, early, -⟩ :=
    Interpreter.underflow_characterized i rfl least stray kept .draw 10.0 ⟨1.0, 2.0⟩
  obtain ⟨first, ⟨throttle, started, sent⟩, -⟩ := early 5 underflows
  have reported : ended.progress = [12, 37, 62] := by
    cases started
    exact sent.trans (by decide)
  obtain ⟨-, -, returns⟩ :=
    Interpreter.underflow_characterized i rfl least unclosed kept' .bounds 10.0 ⟨1.0, 2.0⟩
  obtain ⟨found, succeeds, symbols, -, last⟩ := returns closed
  exact ⟨rfl, least, kept, kept', underflows, reported, first, closed, found, succeeds, symbols,
    last⟩

end LSystems
