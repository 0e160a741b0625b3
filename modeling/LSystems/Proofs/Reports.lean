import LSystems.Proofs.Walk

namespace LSystems

namespace Throttle

/-- What a count adds to the percentages sent before it. -/
def send (sent : List Int × Throttle) (count : Int) : List Int × Throttle :=
  (sent.1 ++ (sent.2.update count).1.toList, (sent.2.update count).2)

theorem feed_eq (t : Throttle) (counts : List Int) : t.feed counts = counts.foldl send ([], t) := by
  unfold feed
  congr 1
  funext ⟨sent, t⟩ count
  unfold send
  dsimp only
  obtain ⟨percentage, next⟩ := t.update count
  cases percentage <;> simp

theorem foldl_send (counts sent : List Int) (t : Throttle) :
    counts.foldl send (sent, t) = (sent ++ (t.feed counts).1, (t.feed counts).2) := by
  rw [feed_eq]
  induction counts generalizing sent t with
  | nil => simp
  | cons count rest ih =>
    simp only [List.foldl_cons, send, List.nil_append]
    rw [ih (sent ++ (t.update count).1.toList), ih (t.update count).1.toList, List.append_assoc]

theorem feed_cons (t : Throttle) (count : Int) (rest : List Int) :
    t.feed (count :: rest) = ((t.update count).1.toList ++ ((t.update count).2.feed rest).1,
      ((t.update count).2.feed rest).2) := by
  rw [feed_eq, List.foldl_cons, foldl_send]
  rfl

theorem feed_append (t : Throttle) (counts later : List Int) :
    t.feed (counts ++ later)
      = ((t.feed counts).1 ++ ((t.feed counts).2.feed later).1, ((t.feed counts).2.feed later).2) := by
  rw [feed_eq, List.foldl_append, ← feed_eq, ← foldl_send]

theorem prefix_sentUpTo (t : Throttle) {count total : Nat} (h : count ≤ total) :
    (t.sentUpTo count).1 <+: (t.sentUpTo total).1 := by
  unfold sentUpTo
  have split : List.range' 1 total
      = List.range' 1 count ++ List.range' (1 + count) (total - count) := by
    rw [List.range'_append_1]
    congr 1
    omega
  rw [split, List.map_append, feed_append]
  exact List.prefix_append _ _

theorem prefix_sentInAll (t : Throttle) {count total : Nat} (h : count ≤ total) :
    (t.sentUpTo count).1 <+: t.sentInAll total :=
  (t.prefix_sentUpTo h).trans (List.prefix_append _ _)

end Throttle

namespace Interpreter

variable {α σ : Type}

/-- The percentages reported when that many symbols of a word have been carried out. -/
def reportsUpTo (i : Interpreter α) (word : Word) (count : Nat) : List Int :=
  match Throttle.start word.length i.step with
  | .ok throttle => (throttle.sentUpTo count).1
  | .error _ => []

/-- The percentages reported when a whole word is carried out. -/
def reports (i : Interpreter α) (word : Word) : List Int :=
  match Throttle.start word.length i.step with
  | .ok throttle => throttle.sentInAll word.length
  | .error _ => []

theorem prefix_reports (i : Interpreter α) {word : Word} {count : Nat}
    (h : count ≤ word.length) : i.reportsUpTo word count <+: i.reports word := by
  unfold reportsUpTo reports
  cases Throttle.start word.length i.step with
  | error e => exact List.prefix_rfl
  | ok throttle => exact throttle.prefix_sentInAll h

variable [Scalar α]

/-- A walk that keeps no record. -/
def wander (i : Interpreter α) (distance : α) (origin : Point α) (word : Word) :
    Except (Nat × Fault) (Walker α Unit) :=
  i.walk (fun _ _ => ()) distance 0 ⟨.facingNorth i.compass origin, [], ()⟩ word

/-- A pass comes to nothing after so many symbols: before the first one when its step is no
percentage, and else at the first symbol that cannot be carried out. -/
inductive Stops (i : Interpreter α) (distance : α) (origin : Point α) (word : Word) :
    Nat → Fault → Prop
  | step (h : i.step < 1) : Stops i distance origin word 0 .progressStep
  | symbol {before after : Word} {c : Symbol} {w : Walker α Unit} {e : Fault} (step : 1 ≤ i.step)
    (parts : word = before ++ c :: after) (reached : i.wander distance origin before = .ok w)
    (fails : i.obey (fun _ _ => ()) distance before.length w c = .error e) :
    Stops i distance origin word before.length e

theorem Stops.le_length {i : Interpreter α} {distance : α} {origin : Point α} {word : Word}
    {count : Nat} {e : Fault} (h : i.Stops distance origin word count e) : count ≤ word.length := by
  cases h with
  | step h => exact Nat.zero_le _
  | symbol step parts reached fails =>
    rw [parts, List.length_append]
    omega

theorem walk_error {i : Interpreter α} {note : σ → Segment α → σ} {distance : α} {word : Word}
    {index count : Nat} {w : Walker α σ} {e : Fault}
    (h : i.walk note distance index w word = .error (count, e)) :
    ∃ before c after w', word = before ++ c :: after ∧ count = index + before.length ∧
      i.walk note distance index w before = .ok w' ∧
      i.obey note distance count w' c = .error e := by
  induction word generalizing index w with
  | nil => cases h
  | cons c rest ih =>
    simp only [walk] at h
    cases obeyed : i.obey note distance index w c with
    | error fault =>
      rw [obeyed] at h
      cases h
      exact ⟨[], c, rest, w, rfl, rfl, rfl, obeyed⟩
    | ok moved =>
      rw [obeyed] at h
      obtain ⟨before, c', after, w', parts, counted, reached, fails⟩ := ih h
      refine ⟨c :: before, c', after, w', ?_, ?_, ?_, fails⟩
      · rw [parts, List.cons_append]
      · rw [List.length_cons]; omega
      · simp only [walk, obeyed]
        exact reached

/-- Whether a walk gets on does not depend on what it records. -/
theorem wander_agree (i : Interpreter α) (note : σ → Segment α → σ) (record : σ) (distance : α)
    (origin : Point α) (word : Word) :
    Agree (Walker.Related Eq fun _ _ => True)
      (i.walk note distance 0 ⟨.facingNorth i.compass origin, [], record⟩ word)
      (i.wander distance origin word) := by
  have lockstep : Lockstep Eq (fun (_ : σ) (_ : Unit) => True) i i note (fun _ _ => ()) distance
      distance := by
    refine ⟨?_, ?_, ?_, ?_⟩
    · intro s t h; rw [h]
    · intro s t h; rw [h]
    · intro s t h
      rw [h]
      cases t.forward i.compass distance with
      | ok moved => exact .ok rfl
      | error e => exact .error e
    · intros; trivial
  exact walk_agree lockstep word ⟨rfl, .nil, trivial⟩ 0

/-- A walk over a whole word stops where the pass over it does. -/
theorem Stops.wander_eq {i : Interpreter α} {distance : α} {origin : Point α} {word : Word}
    {count : Nat} {e : Fault} (stops : i.Stops distance origin word count e) :
    (i.step < 1 ∧ count = 0 ∧ e = .progressStep) ∨
    (1 ≤ i.step ∧ i.wander distance origin word = .error (count, e)) := by
  cases stops with
  | step low => exact .inl ⟨low, rfl, rfl⟩
  | symbol step parts reached fails =>
    refine .inr ⟨step, ?_⟩
    unfold wander at reached ⊢
    rw [parts, walk_append, reached, Nat.zero_add]
    simp only [Except.bind, walk, fails]

theorem Stops.unique {i : Interpreter α} {distance : α} {origin : Point α} {word : Word}
    {count count' : Nat} {e e' : Fault} (stops : i.Stops distance origin word count e)
    (stops' : i.Stops distance origin word count' e') : count = count' ∧ e = e' := by
  obtain ⟨low, rfl, rfl⟩ | ⟨step, wandered⟩ := stops.wander_eq
  · obtain ⟨-, rfl, rfl⟩ | ⟨step, -⟩ := stops'.wander_eq
    · exact ⟨rfl, rfl⟩
    · omega
  · obtain ⟨low, -, -⟩ | ⟨-, wandered'⟩ := stops'.wander_eq
    · omega
    · cases wandered.symm.trans wandered'
      exact ⟨rfl, rfl⟩

theorem Stops.trace_eq {i : Interpreter α} {distance : α} {origin : Point α} {word : Word}
    {count : Nat} {e : Fault} (stops : i.Stops distance origin word count e)
    (note : σ → Segment α → σ) (record : σ) :
    i.trace note record distance origin word = ⟨i.reportsUpTo word count, .error e⟩ := by
  unfold trace reportsUpTo
  obtain ⟨low, rfl, rfl⟩ | ⟨step, wandered⟩ := stops.wander_eq
  · rw [Throttle.start_eq_error low]
  · rw [Throttle.start_eq_ok step]
    obtain ⟨w, w', -, walked, -⟩ | ⟨e', walked, wandered'⟩ :=
      (i.wander_agree note record distance origin word).exists
    · cases wandered.symm.trans walked
    · cases wandered.symm.trans wandered'
      rw [walked]

theorem Stops.measure_eq {i : Interpreter α} {distance : α} {origin : Point α} {word : Word}
    {count : Nat} {e : Fault} (stops : i.Stops distance origin word count e) :
    i.measure distance origin word = ⟨i.reportsUpTo word count, .error e⟩ :=
  stops.trace_eq _ _

theorem Stops.draw_eq {i : Interpreter α} {distance : α} {origin : Point α} {word : Word}
    {count : Nat} {e : Fault} (stops : i.Stops distance origin word count e) :
    i.draw distance origin word = ⟨i.reportsUpTo word count, .error e⟩ := by
  unfold draw
  rw [stops.trace_eq]
  rfl

/-- Both passes over a word end with the fault that they stop for. -/
theorem Stops.outcomes {i : Interpreter α} {distance : α} {origin : Point α} {word : Word}
    {count : Nat} {e : Fault} (stops : i.Stops distance origin word count e) :
    (i.measure distance origin word).outcome = .error e ∧
      (i.draw distance origin word).outcome = .error e :=
  ⟨congrArg Tracked.outcome stops.measure_eq, congrArg Tracked.outcome stops.draw_eq⟩

/-- A pass over a word gives a result and reports on the whole word, or it stops and has
reported on the symbols it has carried out. -/
theorem trace_cases (i : Interpreter α) (note : σ → Segment α → σ) (record : σ) (distance : α)
    (origin : Point α) (word : Word) :
    (∃ found, (i.trace note record distance origin word).outcome = .ok found ∧
      (i.trace note record distance origin word).progress = i.reports word) ∨
    ∃ count e, i.Stops distance origin word count e ∧
      (i.trace note record distance origin word).outcome = .error e ∧
      (i.trace note record distance origin word).progress = i.reportsUpTo word count := by
  unfold trace reports reportsUpTo
  by_cases step : 1 ≤ i.step
  · rw [Throttle.start_eq_ok step]
    dsimp only
    obtain ⟨w, w', walked, -, -⟩ | ⟨⟨count, e⟩, walked, wandered⟩ :=
      (i.wander_agree note record distance origin word).exists
    · rw [walked]
      exact .inl ⟨w.record, rfl, rfl⟩
    · rw [walked]
      obtain ⟨before, c, after, w', parts, counted, reached, fails⟩ := walk_error wandered
      have counted : count = before.length := by omega
      subst counted
      exact .inr ⟨_, e, .symbol step parts reached fails, rfl, rfl⟩
  · have low : i.step < 1 := by omega
    rw [Throttle.start_eq_error low]
    exact .inr ⟨0, .progressStep, .step low, rfl, rfl⟩

theorem measure_cases (i : Interpreter α) (distance : α) (origin : Point α) (word : Word) :
    (∃ box, (i.measure distance origin word).outcome = .ok box ∧
      (i.measure distance origin word).progress = i.reports word) ∨
    ∃ count e, i.Stops distance origin word count e ∧
      (i.measure distance origin word).outcome = .error e ∧
      (i.measure distance origin word).progress = i.reportsUpTo word count :=
  i.trace_cases _ _ distance origin word

theorem draw_cases (i : Interpreter α) (distance : α) (origin : Point α) (word : Word) :
    (∃ strokes, (i.draw distance origin word).outcome = .ok strokes ∧
      (i.draw distance origin word).progress = i.reports word) ∨
    ∃ count e, i.Stops distance origin word count e ∧
      (i.draw distance origin word).outcome = .error e ∧
      (i.draw distance origin word).progress = i.reportsUpTo word count := by
  unfold draw
  dsimp only
  obtain ⟨strokes, drawn, reported⟩ | ⟨count, e, stops, failed, reported⟩ :=
    i.trace_cases (fun (strokes : List (Segment α)) stroke => stroke :: strokes) [] distance origin
      word
  · rw [drawn]
    exact .inl ⟨strokes.reverse, rfl, reported⟩
  · rw [failed]
    exact .inr ⟨count, e, stops, rfl, reported⟩

end Interpreter

end LSystems
