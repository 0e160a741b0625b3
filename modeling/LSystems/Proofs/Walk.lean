import LSystems.Figure
import Mathlib.Data.List.Forall2
import Mathlib.Tactic.SplitIfs

namespace LSystems

/-- Two outcomes agree when both fail alike or both give related values. -/
inductive Agree {ε β γ : Type} (rel : β → γ → Prop) : Except ε β → Except ε γ → Prop
  | ok {b : β} {c : γ} (h : rel b c) : Agree rel (.ok b) (.ok c)
  | error (e : ε) : Agree rel (.error e) (.error e)

theorem Agree.exists {ε β γ : Type} {rel : β → γ → Prop} {x : Except ε β} {y : Except ε γ}
    (h : Agree rel x y) :
    (∃ b c, x = .ok b ∧ y = .ok c ∧ rel b c) ∨ ∃ e, x = .error e ∧ y = .error e := by
  cases h with
  | ok h => exact .inl ⟨_, _, rfl, rfl, h⟩
  | error e => exact .inr ⟨e, rfl, rfl⟩

theorem Agree.of_map {ε β γ : Type} {f : γ → β} {x : Except ε γ} :
    Agree (fun b c => b = f c) (x.map f) x := by
  cases x with
  | ok c => exact .ok rfl
  | error e => exact .error e

theorem exists_of_isOk {ε β : Type} {x : Except ε β} (succeeds : x.isOk = true) :
    ∃ b, x = .ok b := by
  cases x with
  | ok b => exact ⟨b, rfl⟩
  | error e => cases succeeds

/-- What a symbol can make of a walker. -/
inductive Obeyed {α σ : Type} [Scalar α] (i : Interpreter α) (note : σ → Segment α → σ)
    (distance : α) (w : Walker α σ) : Symbol → Walker α σ → Prop
  | stroke {t : Turtle α} (h : w.turtle.forward i.compass distance = .ok t) :
    Obeyed i note distance w 'F' ⟨t, w.saved, note w.record ⟨w.turtle.position, t.position⟩⟩
  | left : Obeyed i note distance w '+' { w with turtle := w.turtle.left i.turnAngle }
  | right : Obeyed i note distance w '-' { w with turtle := w.turtle.right i.turnAngle }
  | save : Obeyed i note distance w '[' { w with saved := w.turtle :: w.saved }
  | back {t : Turtle α} {saved : List (Turtle α)} (h : w.saved = t :: saved) :
    Obeyed i note distance w ']' { w with turtle := t, saved := saved }
  | idle (c : Symbol) (h : c ∉ (['F', '+', '-', '[', ']'] : Word)) : Obeyed i note distance w c w

namespace Obeyed

variable {α σ : Type} [Scalar α] {i : Interpreter α} {note : σ → Segment α → σ} {distance : α}
  {w w' : Walker α σ}

theorem of_stroke (h : Obeyed i note distance w 'F' w') :
    ∃ t, w.turtle.forward i.compass distance = .ok t ∧
      w' = ⟨t, w.saved, note w.record ⟨w.turtle.position, t.position⟩⟩ := by
  cases h with
  | stroke h => exact ⟨_, h, rfl⟩
  | idle c h => simp at h

theorem of_save (h : Obeyed i note distance w '[' w') :
    w' = { w with saved := w.turtle :: w.saved } := by
  cases h with
  | save => rfl
  | idle c h => simp at h

theorem of_back (h : Obeyed i note distance w ']' w') :
    ∃ t saved, w.saved = t :: saved ∧ w' = { w with turtle := t, saved := saved } := by
  cases h with
  | back h => exact ⟨_, _, h, rfl⟩
  | idle c h => simp at h

end Obeyed

namespace Interpreter

variable {α σ : Type} [Scalar α]

/-- A trace without its reports. -/
def pass (i : Interpreter α) (note : σ → Segment α → σ) (record : σ) (distance : α)
    (origin : Point α) (word : Word) : Except Fault σ :=
  match i.walk note distance 0 ⟨.facingNorth i.compass origin, [], record⟩ word with
  | .ok walker => .ok walker.record
  | .error (_, e) => .error e

theorem trace_outcome (i : Interpreter α) (note : σ → Segment α → σ) (record : σ) (distance : α)
    (origin : Point α) (word : Word) :
    (i.trace note record distance origin word).outcome
      = if 1 ≤ i.step then i.pass note record distance origin word else .error .progressStep := by
  unfold trace Throttle.start pass
  split_ifs with h
  · cases i.walk note distance 0 ⟨.facingNorth i.compass origin, [], record⟩ word with
    | ok walker => rfl
    | error e => rfl
  · rfl

variable {i : Interpreter α} {note : σ → Segment α → σ} {distance : α}

theorem trace_eq_ok_iff {record found : σ} {origin : Point α} {word : Word} :
    (i.trace note record distance origin word).outcome = .ok found ↔ 1 ≤ i.step ∧ ∃ w,
      i.walk note distance 0 ⟨.facingNorth i.compass origin, [], record⟩ word = .ok w ∧
        w.record = found := by
  rw [trace_outcome]
  unfold pass
  split_ifs with step
  · cases i.walk note distance 0 ⟨.facingNorth i.compass origin, [], record⟩ word with
    | ok w => simp [step]
    | error e => simp
  · simp [step]

/-- A drawing is what a walk over the whole word has recorded, the first stroke first. -/
theorem draw_eq_ok_iff {origin : Point α} {word : Word} {strokes : List (Segment α)} :
    (i.draw distance origin word).outcome = .ok strokes ↔ 1 ≤ i.step ∧ ∃ w,
      i.walk (fun strokes stroke => stroke :: strokes) distance 0
        ⟨.facingNorth i.compass origin, [], []⟩ word = .ok w ∧ w.record.reverse = strokes := by
  unfold draw
  dsimp only
  constructor
  · intro drawn
    cases traced : (i.trace (fun (strokes : List (Segment α)) stroke => stroke :: strokes) []
      distance origin word).outcome with
    | error e =>
      rw [traced] at drawn
      cases drawn
    | ok found =>
      rw [traced] at drawn
      cases drawn
      obtain ⟨step, w, walked, rfl⟩ := trace_eq_ok_iff.mp traced
      exact ⟨step, w, walked, rfl⟩
  · rintro ⟨step, w, walked, rfl⟩
    rw [trace_eq_ok_iff.mpr ⟨step, w, walked, rfl⟩]
    rfl

theorem obeyed_of_obey {index : Nat} {w w' : Walker α σ} {c : Symbol}
    (h : i.obey note distance index w c = .ok w') : Obeyed i note distance w c w' := by
  unfold obey at h
  split_ifs at h with hF hl hr hs hb
  · subst hF
    split at h
    next t ht => cases h; exact .stroke ht
    next => cases h
  · subst hl; cases h; exact .left
  · subst hr; cases h; exact .right
  · subst hs; cases h; exact .save
  · subst hb
    split at h
    next t saved ht => cases h; exact .back ht
    next => cases h
  · cases h
    exact .idle c (by simp [hF, hl, hr, hs, hb])

theorem obey_of_obeyed {w w' : Walker α σ} {c : Symbol} (h : Obeyed i note distance w c w')
    (index : Nat) : i.obey note distance index w c = .ok w' := by
  cases h with
  | stroke h => simp [obey, h]
  | left => simp [obey]
  | right => simp [obey]
  | save => simp [obey]
  | back h => simp [obey, h]
  | idle c h =>
    simp only [List.mem_cons, List.not_mem_nil, or_false, not_or] at h
    simp [obey, h]

/-- A symbol cannot be carried out when it asks for a stroke along a heading that points nowhere or
goes back to a turtle that was not saved. -/
theorem obey_error_iff {index : Nat} {w : Walker α σ} {c : Symbol} {e : Fault} :
    i.obey note distance index w c = .error e ↔
      (c = 'F' ∧ i.compass.step? w.turtle.heading = none ∧ e = .noDirection) ∨
      (c = ']' ∧ w.saved = [] ∧ e = .stackUnderflow index) := by
  unfold obey Turtle.forward
  split_ifs with hF hl hr hs hb
  · subst hF
    cases i.compass.step? w.turtle.heading with
    | none => simp [eq_comm]
    | some step => simp
  · subst hl
    simp
  · subst hr
    simp
  · subst hs
    simp
  · subst hb
    cases w.saved with
    | nil => simp [eq_comm]
    | cons t saved => simp
  · simp [hF, hb]

theorem walk_append (i : Interpreter α) (note : σ → Segment α → σ) (distance : α) (index : Nat)
    (w : Walker α σ) (u v : Word) : i.walk note distance index w (u ++ v)
      = (i.walk note distance index w u).bind
          fun w' => i.walk note distance (index + u.length) w' v := by
  induction u generalizing index w with
  | nil => rfl
  | cons c rest ih =>
    have onward : index + (c :: rest).length = index + 1 + rest.length := by
      rw [List.length_cons]
      omega
    simp only [List.cons_append, walk, onward]
    cases i.obey note distance index w c with
    | ok moved => exact ih (index + 1) moved
    | error e => rfl

theorem walk_append_eq_ok_iff {index : Nat} {w w' : Walker α σ} {u v : Word} :
    i.walk note distance index w (u ++ v) = .ok w' ↔
      ∃ there, i.walk note distance index w u = .ok there ∧
        i.walk note distance (index + u.length) there v = .ok w' := by
  rw [walk_append]
  cases i.walk note distance index w u with
  | ok there => simp [Except.bind]
  | error e => simp [Except.bind]

theorem walk_cons_eq_ok_iff {index : Nat} {w w' : Walker α σ} {c : Symbol} {rest : Word} :
    i.walk note distance index w (c :: rest) = .ok w' ↔
      ∃ there, Obeyed i note distance w c there ∧
        i.walk note distance (index + 1) there rest = .ok w' := by
  simp only [walk]
  constructor
  · intro walked
    split at walked
    next there obeyed => exact ⟨there, obeyed_of_obey obeyed, walked⟩
    next => cases walked
  · rintro ⟨there, obeyed, walked⟩
    rw [obey_of_obeyed obeyed index]
    exact walked

/-- What every obeyed symbol keeps, a walk keeps. -/
theorem walk_keeps {kept : Walker α σ → Prop}
    (step : ∀ {w c w'}, Obeyed i note distance w c w' → kept w → kept w') (word : Word)
    {index : Nat} {w w' : Walker α σ} (h : i.walk note distance index w word = .ok w')
    (start : kept w) : kept w' := by
  induction word generalizing index w with
  | nil => cases h; exact start
  | cons c rest ih =>
    obtain ⟨there, obeyed, walked⟩ := walk_cons_eq_ok_iff.mp h
    exact ih walked (step obeyed start)

/-- What every symbol does alike to the image of a walker, a walk does, wherever its word stands. -/
theorem walk_image {τ : Type} {note' : τ → Segment α → τ} {f : Walker α σ → Walker α τ}
    (step : ∀ {w c w'}, Obeyed i note distance w c w' → Obeyed i note' distance (f w) c (f w'))
    {word : Word} {index : Nat} {w w' : Walker α σ}
    (h : i.walk note distance index w word = .ok w') (index' : Nat) :
    i.walk note' distance index' (f w) word = .ok (f w') := by
  induction word generalizing index index' w with
  | nil =>
    cases h
    rfl
  | cons c rest ih =>
    obtain ⟨there, obeyed, walked⟩ := walk_cons_eq_ok_iff.mp h
    exact walk_cons_eq_ok_iff.mpr ⟨f there, step obeyed, ih walked (index' + 1)⟩

end Interpreter

/-- Two walkers on one way, turtle by turtle, with records that belong together. -/
structure Walker.Related {α β σ τ : Type} (turtles : Turtle α → Turtle β → Prop)
    (records : σ → τ → Prop) (v : Walker α σ) (w : Walker β τ) : Prop where
  turtle : turtles v.turtle w.turtle
  saved : List.Forall₂ turtles v.saved w.saved
  record : records v.record w.record

/-- What two walks must have in common for their walkers to stay related. -/
structure Lockstep {α β σ τ : Type} [Scalar α] [Scalar β] (turtles : Turtle α → Turtle β → Prop)
    (records : σ → τ → Prop) (i : Interpreter α) (j : Interpreter β)
    (note : σ → Segment α → σ) (note' : τ → Segment β → τ) (distance : α) (distance' : β) : Prop where
  left : ∀ {s t}, turtles s t → turtles (s.left i.turnAngle) (t.left j.turnAngle)
  right : ∀ {s t}, turtles s t → turtles (s.right i.turnAngle) (t.right j.turnAngle)
  forward : ∀ {s t}, turtles s t →
    Agree turtles (s.forward i.compass distance) (t.forward j.compass distance')
  note : ∀ {s t s' t' r q}, turtles s t → turtles s' t' → records r q →
    records (note r ⟨s.position, s'.position⟩) (note' q ⟨t.position, t'.position⟩)

namespace Interpreter

variable {α β σ τ : Type} [Scalar α] [Scalar β] {turtles : Turtle α → Turtle β → Prop}
  {records : σ → τ → Prop} {i : Interpreter α} {j : Interpreter β} {note : σ → Segment α → σ}
  {note' : τ → Segment β → τ} {distance : α} {distance' : β}

theorem obey_agree (lockstep : Lockstep turtles records i j note note' distance distance')
    {v : Walker α σ} {w : Walker β τ} (h : Walker.Related turtles records v w) (index : Nat)
    (c : Symbol) :
    Agree (Walker.Related turtles records) (i.obey note distance index v c)
      (j.obey note' distance' index w c) := by
  unfold obey
  split_ifs
  · obtain ⟨s, t, hs, ht, moved⟩ | ⟨e, hs, ht⟩ := (lockstep.forward h.turtle).exists
    · rw [hs, ht]
      exact .ok ⟨moved, h.saved, lockstep.note h.turtle moved h.record⟩
    · rw [hs, ht]
      exact .error e
  · exact .ok ⟨lockstep.left h.turtle, h.saved, h.record⟩
  · exact .ok ⟨lockstep.right h.turtle, h.saved, h.record⟩
  · exact .ok ⟨h.turtle, .cons h.turtle h.saved, h.record⟩
  · -- The saved turtles are related one by one, so both walkers can go back or neither can.
    have both := h.saved
    generalize v.saved = s at both ⊢
    generalize w.saved = t at both ⊢
    cases both with
    | nil => exact .error _
    | cons top rest => exact .ok ⟨top, rest, h.record⟩
  · exact .ok h

/-- Walks in lockstep meet the same fault at the same symbol, or end with related walkers. -/
theorem walk_agree (lockstep : Lockstep turtles records i j note note' distance distance')
    (word : Word) {v : Walker α σ} {w : Walker β τ} (h : Walker.Related turtles records v w)
    (index : Nat) :
    Agree (Walker.Related turtles records) (i.walk note distance index v word)
      (j.walk note' distance' index w word) := by
  induction word generalizing v w index with
  | nil => exact .ok h
  | cons c rest ih =>
    simp only [walk]
    obtain ⟨v', w', hv, hw, related⟩ | ⟨e, hv, hw⟩ := (obey_agree lockstep h index c).exists
    · rw [hv, hw]
      exact ih related (index + 1)
    · rw [hv, hw]
      exact .error (index, e)

theorem pass_agree (lockstep : Lockstep turtles records i j note note' distance distance')
    {origin : Point α} {origin' : Point β} {record : σ} {record' : τ}
    (fresh : turtles (.facingNorth i.compass origin) (.facingNorth j.compass origin'))
    (h : records record record') (word : Word) :
    Agree records (i.pass note record distance origin word)
      (j.pass note' record' distance' origin' word) := by
  have begun : Walker.Related turtles records ⟨.facingNorth i.compass origin, [], record⟩
      ⟨.facingNorth j.compass origin', [], record'⟩ := ⟨fresh, .nil, h⟩
  unfold pass
  obtain ⟨v, w, hv, hw, related⟩ | ⟨e, hv, hw⟩ := (walk_agree lockstep word begun 0).exists
  · rw [hv, hw]
    exact .ok related.record
  · rw [hv, hw]
    exact .error e.2

theorem outcome_agree (lockstep : Lockstep turtles records i j note note' distance distance')
    (steps : i.step = j.step) {origin : Point α} {origin' : Point β} {record : σ} {record' : τ}
    (fresh : turtles (.facingNorth i.compass origin) (.facingNorth j.compass origin'))
    (h : records record record') (word : Word) :
    Agree records (i.trace note record distance origin word).outcome
      (j.trace note' record' distance' origin' word).outcome := by
  rw [trace_outcome, trace_outcome, steps]
  split_ifs
  · exact pass_agree lockstep fresh h word
  · exact .error _

end Interpreter

end LSystems
