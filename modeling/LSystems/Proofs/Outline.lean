import LSystems.Proofs.Walk

namespace LSystems

/-- The ends of a stroke. -/
def Segment.ends {α : Type} (s : Segment α) : List (Point α) := [s.start, s.finish]

@[simp] theorem Segment.mem_ends {α : Type} {s : Segment α} {p : Point α} :
    p ∈ s.ends ↔ p = s.start ∨ p = s.finish := by
  simp [Segment.ends]

/-- The box grown from a point to the ends of some strokes, one after another. -/
def Box.ofStrokes {α : Type} [Scalar α] (origin : Point α) (strokes : List (Segment α)) : Box α :=
  strokes.foldl (fun box stroke => box.insert stroke.finish) (.ofPoint origin)

/-- A place that some strokes from an origin have been at. -/
def Known {α : Type} (origin : Point α) (strokes : List (Segment α)) (p : Point α) : Prop :=
  p = origin ∨ ∃ e ∈ strokes, e.finish = p

theorem Known.cons {α : Type} {origin : Point α} {strokes : List (Segment α)} {p : Point α}
    (h : Known origin strokes p) (s : Segment α) : Known origin (s :: strokes) p := by
  obtain h | ⟨e, he, rfl⟩ := h
  · exact .inl h
  · exact .inr ⟨e, List.mem_cons_of_mem s he, rfl⟩

/-- Strokes, the last one first, that each start at the origin or where an earlier one ends. -/
def Rooted {α : Type} (origin : Point α) : List (Segment α) → Prop
  | [] => True
  | s :: earlier => Known origin earlier s.start ∧ Rooted origin earlier

theorem Rooted.start_known {α : Type} {origin : Point α} {strokes : List (Segment α)}
    (h : Rooted origin strokes) (s : Segment α) (hs : s ∈ strokes) :
    Known origin strokes s.start := by
  induction strokes with
  | nil => exact (List.not_mem_nil hs).elim
  | cons t earlier ih =>
    rcases List.mem_cons.mp hs with rfl | hs
    · exact h.1.cons s
    · exact (ih h.2 hs).cons t

/-- A walker that recorded all its strokes, the last one first, and saved only places
it had been at. -/
structure Walker.Traced {α : Type} (origin : Point α) (w : Walker α (List (Segment α))) : Prop where
  turtle : Known origin w.record w.turtle.position
  saved : ∀ t ∈ w.saved, Known origin w.record t.position
  rooted : Rooted origin w.record

namespace Interpreter

variable {α : Type} [Scalar α] {i : Interpreter α} {distance : α}

/-- Whoever records every stroke goes back only to places it has been at. -/
theorem traced_of_obeyed {origin : Point α} {w w' : Walker α (List (Segment α))} {c : Symbol}
    (h : Obeyed i (fun strokes stroke => stroke :: strokes) distance w c w')
    (traced : w.Traced origin) : w'.Traced origin := by
  cases h with
  | stroke h =>
    exact ⟨.inr ⟨_, List.mem_cons_self, rfl⟩, fun t ht => (traced.saved t ht).cons _,
      traced.turtle, traced.rooted⟩
  | left => exact ⟨traced.turtle, traced.saved, traced.rooted⟩
  | right => exact ⟨traced.turtle, traced.saved, traced.rooted⟩
  | save =>
    refine ⟨traced.turtle, ?_, traced.rooted⟩
    intro t ht
    rcases List.mem_cons.mp ht with rfl | ht
    · exact traced.turtle
    · exact traced.saved t ht
  | back h =>
    have top := traced.saved _ (h ▸ List.mem_cons_self)
    exact ⟨top, fun t ht => traced.saved t (h ▸ List.mem_cons_of_mem _ ht), traced.rooted⟩
  | idle c h => exact traced

/-- Every drawn stroke starts at the origin or where an earlier one ends. -/
theorem rooted_of_draw {origin : Point α} {word : Word} {strokes : List (Segment α)}
    (h : (i.draw distance origin word).outcome = .ok strokes) : Rooted origin strokes.reverse := by
  obtain ⟨-, w, walked, rfl⟩ := draw_eq_ok_iff.mp h
  have start : Walker.Traced origin ⟨.facingNorth i.compass origin, [], []⟩ :=
    ⟨.inl rfl, fun t ht => (List.not_mem_nil ht).elim, trivial⟩
  rw [List.reverse_reverse]
  exact (walk_keeps traced_of_obeyed word walked start).rooted

/-- Measuring a word gives the box grown to the ends of the strokes that drawing it makes. -/
theorem measure_outcome (i : Interpreter α) (distance : α) (origin : Point α) (word : Word) :
    (i.measure distance origin word).outcome
      = (i.draw distance origin word).outcome.map (Box.ofStrokes origin) := by
  have lockstep : Lockstep Eq (fun box strokes => box = Box.ofStrokes origin strokes.reverse) i i
      (fun box stroke => box.insert stroke.finish) (fun strokes stroke => stroke :: strokes)
      distance distance := by
    refine ⟨fun h => h ▸ rfl, fun h => h ▸ rfl, ?_, ?_⟩
    · rintro s _ rfl
      cases s.forward i.compass distance with
      | ok t => exact .ok rfl
      | error e => exact .error e
    · rintro s _ s' _ box strokes rfl rfl rfl
      simp [Box.ofStrokes]
  have fresh : Turtle.facingNorth i.compass origin = Turtle.facingNorth i.compass origin := rfl
  -- Both passes walk alike; at every step the box is the outline of the strokes recorded so far.
  have none : Box.ofPoint origin = Box.ofStrokes origin [].reverse := rfl
  unfold measure draw
  dsimp only
  obtain ⟨box, strokes, hb, hs, rfl⟩ | ⟨e, hb, hs⟩ :=
    (outcome_agree lockstep rfl fresh none word).exists
  · rw [hb, hs]
    rfl
  · rw [hb, hs]
    rfl

end Interpreter

end LSystems
