import LSystems.Proofs.LeastBox
import Mathlib.Tactic.Linarith
import Mathlib.Tactic.Ring

namespace LSystems

/-- A map of the plane that makes figures `factor` times as large and brings the place
`source` to `target`. -/
structure Similarity where
  factor : Rat
  source : Point Rat
  target : Point Rat

namespace Similarity

variable (f : Similarity)

/-- Where a place is brought to. -/
def point (p : Point Rat) : Point Rat :=
  ⟨f.target.x + f.factor * (p.x - f.source.x), f.target.y + f.factor * (p.y - f.source.y)⟩

/-- What becomes of a stroke. -/
def stroke (s : Segment Rat) : Segment Rat :=
  ⟨f.point s.start, f.point s.finish⟩

/-- What becomes of a turtle, whose heading stays. -/
def turtle (t : Turtle Rat) : Turtle Rat :=
  ⟨f.point t.position, t.heading⟩

/-- What becomes of a box that is not turned over. -/
def box (b : Box Rat) : Box Rat :=
  let low := f.point ⟨b.minX, b.minY⟩
  let high := f.point ⟨b.maxX, b.maxY⟩
  ⟨low.x, low.y, high.x, high.y⟩

@[simp] theorem point_source : f.point f.source = f.target := by
  simp [point]

variable {f}

theorem forward_turtle (compass : Compass Rat) (distance : Rat) (t : Turtle Rat) :
    (f.turtle t).forward compass (f.factor * distance)
      = (t.forward compass distance).map f.turtle := by
  unfold Turtle.forward turtle
  dsimp only
  cases compass.step? t.heading with
  | none => rfl
  | some step =>
    have x : f.target.x + f.factor * (t.position.x - f.source.x) + f.factor * distance * step.x
        = f.target.x + f.factor * (t.position.x + distance * step.x - f.source.x) := by ring
    have y : f.target.y + f.factor * (t.position.y - f.source.y) + f.factor * distance * step.y
        = f.target.y + f.factor * (t.position.y + distance * step.y - f.source.y) := by ring
    simp only [Except.map, point]
    rw [x, y]

/-- Grown by the image of a stroke, the image of a box is the image of the grown box. -/
theorem box_insert (larger : 0 < f.factor) (b : Box Rat) (p : Point Rat) :
    (f.box b).insert (f.point p) = f.box (b.insert p) := by
  have order (a c o t : Rat) : t + f.factor * (a - o) < t + f.factor * (c - o) ↔ a < c := by
    rw [add_lt_add_iff_left, mul_lt_mul_iff_right₀ larger, sub_lt_sub_iff_right]
  unfold Box.insert box point
  simp only [order]
  split_ifs <;> rfl

theorem ofStrokes_map (larger : 0 < f.factor) (strokes : List (Segment Rat)) :
    Box.ofStrokes f.target (strokes.map f.stroke) = f.box (Box.ofStrokes f.source strokes) := by
  have grown (b : Box Rat) :
      (strokes.map f.stroke).foldl (fun box stroke => box.insert stroke.finish) (f.box b)
        = f.box (strokes.foldl (fun box stroke => box.insert stroke.finish) b) := by
    induction strokes generalizing b with
    | nil => rfl
    | cons s rest ih =>
      simp only [List.map_cons, List.foldl_cons, stroke, box_insert larger]
      exact ih _
  have start : Box.ofPoint f.target = f.box (.ofPoint f.source) := by
    simp [Box.ofPoint, box, point]
  unfold Box.ofStrokes
  rw [start, grown]

/-- A word drawn `factor` times as large from another place gives the same strokes, brought there. -/
theorem draw_outcome (i : Interpreter Rat) (distance : Rat) (word : Word) :
    (i.draw (f.factor * distance) f.target word).outcome
      = (i.draw distance f.source word).outcome.map (List.map f.stroke) := by
  have lockstep : Lockstep (fun s t => s = f.turtle t) (fun r q => r = q.map f.stroke) i i
      (fun strokes stroke => stroke :: strokes) (fun strokes stroke => stroke :: strokes)
      (f.factor * distance) distance := by
    refine ⟨?_, ?_, ?_, ?_⟩
    · rintro _ t rfl
      rfl
    · rintro _ t rfl
      rfl
    · rintro _ t rfl
      rw [forward_turtle]
      exact .of_map
    · rintro _ t _ t' _ q rfl rfl rfl
      rfl
  have fresh : Turtle.facingNorth i.compass f.target
      = f.turtle (.facingNorth i.compass f.source) := by
    simp [Turtle.facingNorth, turtle]
  have none : ([] : List (Segment Rat)) = [].map f.stroke := rfl
  unfold Interpreter.draw
  dsimp only
  obtain ⟨_, strokes, hr, hq, rfl⟩ | ⟨e, hr, hq⟩ :=
    (Interpreter.outcome_agree lockstep rfl fresh none word).exists
  · rw [hr, hq]
    simp only [Except.map, List.map_reverse]
  · rw [hr, hq]
    rfl

/-- Drawn `factor` times as large from another place, a word gives a drawing exactly if it gave one
before, with as many strokes, and each of them begins and ends where its image does. -/
theorem draws_image (f : Similarity) (i : Interpreter Rat) (distance : Rat) (word : Word) :
    let drawn := (i.draw distance f.source word).outcome
    let redrawn := (i.draw (f.factor * distance) f.target word).outcome
    ((∃ strokes', redrawn = .ok strokes') ↔ ∃ strokes, drawn = .ok strokes) ∧
    ∀ strokes strokes', drawn = .ok strokes → redrawn = .ok strokes' →
      strokes'.length = strokes.length ∧
      ∀ (n : Nat) (s s' : Segment Rat), strokes[n]? = some s → strokes'[n]? = some s' →
        s'.start = f.point s.start ∧ s'.finish = f.point s.finish := by
  intro drawn redrawn
  have similar : redrawn = drawn.map (List.map f.stroke) := draw_outcome i distance word
  refine ⟨?_, ?_⟩
  · constructor
    · rintro ⟨strokes', ends'⟩
      cases ends : drawn with
      | ok strokes => exact ⟨strokes, rfl⟩
      | error e =>
        rw [similar, ends] at ends'
        cases ends'
    · rintro ⟨strokes, ends⟩
      exact ⟨strokes.map f.stroke, by rw [similar, ends]; rfl⟩
  · intro strokes strokes' ends ends'
    rw [similar, ends] at ends'
    cases ends'
    refine ⟨List.length_map f.stroke, ?_⟩
    intro n s s' here there
    rw [List.getElem?_map, here] at there
    cases there
    exact ⟨rfl, rfl⟩

end Similarity

/-- A compass that points north at 90 and east elsewhere. -/
def Compass.squared : Compass Rat :=
  ⟨90, fun heading => some (if heading = 90 then ⟨0, 1⟩ else ⟨1, 0⟩)⟩

/-- Half as large and turned over, a branch is drawn from another place. -/
theorem branch_draws_image :
    let f : Similarity := ⟨-1 / 2, ⟨1, 2⟩, ⟨3, -1⟩⟩
    let i : Interpreter Rat := ⟨.squared, -90, 5⟩
    let word : Word := ['F', '[', '+', 'F', 'F', ']', 'F']
    let strokes : List (Segment Rat) := [⟨⟨1, 2⟩, ⟨1, 12⟩⟩, ⟨⟨1, 12⟩, ⟨11, 12⟩⟩,
      ⟨⟨11, 12⟩, ⟨21, 12⟩⟩, ⟨⟨1, 12⟩, ⟨1, 22⟩⟩]
    let strokes' : List (Segment Rat) := [⟨⟨3, -1⟩, ⟨3, -6⟩⟩, ⟨⟨3, -6⟩, ⟨-2, -6⟩⟩,
      ⟨⟨-2, -6⟩, ⟨-7, -6⟩⟩, ⟨⟨3, -6⟩, ⟨3, -11⟩⟩]
    (i.draw 10 f.source word).outcome = .ok strokes ∧
      (i.draw (f.factor * 10) f.target word).outcome = .ok strokes' ∧
      ∀ (n : Nat) (s s' : Segment Rat), strokes[n]? = some s → strokes'[n]? = some s' →
        s'.start = f.point s.start ∧ s'.finish = f.point s.finish := by
  intro f i word strokes strokes'
  have drawn : (i.draw 10 f.source word).outcome = .ok strokes := by decide +kernel
  have redrawn : (i.draw (f.factor * 10) f.target word).outcome = .ok strokes' := by
    decide +kernel
  obtain ⟨-, images⟩ := Similarity.draws_image f i 10 word
  exact ⟨drawn, redrawn, (images strokes strokes' drawn redrawn).2⟩

end LSystems
