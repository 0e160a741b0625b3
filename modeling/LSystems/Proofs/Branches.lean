import LSystems.Proofs.Brackets
import LSystems.Proofs.DryPass

namespace LSystems

/-- A walker that stands on turtles saved and strokes recorded before it. -/
def Walker.onto {α : Type} (w : Walker α (List (Segment α))) (saved : List (Turtle α))
    (record : List (Segment α)) : Walker α (List (Segment α)) :=
  ⟨w.turtle, w.saved ++ saved, w.record ++ record⟩

namespace Interpreter

variable {α : Type} [Scalar α]

/-- The strokes that a word makes when it is walked over from a turtle on, in order. -/
def drawFrom (i : Interpreter α) (distance : α) (t : Turtle α) (word : Word) :
    Except (Nat × Fault) (List (Segment α)) :=
  (i.walk (fun strokes stroke => stroke :: strokes) distance 0 ⟨t, [], []⟩ word).map
    fun w => w.record.reverse

variable {i : Interpreter α} {distance : α} {origin : Point α} {index : Nat} {u v word : Word}
  {saved : List (Turtle α)} {record : List (Segment α)} {w z : Walker α (List (Segment α))}

theorem drawFrom_eq_ok_iff {t : Turtle α} {strokes : List (Segment α)} :
    i.drawFrom distance t word = .ok strokes ↔ ∃ w,
      i.walk (fun strokes stroke => stroke :: strokes) distance 0 ⟨t, [], []⟩ word = .ok w ∧
        w.record.reverse = strokes := by
  unfold drawFrom
  cases i.walk (fun strokes stroke => stroke :: strokes) distance 0 ⟨t, [], []⟩ word with
  | ok w => simp [Except.map]
  | error e => simp [Except.map]

theorem obeyed_onto {w' : Walker α (List (Segment α))} {c : Symbol}
    (h : Obeyed i (fun strokes stroke => stroke :: strokes) distance w c w') :
    Obeyed i (fun strokes stroke => stroke :: strokes) distance (w.onto saved record) c
      (w'.onto saved record) := by
  cases h with
  | stroke h => exact .stroke h
  | left => exact .left
  | right => exact .right
  | save => exact .save
  | back h =>
    refine .back ?_
    rw [Walker.onto, h]
    rfl
  | idle c h => exact .idle c h

/-- What lies below a walker is not touched by a walk that gets on without it. -/
theorem walk_onto_iff (word : Word) (index' : Nat)
    (within : ∀ before there, before ++ [.char ']'] <+: word →
      i.walk (fun strokes stroke => stroke :: strokes) distance index' w before = .ok there →
        there.saved = [] → saved = []) :
    i.walk (fun strokes stroke => stroke :: strokes) distance index (w.onto saved record) word
        = .ok z ↔
      ∃ w', i.walk (fun strokes stroke => stroke :: strokes) distance index' w word = .ok w' ∧
        z = w'.onto saved record := by
  have image {word : Word} {w' : Walker α (List (Segment α))}
      (alone : i.walk (fun strokes stroke => stroke :: strokes) distance index' w word = .ok w') :=
    walk_image (f := fun w => w.onto saved record) obeyed_onto alone index
  constructor
  · intro walked
    cases alone : i.walk (fun strokes stroke => stroke :: strokes) distance index' w word with
    | ok w' => exact ⟨w', rfl, Except.ok.inj (walked.symm.trans (image alone))⟩
    | error stop =>
      -- A walk that stops alone would stop on top of the others as well.
      obtain ⟨before, c, after, there, rfl, -, reached, fails⟩ := walk_error alone
      obtain ⟨there', reached', onward⟩ := walk_append_eq_ok_iff.mp walked
      cases reached'.symm.trans (image reached)
      obtain ⟨next, obeyed, -⟩ := walk_cons_eq_ok_iff.mp onward
      obtain ⟨rfl, lost, -⟩ | ⟨rfl, bare, -⟩ := obey_error_iff.mp fails
      · obtain ⟨t, moved, -⟩ := obeyed.of_stroke
        unfold Turtle.forward Walker.onto at moved
        rw [lost] at moved
        cases moved
      · have none := within before there ⟨after, by simp⟩ reached bare
        obtain ⟨t, rest, top, -⟩ := obeyed.of_back
        rw [Walker.onto, bare, none] at top
        cases top
  · rintro ⟨w', alone, rfl⟩
    exact image alone

/-- A walk goes on in the same way whatever has been recorded before. -/
theorem walk_recorded_iff {t : Turtle α} :
    i.walk (fun strokes stroke => stroke :: strokes) distance index ⟨t, saved, record⟩ word
        = .ok z ↔
      ∃ w, i.walk (fun strokes stroke => stroke :: strokes) distance 0 ⟨t, saved, []⟩ word = .ok w ∧
        z = w.onto [] record := by
  have same : (⟨t, saved, record⟩ : Walker α (List (Segment α)))
      = Walker.onto ⟨t, saved, []⟩ [] record := by
    simp [Walker.onto]
  rw [same]
  exact walk_onto_iff word 0 fun _ _ _ _ _ => rfl

/-- A word that closes no bracket too early is walked over on top of saved turtles as without
them. -/
theorem walk_covered_iff {t : Turtle α} (covered : Covered word) :
    i.walk (fun strokes stroke => stroke :: strokes) distance index ⟨t, saved, record⟩ word
        = .ok z ↔
      ∃ w, i.walk (fun strokes stroke => stroke :: strokes) distance 0 ⟨t, [], []⟩ word = .ok w ∧
        z = w.onto saved record := by
  have same : (⟨t, saved, record⟩ : Walker α (List (Segment α)))
      = Walker.onto ⟨t, [], []⟩ saved record := by
    simp [Walker.onto]
  rw [same]
  refine walk_onto_iff word 0 ?_
  intro before there begun reached bare
  have upTo := covered _ begun
  have counted := length_saved reached
  rw [bare, List.length_nil] at counted
  rw [List.count_append, List.count_append] at upTo
  simp at upTo
  omega

theorem saved_of_balanced {t : Turtle α} (balanced : Balanced word)
    (walked : i.walk (fun strokes stroke => stroke :: strokes) distance index ⟨t, [], []⟩ word
      = .ok z) : z.saved = [] := by
  have counted := length_saved walked
  have settled := balanced.settled
  rw [← List.length_eq_zero_iff]
  simp only [List.length_nil] at counted
  omega

/-- A closed branch ends at the turtle that it began with, on top of the same saved turtles, and
leaves nothing but its strokes. -/
theorem walk_branch_iff {branch : Word} (balanced : Balanced branch) (index' : Nat) :
    i.walk (fun strokes stroke => stroke :: strokes) distance index w
        (.char '[' :: (branch ++ .char ']' :: v)) = .ok z ↔
      ∃ inside, i.drawFrom distance w.turtle branch = .ok inside ∧
        i.walk (fun strokes stroke => stroke :: strokes) distance index'
          ⟨w.turtle, w.saved, inside.reverse ++ w.record⟩ v = .ok z := by
  constructor
  · intro walked
    obtain ⟨_, opened, walked⟩ := walk_cons_eq_ok_iff.mp walked
    obtain rfl := opened.of_save
    obtain ⟨_, reached, walked⟩ := walk_append_eq_ok_iff.mp walked
    obtain ⟨alone, drawn, rfl⟩ := (walk_covered_iff balanced.covered).mp reached
    obtain ⟨_, closed, walked⟩ := walk_cons_eq_ok_iff.mp walked
    obtain ⟨t, rest, top, rfl⟩ := closed.of_back
    rw [Walker.onto, saved_of_balanced balanced drawn] at top
    cases top
    refine ⟨alone.record.reverse, drawFrom_eq_ok_iff.mpr ⟨alone, drawn, rfl⟩, ?_⟩
    rw [List.reverse_reverse]
    exact walk_image (f := id) id walked index'
  · rintro ⟨inside, made, walked⟩
    obtain ⟨alone, drawn, rfl⟩ := drawFrom_eq_ok_iff.mp made
    rw [List.reverse_reverse] at walked
    have back : (alone.onto (w.turtle :: w.saved) w.record).saved = w.turtle :: w.saved := by
      rw [Walker.onto, saved_of_balanced balanced drawn]
      rfl
    refine walk_cons_eq_ok_iff.mpr ⟨_, .save, ?_⟩
    refine walk_append_eq_ok_iff.mpr ⟨alone.onto (w.turtle :: w.saved) w.record, ?_, ?_⟩
    · exact (walk_covered_iff balanced.covered).mpr ⟨alone, drawn, rfl⟩
    · refine walk_cons_eq_ok_iff.mpr ⟨_, .back back, ?_⟩
      exact walk_image (f := id) id walked _

/-- A word after another one is drawn from the turtle and over the saved turtles that were left. -/
theorem draw_append_eq_ok_iff {strokes : List (Segment α)} :
    (i.draw distance origin (u ++ v)).outcome = .ok strokes ↔ 1 ≤ i.step ∧ ∃ there later,
      i.walk (fun strokes stroke => stroke :: strokes) distance 0
        ⟨.facingNorth i.compass origin, [], []⟩ u = .ok there ∧
      i.walk (fun strokes stroke => stroke :: strokes) distance 0
        ⟨there.turtle, there.saved, []⟩ v = .ok later ∧
      strokes = there.record.reverse ++ later.record.reverse := by
  rw [draw_eq_ok_iff]
  refine and_congr_right fun _ => ?_
  constructor
  · rintro ⟨last, walked, rfl⟩
    obtain ⟨there, reached, walked⟩ := walk_append_eq_ok_iff.mp walked
    obtain ⟨later, onward, rfl⟩ := walk_recorded_iff.mp walked
    exact ⟨there, later, reached, onward, List.reverse_append⟩
  · rintro ⟨there, later, reached, onward, rfl⟩
    refine ⟨later.onto [] there.record, walk_append_eq_ok_iff.mpr ⟨there, reached, ?_⟩, ?_⟩
    · exact walk_recorded_iff.mpr ⟨later, onward, rfl⟩
    · exact List.reverse_append

/-- With a closed branch between the two words the second one is drawn as without it. -/
theorem draw_branch_eq_ok_iff {branch : Word} (balanced : Balanced branch)
    {strokes : List (Segment α)} :
    (i.draw distance origin (u ++ .char '[' :: (branch ++ .char ']' :: v))).outcome = .ok strokes ↔
      1 ≤ i.step ∧ ∃ there inside later,
        i.walk (fun strokes stroke => stroke :: strokes) distance 0
          ⟨.facingNorth i.compass origin, [], []⟩ u = .ok there ∧
        i.drawFrom distance there.turtle branch = .ok inside ∧
        i.walk (fun strokes stroke => stroke :: strokes) distance 0
          ⟨there.turtle, there.saved, []⟩ v = .ok later ∧
        strokes = there.record.reverse ++ inside ++ later.record.reverse := by
  rw [draw_eq_ok_iff]
  refine and_congr_right fun _ => ?_
  constructor
  · rintro ⟨last, walked, rfl⟩
    obtain ⟨there, reached, walked⟩ := walk_append_eq_ok_iff.mp walked
    obtain ⟨inside, drawn, walked⟩ := (walk_branch_iff balanced 0).mp walked
    obtain ⟨later, onward, rfl⟩ := walk_recorded_iff.mp walked
    refine ⟨there, inside, later, reached, drawn, onward, ?_⟩
    simp [Walker.onto]
  · rintro ⟨there, inside, later, reached, drawn, onward, rfl⟩
    refine ⟨later.onto [] (inside.reverse ++ there.record), ?_, ?_⟩
    · refine walk_append_eq_ok_iff.mpr ⟨there, reached, (walk_branch_iff balanced 0).mpr ?_⟩
      exact ⟨inside, drawn, walk_recorded_iff.mpr ⟨later, onward, rfl⟩⟩
    · simp [Walker.onto]

/-- Where a walk comes to does not depend on whether it records its strokes. -/
theorem exists_walk_iff_wander {t : Turtle α} :
    (∃ there, i.walk (fun strokes stroke => stroke :: strokes) distance 0
      ⟨.facingNorth i.compass origin, [], []⟩ word = .ok there ∧ there.turtle = t) ↔
    ∃ there, i.wander distance origin word = .ok there ∧ there.turtle = t := by
  obtain ⟨there, there', walked, wandered, related⟩ | ⟨e, walked, wandered⟩ :=
    (i.wander_agree (fun (strokes : List (Segment α)) stroke => stroke :: strokes) [] distance
      origin word).exists
  · rw [walked, wandered]
    simp [related.turtle]
  · rw [walked, wandered]
    simp

/-- A closed branch put into a word adds its own strokes where it stands, drawn from the turtle that
it finds there, and takes none away and moves none. It can be put in wherever it can be drawn, and
left out wherever it stands. -/
theorem branch_isolated (i : Interpreter α) (distance : α) (origin : Point α) (u v branch : Word)
    (balanced : Balanced branch) :
    let plain := (i.draw distance origin (u ++ v)).outcome
    let branched := (i.draw distance origin (u ++ .char '[' :: (branch ++ .char ']' :: v))).outcome
    (∀ strokes strokes', plain = .ok strokes → branched = .ok strokes' →
      ∃ before there inside after, (i.draw distance origin u).outcome = .ok before ∧
        i.wander distance origin u = .ok there ∧
        i.drawFrom distance there.turtle branch = .ok inside ∧
        strokes = before ++ after ∧ strokes' = before ++ inside ++ after) ∧
    ((∃ strokes', branched = .ok strokes') ↔ (∃ strokes, plain = .ok strokes) ∧
      ∃ there inside, i.wander distance origin u = .ok there ∧
        i.drawFrom distance there.turtle branch = .ok inside) := by
  intro plain branched
  have found {there : Walker α (List (Segment α))}
      (reached : i.walk (fun strokes stroke => stroke :: strokes) distance 0
        ⟨.facingNorth i.compass origin, [], []⟩ u = .ok there) :
      ∃ there', i.wander distance origin u = .ok there' ∧ there'.turtle = there.turtle :=
    exists_walk_iff_wander.mp ⟨there, reached, rfl⟩
  refine ⟨?_, ?_, ?_⟩
  · intro strokes strokes' ends ends'
    obtain ⟨step, there, later, reached, onward, rfl⟩ := draw_append_eq_ok_iff.mp ends
    obtain ⟨-, _, inside, _, reached', drawn, onward', rfl⟩ :=
      (draw_branch_eq_ok_iff balanced).mp ends'
    cases reached.symm.trans reached'
    cases onward.symm.trans onward'
    obtain ⟨there', wandered, turtle⟩ := found reached
    rw [← turtle] at drawn
    exact ⟨there.record.reverse, there', inside, later.record.reverse,
      draw_eq_ok_iff.mpr ⟨step, there, reached, rfl⟩, wandered, drawn, rfl, rfl⟩
  · rintro ⟨strokes', ends'⟩
    obtain ⟨step, there, inside, later, reached, drawn, onward, -⟩ :=
      (draw_branch_eq_ok_iff balanced).mp ends'
    obtain ⟨there', wandered, turtle⟩ := found reached
    rw [← turtle] at drawn
    exact ⟨⟨_, draw_append_eq_ok_iff.mpr ⟨step, there, later, reached, onward, rfl⟩⟩,
      there', inside, wandered, drawn⟩
  · rintro ⟨⟨strokes, ends⟩, there', inside, wandered, drawn⟩
    obtain ⟨step, there, later, reached, onward, -⟩ := draw_append_eq_ok_iff.mp ends
    obtain ⟨_, wandered', turtle⟩ := found reached
    cases wandered.symm.trans wandered'
    rw [turtle] at drawn
    exact ⟨_, (draw_branch_eq_ok_iff balanced).mpr
      ⟨step, there, inside, later, reached, drawn, onward, rfl⟩⟩

end Interpreter

/-- A nested branch between two words, of which the second one closes what the first one opens. -/
theorem nested_branch_isolated :
    let i : Interpreter Float := ⟨.rightAngled, 90.0, 5⟩
    let origin : Point Float := ⟨-1.0, 0.5⟩
    let u : Word := ['[', 'F']
    let v : Word := ['F', ']', '+', 'F']
    let branch : Word := ['F', '[', '+', 'F', ']']
    let first : Segment Float := ⟨⟨-1.0, 0.5⟩, ⟨-1.0, 2.5⟩⟩
    let second : Segment Float := ⟨⟨-1.0, 2.5⟩, ⟨-1.0, 4.5⟩⟩
    let inner : Segment Float := ⟨⟨-1.0, 4.5⟩, ⟨1.0, 4.5⟩⟩
    let last : Segment Float := ⟨⟨-1.0, 0.5⟩, ⟨1.0, 0.5⟩⟩
    Balanced branch ∧ ¬Covered v ∧
      (i.draw 2.0 origin (u ++ v)).outcome = .ok [first, second, last] ∧
      (i.draw 2.0 origin (u ++ .char '[' :: (branch ++ .char ']' :: v))).outcome
        = .ok [first, second, inner, second, last] ∧
      ∃ there, i.wander 2.0 origin u = .ok there ∧
        i.drawFrom 2.0 there.turtle branch = .ok [second, inner] := by
  intro i origin u v branch first second inner last
  have balanced : Balanced branch := by decide
  have uncovered : ¬Covered v := by decide
  have plain : (i.draw 2.0 origin (u ++ v)).outcome = .ok [first, second, last] := by
    decide +kernel
  have branched : (i.draw 2.0 origin (u ++ .char '[' :: (branch ++ .char ']' :: v))).outcome
      = .ok [first, second, inner, second, last] := by decide +kernel
  have begun : (i.draw 2.0 origin u).outcome = .ok [first] := by decide +kernel
  obtain ⟨isolated, -⟩ := Interpreter.branch_isolated i 2.0 origin u v branch balanced
  obtain ⟨before, there, inside, after, drawn, reached, made, whole, whole'⟩ :=
    isolated _ _ plain branched
  cases begun.symm.trans drawn
  obtain rfl : after = [second, last] := by simpa using whole.symm
  obtain rfl : inside = [second, inner] := by
    have parts : [second, inner] ++ [second, last] = inside ++ [second, last] := by
      simpa using whole'
    exact (List.append_cancel_right parts).symm
  exact ⟨balanced, uncovered, plain, branched, there, reached, made⟩

end LSystems
