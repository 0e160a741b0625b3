import LSystems.Proofs.DryPass

namespace LSystems

/-- The symbols that a turtle heeds. -/
def heeded : List Symbol := ['F', '+', '-', '[', ']']

/-- Every stroke starts at the origin or where one ends that was drawn before it. -/
theorem Rooted.start_cases {α : Type} {origin : Point α} {strokes : List (Segment α)}
    (rooted : Rooted origin strokes) {n : Nat} {s : Segment α}
    (drawn : strokes.reverse[n]? = some s) :
    s.start = origin ∨ ∃ m e, m < n ∧ strokes.reverse[m]? = some e ∧ e.finish = s.start := by
  induction strokes with
  | nil => simp at drawn
  | cons last earlier ih =>
    rw [List.reverse_cons] at drawn ⊢
    have inside := (List.getElem?_eq_some_iff.mp drawn).1
    rw [List.length_append, List.length_singleton] at inside
    by_cases before : n < earlier.reverse.length
    · rw [List.getElem?_append_left before] at drawn
      obtain start | ⟨m, e, less, found, ends⟩ := ih rooted.2 drawn
      · exact .inl start
      · refine .inr ⟨m, e, less, ?_, ends⟩
        rw [List.getElem?_append_left (by omega)]
        exact found
    · obtain rfl : n = earlier.reverse.length := by omega
      obtain rfl : last = s := by simpa using drawn
      obtain start | ⟨e, member, ends⟩ := rooted.1
      · exact .inl start
      · obtain ⟨m, found⟩ := List.mem_iff_getElem?.mp (List.mem_reverse.mpr member)
        have less := (List.getElem?_eq_some_iff.mp found).1
        refine .inr ⟨m, e, less, ?_, ends⟩
        rw [List.getElem?_append_left less]
        exact found

namespace Interpreter

variable {α σ : Type} [Scalar α] {i : Interpreter α} {note : σ → Segment α → σ} {distance : α}
  {origin : Point α} {word : Word} {index : Nat}

/-- A walk comes to the same place whether or not there are symbols in its word that no turtle
heeds. -/
theorem walk_filter_heeded {w w' : Walker α σ} (index index' : Nat) :
    i.walk note distance index' w (word.filter (· ∈ heeded)) = .ok w' ↔
      i.walk note distance index w word = .ok w' := by
  induction word generalizing index index' w with
  | nil => exact Iff.rfl
  | cons c rest ih =>
    by_cases heeds : c ∈ heeded
    · rw [List.filter_cons_of_pos (by simpa using heeds), walk_cons_eq_ok_iff, walk_cons_eq_ok_iff]
      simp only [ih (index + 1) (index' + 1)]
    · have idle : Obeyed i note distance w c w := .idle c heeds
      have stays := obey_of_obeyed idle index
      rw [List.filter_cons_of_neg (by simpa using heeds)]
      simp only [walk, stays]
      exact ih (index + 1) index'

/-- A pass that comes to an end finds the same when the symbols that no turtle heeds are left out. -/
theorem trace_filter_heeded {record found : σ} :
    (i.trace note record distance origin (word.filter (· ∈ heeded))).outcome = .ok found ↔
      (i.trace note record distance origin word).outcome = .ok found := by
  rw [trace_eq_ok_iff, trace_eq_ok_iff]
  simp only [walk_filter_heeded 0 0]

theorem draw_filter_heeded {strokes : List (Segment α)} :
    (i.draw distance origin (word.filter (· ∈ heeded))).outcome = .ok strokes ↔
      (i.draw distance origin word).outcome = .ok strokes := by
  rw [draw_eq_ok_iff, draw_eq_ok_iff]
  simp only [walk_filter_heeded 0 0]

/-- Every `F` makes a stroke, and no other symbol does. -/
theorem length_record {w w' : Walker α (List (Segment α))}
    (walked : i.walk (fun strokes stroke => stroke :: strokes) distance index w word = .ok w') :
    w'.record.length = w.record.length + word.count (.char 'F') := by
  induction word generalizing index w with
  | nil =>
    cases walked
    rfl
  | cons c rest ih =>
    obtain ⟨there, obeyed, onward⟩ := walk_cons_eq_ok_iff.mp walked
    have later := ih onward
    cases obeyed with
    | stroke h =>
      rw [later, List.count_cons_self, List.length_cons]
      omega
    | left => simpa using later
    | right => simpa using later
    | save => simpa using later
    | back h => simpa using later
    | idle c h =>
      have other : c ≠ 'F' := by
        rintro rfl
        simp at h
      rw [later, List.count_cons_of_ne other]

/-- What has been recorded stays, and what a walk records comes on top of it. -/
theorem suffix_record {w w' : Walker α (List (Segment α))}
    (walked : i.walk (fun strokes stroke => stroke :: strokes) distance index w word = .ok w') :
    w.record <:+ w'.record := by
  have keeps {v : Walker α (List (Segment α))} {c : Symbol} {v' : Walker α (List (Segment α))}
      (obeyed : Obeyed i (fun strokes stroke => stroke :: strokes) distance v c v')
      (kept : w.record <:+ v.record) : w.record <:+ v'.record := by
    cases obeyed with
    | stroke h => exact kept.trans (List.suffix_cons _ _)
    | left => exact kept
    | right => exact kept
    | save => exact kept
    | back h => exact kept
    | idle c h => exact kept
  exact walk_keeps keeps word walked List.suffix_rfl

/-- A walker that makes no stroke and does not go back stays where it is. -/
theorem walk_still {w w' : Walker α σ} (strokeless : .char 'F' ∉ word) (onward : .char ']' ∉ word)
    (walked : i.walk note distance index w word = .ok w') :
    w'.turtle.position = w.turtle.position ∧ w'.record = w.record := by
  induction word generalizing index w with
  | nil =>
    cases walked
    exact ⟨rfl, rfl⟩
  | cons c rest ih =>
    rw [List.mem_cons, not_or] at strokeless onward
    obtain ⟨there, obeyed, later⟩ := walk_cons_eq_ok_iff.mp walked
    obtain ⟨position, record⟩ := ih strokeless.2 onward.2 later
    cases obeyed with
    | stroke h => exact (strokeless.1 rfl).elim
    | left => exact ⟨position, record⟩
    | right => exact ⟨position, record⟩
    | save => exact ⟨position, record⟩
    | back h => exact (onward.1 rfl).elim
    | idle c h => exact ⟨position, record⟩

/-- Between two strokes nobody has moved unless a turtle was gone back to. -/
theorem strokes_meet {u m v : Word} {strokes : List (Segment α)} (strokeless : .char 'F' ∉ m)
    (onward : .char ']' ∉ m)
    (drawn : (i.draw distance origin (u ++ .char 'F' :: (m ++ .char 'F' :: v))).outcome = .ok strokes) :
    ∃ s t, strokes[u.count (.char 'F')]? = some s ∧ strokes[u.count (.char 'F') + 1]? = some t ∧
      s.finish = t.start := by
  obtain ⟨-, last, walked, rfl⟩ := draw_eq_ok_iff.mp drawn
  obtain ⟨before, reached, walked⟩ := walk_append_eq_ok_iff.mp walked
  obtain ⟨_, first, walked⟩ := walk_cons_eq_ok_iff.mp walked
  obtain ⟨t, -, rfl⟩ := first.of_stroke
  obtain ⟨between, still, walked⟩ := walk_append_eq_ok_iff.mp walked
  obtain ⟨position, record⟩ := walk_still strokeless onward still
  obtain ⟨_, second, walked⟩ := walk_cons_eq_ok_iff.mp walked
  obtain ⟨t', -, rfl⟩ := second.of_stroke
  have counted : before.record.reverse.length = u.count (.char 'F') := by
    rw [List.length_reverse, length_record reached]
    exact Nat.zero_add _
  -- The two strokes stand one after the other on top of those that are drawn over `u`.
  obtain ⟨later, recorded⟩ := suffix_record walked
  dsimp only at position record recorded
  rw [position, record] at recorded
  have whole : last.record.reverse = before.record.reverse
      ++ ⟨before.turtle.position, t.position⟩ :: ⟨t.position, t'.position⟩ :: later.reverse := by
    rw [← recorded]
    simp
  refine ⟨⟨before.turtle.position, t.position⟩, ⟨t.position, t'.position⟩, ?_, ?_, rfl⟩
  · rw [whole, ← counted]
    simp
  · rw [whole, ← counted]
    simp

/-- A drawing has a stroke for every `F`. It begins at the origin, goes on from where it has been,
straight on unless a turtle was gone back to, and is the same without symbols that no turtle
heeds. -/
theorem drawing_shape (i : Interpreter α) (distance : α) (origin : Point α) (word : Word)
    (strokes : List (Segment α)) (drawn : (i.draw distance origin word).outcome = .ok strokes) :
    strokes.length = word.count (.char 'F') ∧
    (∀ s, strokes.head? = some s → s.start = origin) ∧
    (∀ (n : Nat) s, strokes[n]? = some s →
      s.start = origin ∨ ∃ m e, m < n ∧ strokes[m]? = some e ∧ e.finish = s.start) ∧
    (∀ u m v, word = u ++ .char 'F' :: (m ++ .char 'F' :: v) → .char 'F' ∉ m → .char ']' ∉ m →
      ∃ s t, strokes[u.count (.char 'F')]? = some s ∧ strokes[u.count (.char 'F') + 1]? = some t ∧
        s.finish = t.start) ∧
    (i.draw distance origin (word.filter (· ∈ heeded))).outcome = .ok strokes ∧
    ∃ box, (i.measure distance origin word).outcome = .ok box ∧
      (i.measure distance origin (word.filter (· ∈ heeded))).outcome = .ok box := by
  have rooted (n : Nat) (s : Segment α) (found : strokes[n]? = some s) :
      s.start = origin ∨ ∃ m e, m < n ∧ strokes[m]? = some e ∧ e.finish = s.start := by
    have cases := (rooted_of_draw drawn).start_cases (n := n) (s := s)
    rw [List.reverse_reverse] at cases
    exact cases found
  have measured : (i.measure distance origin word).outcome = .ok (Box.ofStrokes origin strokes) := by
    rw [measure_outcome, drawn]
    rfl
  refine ⟨?_, ?_, rooted, ?_, draw_filter_heeded.mpr drawn, _, measured,
    trace_filter_heeded.mpr measured⟩
  · obtain ⟨-, last, walked, rfl⟩ := draw_eq_ok_iff.mp drawn
    rw [List.length_reverse, length_record walked]
    exact Nat.zero_add _
  · intro s first
    rw [List.head?_eq_getElem?] at first
    obtain start | ⟨m, e, none, -⟩ := rooted 0 s first
    · exact start
    · omega
  · rintro u m v rfl strokeless onward
    exact strokes_meet strokeless onward drawn

end Interpreter

/-- A branch with a letter between its strokes, and another one that stays open. -/
theorem lettered_branch_shape :
    let i : Interpreter Float := ⟨.rightAngled, 90.0, 5⟩
    let word : Word := ['X', 'F', '[', '+', 'F', 'Y', 'F', ']', '-', '[', 'F']
    let origin : Point Float := ⟨-1.0, 0.5⟩
    let first : Segment Float := ⟨⟨-1.0, 0.5⟩, ⟨-1.0, 2.5⟩⟩
    let second : Segment Float := ⟨⟨-1.0, 2.5⟩, ⟨1.0, 2.5⟩⟩
    let third : Segment Float := ⟨⟨1.0, 2.5⟩, ⟨3.0, 2.5⟩⟩
    let strokes := [first, second, third, second]
    (i.draw 2.0 origin word).outcome = .ok strokes ∧ strokes.length = word.count (.char 'F') ∧
      first.start = origin ∧
      (∃ m e, m < 3 ∧ strokes[m]? = some e ∧ e.finish = second.start) ∧
      (∃ s t, strokes[1]? = some s ∧ strokes[2]? = some t ∧ s.finish = t.start) ∧
      word.filter (· ∈ heeded) = ['F', '[', '+', 'F', 'F', ']', '-', '[', 'F'] ∧
      (i.draw 2.0 origin (word.filter (· ∈ heeded))).outcome = .ok strokes := by
  intro i word origin first second third strokes
  have drawn : (i.draw 2.0 origin word).outcome = .ok strokes := by decide +kernel
  obtain ⟨counted, begun, rooted, meet, kept, -⟩ :=
    Interpreter.drawing_shape i 2.0 origin word strokes drawn
  refine ⟨drawn, counted, begun first rfl, ?_, ?_, by decide, kept⟩
  · obtain elsewhere | earlier := rooted 3 second rfl
    · exact absurd elsewhere (by decide +kernel)
    · exact earlier
  · exact meet ['X', 'F', '[', '+'] ['Y'] [']', '-', '[', 'F'] rfl (by decide) (by decide)

end LSystems
