import LSystems.Proofs.Outline

namespace LSystems

/-- Scalars of a kind that compare like the numbers of a line. -/
structure Linear {α : Type} [Scalar α] (kind : α → Prop) : Prop where
  refl : ∀ {a : α}, kind a → a ≤ a
  trans : ∀ {a b c : α}, a ≤ b → b ≤ c → a ≤ c
  le_of_lt : ∀ {a b : α}, a < b → a ≤ b
  le_of_not_lt : ∀ {a b : α}, kind a → kind b → ¬a < b → b ≤ a

theorem linear_rat : Linear (fun _ : Rat => True) where
  refl _ := Rat.le_refl
  trans := Rat.le_trans
  le_of_lt := Rat.le_of_lt
  le_of_not_lt _ _ := Rat.not_lt.mp

/-- A point with both coordinates of a kind. -/
structure Point.Of {α : Type} (kind : α → Prop) (p : Point α) : Prop where
  x : kind p.x
  y : kind p.y

namespace Box

variable {α : Type}

/-- A box with all its sides of a kind. -/
structure Of (kind : α → Prop) (b : Box α) : Prop where
  minX : kind b.minX
  minY : kind b.minY
  maxX : kind b.maxX
  maxY : kind b.maxY

variable [Scalar α]

/-- A point lies in a box or on its sides. -/
structure Holds (b : Box α) (p : Point α) : Prop where
  left : b.minX ≤ p.x
  right : p.x ≤ b.maxX
  below : b.minY ≤ p.y
  above : p.y ≤ b.maxY

/-- The sides of a box lie on or within those of another one. -/
structure Within (b c : Box α) : Prop where
  left : c.minX ≤ b.minX
  right : b.maxX ≤ c.maxX
  below : c.minY ≤ b.minY
  above : b.maxY ≤ c.maxY

/-- A box is the least one that holds some points. -/
structure IsLeast (b : Box α) (points : List (Point α)) : Prop where
  holds : ∀ p ∈ points, b.Holds p
  least : ∀ c : Box α, (∀ p ∈ points, c.Holds p) → b.Within c

theorem IsLeast.of_mem_iff {b : Box α} {points points' : List (Point α)} (h : b.IsLeast points)
    (same : ∀ p, p ∈ points' ↔ p ∈ points) : b.IsLeast points' :=
  ⟨fun p hp => h.holds p ((same p).mp hp),
    fun c hc => h.least c fun p hp => hc p ((same p).mpr hp)⟩

variable {kind : α → Prop}

theorem isLeast_ofPoint (line : Linear kind) {p : Point α} (hp : p.Of kind) :
    (ofPoint p).IsLeast [p] := by
  refine ⟨?_, fun c hc => ?_⟩
  · intro q hq
    obtain rfl := List.mem_singleton.mp hq
    exact ⟨line.refl hp.x, line.refl hp.x, line.refl hp.y, line.refl hp.y⟩
  · have h := hc p List.mem_cons_self
    exact ⟨h.left, h.right, h.below, h.above⟩

theorem insert_of {b : Box α} {p : Point α} (hb : b.Of kind) (hp : p.Of kind) :
    (b.insert p).Of kind := by
  refine ⟨?_, ?_, ?_, ?_⟩ <;> simp only [insert] <;> split_ifs
  exacts [hp.x, hb.minX, hp.y, hb.minY, hp.x, hb.maxX, hp.y, hb.maxY]

theorem lower_le (line : Linear kind) {side x : α} (hs : kind side) (hx : kind x) :
    (if x < side then x else side) ≤ x ∧ (if x < side then x else side) ≤ side := by
  split_ifs with h
  · exact ⟨line.refl hx, line.le_of_lt h⟩
  · exact ⟨line.le_of_not_lt hx hs h, line.refl hs⟩

theorem le_higher (line : Linear kind) {side x : α} (hs : kind side) (hx : kind x) :
    x ≤ (if side < x then x else side) ∧ side ≤ (if side < x then x else side) := by
  split_ifs with h
  · exact ⟨line.refl hx, line.le_of_lt h⟩
  · exact ⟨line.le_of_not_lt hs hx h, line.refl hs⟩

/-- Moved out to a point, a box holds the point and what it held before. -/
theorem within_insert (line : Linear kind) {b : Box α} {p : Point α} (hb : b.Of kind)
    (hp : p.Of kind) : (b.insert p).Holds p ∧ b.Within (b.insert p) :=
  ⟨⟨(lower_le line hb.minX hp.x).1, (le_higher line hb.maxX hp.x).1,
      (lower_le line hb.minY hp.y).1, (le_higher line hb.maxY hp.y).1⟩,
    ⟨(lower_le line hb.minX hp.x).2, (le_higher line hb.maxX hp.x).2,
      (lower_le line hb.minY hp.y).2, (le_higher line hb.maxY hp.y).2⟩⟩

theorem Holds.of_within (line : Linear kind) {b c : Box α} {p : Point α} (h : b.Holds p)
    (within : b.Within c) : c.Holds p :=
  ⟨line.trans within.left h.left, line.trans h.right within.right,
    line.trans within.below h.below, line.trans h.above within.above⟩

theorem insert_within {b c : Box α} {p : Point α} (hb : b.Within c) (hp : c.Holds p) :
    (b.insert p).Within c := by
  refine ⟨?_, ?_, ?_, ?_⟩ <;> simp only [insert] <;> split_ifs
  exacts [hp.left, hb.left, hp.right, hb.right, hp.below, hb.below, hp.above, hb.above]

theorem isLeast_insert (line : Linear kind) {b : Box α} {points : List (Point α)} {p : Point α}
    (h : b.IsLeast points) (hb : b.Of kind) (hp : p.Of kind) :
    (b.insert p).IsLeast (points ++ [p]) := by
  obtain ⟨reached, wider⟩ := within_insert line hb hp
  refine ⟨?_, fun c hc => ?_⟩
  · intro q hq
    rcases List.mem_append.mp hq with hq | hq
    · exact (h.holds q hq).of_within line wider
    · obtain rfl := List.mem_singleton.mp hq
      exact reached
  · apply insert_within (h.least c fun q hq => hc q (List.mem_append_left _ hq))
    exact hc p (List.mem_append_right _ List.mem_cons_self)

theorem isLeast_foldl_insert (line : Linear kind) (strokes : List (Segment α)) {b : Box α}
    {points : List (Point α)} (h : b.IsLeast points) (hb : b.Of kind)
    (hs : ∀ s ∈ strokes, s.finish.Of kind) :
    (strokes.foldl (fun box stroke => box.insert stroke.finish) b).IsLeast
      (points ++ strokes.map Segment.finish) := by
  induction strokes generalizing b points with
  | nil => simpa using h
  | cons s rest ih =>
    have hf := hs s List.mem_cons_self
    have step := ih (isLeast_insert line h hb hf) (insert_of hb hf)
      fun t ht => hs t (List.mem_cons_of_mem s ht)
    simpa using step

/-- The box grown to the ends of strokes that follow one another is the least one that holds
them whole. -/
theorem isLeast_ofStrokes (line : Linear kind) {origin : Point α} {strokes : List (Segment α)}
    (rooted : Rooted origin strokes.reverse) (ho : origin.Of kind)
    (hs : ∀ s ∈ strokes, s.finish.Of kind) :
    (ofStrokes origin strokes).IsLeast (origin :: strokes.flatMap Segment.ends) := by
  have start : (ofPoint origin).IsLeast [origin] := isLeast_ofPoint line ho
  have grown := isLeast_foldl_insert line strokes start ⟨ho.x, ho.y, ho.x, ho.y⟩ hs
  refine grown.of_mem_iff fun p => ?_
  rw [List.mem_cons, List.mem_append, List.mem_singleton, List.mem_flatMap, List.mem_map]
  simp only [Segment.mem_ends]
  constructor
  · rintro (rfl | ⟨s, hm, rfl | rfl⟩)
    · exact .inl rfl
    · -- A stroke starts where the box has been before.
      obtain known | ⟨e, he, known⟩ := rooted.start_known s (List.mem_reverse.mpr hm)
      · exact .inl known
      · exact .inr ⟨e, List.mem_reverse.mp he, known⟩
    · exact .inr ⟨s, hm, rfl⟩
  · rintro (rfl | ⟨s, hm, rfl⟩)
    · exact .inl rfl
    · exact .inr ⟨s, hm, .inr rfl⟩

end Box
end LSystems
