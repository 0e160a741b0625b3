import LSystems.Proofs.Similarity
import LSystems.Scale

namespace LSystems

section
variable {size : Size Rat} {width height base : Rat} {box : Box Rat}

theorem Dimension.isNonpositive_of_pos {d : Dimension Rat} {side : Rat}
    (h : d.toScalar? = some side) (pos : 0 < side) : d.isNonpositive = false := by
  cases d with
  | whole n =>
    cases h
    have : 0 < n := Rat.intCast_pos.mp pos
    simp only [isNonpositive, decide_eq_false_iff_not]
    omega
  | real x =>
    cases h
    simp only [isNonpositive, decide_eq_false_iff_not]
    exact not_le.mpr pos

/-- A length along a positive extent is reached by a positive factor. -/
theorem quotient_eq {side base extent : Rat} (extent_pos : 0 < extent) :
    quotient (side * base) extent = .ok (side / extent * base) := by
  unfold quotient
  rw [if_neg fun h => absurd h.1 (not_le.mpr extent_pos)]
  exact congrArg Except.ok (by ring)

/-- A canvas is spanned along the longer side of a figure. -/
theorem exists_fit (hw : size.width.toScalar? = some width) (hh : size.height.toScalar? = some height)
    (width_pos : 0 < width) (height_pos : 0 < height) (base_pos : 0 < base) (tall : 0 ≤ box.height) :
    ∃ k, 0 < k ∧ Scale.fit box size base = .ok ⟨k * base, box.corner, base⟩ ∧
      (box.height < box.width → k * box.width = width) ∧
      (¬box.height < box.width → 0 < box.height → k * box.height = height) ∧
      (¬box.height < box.width → ¬0 < box.height → k = 1) := by
  unfold Scale.fit
  rw [Dimension.isNonpositive_of_pos hw width_pos, Dimension.isNonpositive_of_pos hh height_pos]
  simp only [Bool.or_self, Bool.false_eq_true, if_false, if_neg (not_le.mpr base_pos)]
  -- The canvas is spanned along its width, along its height, or not at all.
  by_cases wide : box.height < box.width
  · have extent_pos : 0 < box.width := tall.trans_lt wide
    refine ⟨width / box.width, div_pos width_pos extent_pos, ?_,
      fun _ => div_mul_cancel₀ width extent_pos.ne', fun h => (h wide).elim, fun h => (h wide).elim⟩
    simp only [if_pos wide, if_neg (not_le.mpr extent_pos), hw, quotient_eq extent_pos]
    rfl
  · by_cases extent_pos : 0 < box.height
    · refine ⟨height / box.height, div_pos height_pos extent_pos, ?_, fun h => (wide h).elim,
        fun _ _ => div_mul_cancel₀ height extent_pos.ne', fun _ h => (h extent_pos).elim⟩
      simp only [if_neg wide, if_neg (not_le.mpr extent_pos), hh, quotient_eq extent_pos]
      rfl
    · refine ⟨1, one_pos, ?_, fun h => (wide h).elim, fun _ h => (extent_pos h).elim, fun _ _ => rfl⟩
      simp only [if_neg wide, if_pos (not_lt.mp extent_pos), one_mul]

theorem origin_eq {k base : Rat} {offset : Point Rat} (base_pos : 0 < base) :
    Scale.origin ⟨k * base, offset, base⟩ = .ok ⟨-offset.x * k, -offset.y * k⟩ := by
  have factor : Scale.factor ⟨k * base, offset, base⟩ = .ok k := by
    unfold Scale.factor
    rw [quotient_eq base_pos, div_mul_cancel₀ k base_pos.ne']
  unfold Scale.origin
  rw [factor]
  rfl

/-- A measured box is the least one that holds the strokes drawn with the same length. -/
theorem exists_strokes {i : Interpreter Rat} {distance : Rat} {origin : Point Rat} {word : Word}
    (measured : (i.measure distance origin word).outcome = .ok box) :
    ∃ strokes, (i.draw distance origin word).outcome = .ok strokes ∧
      Box.ofStrokes origin strokes = box ∧ box.IsLeast (origin :: strokes.flatMap Segment.ends) := by
  rw [Interpreter.measure_outcome] at measured
  cases drawn : (i.draw distance origin word).outcome with
  | error e => rw [drawn] at measured; cases measured
  | ok strokes =>
    rw [drawn] at measured
    cases measured
    refine ⟨strokes, rfl, rfl, ?_⟩
    exact Box.isLeast_ofStrokes linear_rat (Interpreter.rooted_of_draw drawn) ⟨trivial, trivial⟩
      fun _ _ => ⟨trivial, trivial⟩

/-- A figure drawn at the scale chosen for it is its measured box, made larger and moved to the
canvas origin. -/
theorem exists_placement {i : Interpreter Rat} {word : Word}
    (measured : (i.measure base ⟨0, 0⟩ word).outcome = .ok box)
    (hw : size.width.toScalar? = some width) (hh : size.height.toScalar? = some height)
    (width_pos : 0 < width) (height_pos : 0 < height) (base_pos : 0 < base) :
    ∃ k origin strokes, 0 < k ∧ Scale.fit box size base = .ok ⟨k * base, box.corner, base⟩ ∧
      Scale.origin ⟨k * base, box.corner, base⟩ = .ok origin ∧
      (i.draw (k * base) origin word).outcome = .ok strokes ∧
      Box.IsLeast ⟨0, 0, k * box.width, k * box.height⟩ (origin :: strokes.flatMap Segment.ends) ∧
      (box.height < box.width → k * box.width = width) ∧
      (¬box.height < box.width → 0 < box.height → k * box.height = height) ∧
      (¬box.height < box.width → ¬0 < box.height → k = 1) := by
  obtain ⟨strokes, drawn, outline, least⟩ := exists_strokes measured
  have around := least.holds ⟨0, 0⟩ List.mem_cons_self
  have tall : 0 ≤ box.height := sub_nonneg.mpr (around.below.trans around.above)
  obtain ⟨k, pos, fitted, spans⟩ := exists_fit hw hh width_pos height_pos base_pos tall
  -- The second pass draws the image of the first one, with the corner brought to the canvas origin.
  let f : Similarity := ⟨k, ⟨0, 0⟩, ⟨-box.corner.x * k, -box.corner.y * k⟩⟩
  have redrawn : (i.draw (k * base) f.target word).outcome = .ok (strokes.map f.stroke) := by
    have similar := Similarity.draw_outcome (f := f) i base word
    rw [show (i.draw base f.source word).outcome = .ok strokes from drawn] at similar
    exact similar
  refine ⟨k, f.target, strokes.map f.stroke, pos, fitted, origin_eq base_pos, redrawn, ?_, spans⟩
  have frame : Box.ofStrokes f.target (strokes.map f.stroke)
      = ⟨0, 0, k * box.width, k * box.height⟩ := by
    rw [Similarity.ofStrokes_map pos, show Box.ofStrokes f.source strokes = box from outline]
    simp only [Similarity.box, Similarity.point, Box.corner, Box.width, Box.height, Box.mk.injEq, f]
    refine ⟨?_, ?_, ?_, ?_⟩ <;> ring
  rw [← frame]
  exact Box.isLeast_ofStrokes linear_rat (Interpreter.rooted_of_draw redrawn) ⟨trivial, trivial⟩
    fun _ _ => ⟨trivial, trivial⟩

end

/-- A drawing lies with its lower left corner at the canvas origin and spans the canvas along the
longer side of the figure; a figure without extent keeps its stroke length. -/
theorem drawing_spans_canvas (i : Interpreter Rat) (word : Word) (size : Size Rat)
    (width height base : Rat) (box : Box Rat)
    (hw : size.width.toScalar? = some width) (hh : size.height.toScalar? = some height)
    (width_pos : 0 < width) (height_pos : 0 < height) (base_pos : 0 < base)
    (measured : (i.measure base ⟨0, 0⟩ word).outcome = .ok box) :
    ∃ (scale : Scale Rat) (origin : Point Rat) (strokes : List (Segment Rat)) (frame : Box Rat),
      Scale.fit box size base = .ok scale ∧ scale.origin = .ok origin ∧
      (i.draw scale.distance origin word).outcome = .ok strokes ∧
      frame.IsLeast (origin :: strokes.flatMap Segment.ends) ∧ frame.corner = ⟨0, 0⟩ ∧
      (box.height < box.width → frame.width = width) ∧
      (¬box.height < box.width → 0 < box.height → frame.height = height) ∧
      (¬box.height < box.width → ¬0 < box.height → scale.distance = base) := by
  obtain ⟨k, origin, strokes, -, fitted, starts, drawn, least, wide, tall, flat⟩ :=
    exists_placement measured hw hh width_pos height_pos base_pos
  refine ⟨_, origin, strokes, _, fitted, starts, drawn, least, rfl, ?_, ?_, ?_⟩
  · intro wider
    exact (sub_zero _).trans (wide wider)
  · intro higher extended
    exact (sub_zero _).trans (tall higher extended)
  · intro higher still
    simp only [flat higher still, one_mul]

theorem drawing_spans_canvas_of_branch :
    let i : Interpreter Rat := ⟨.squared, -90, 5⟩
    let word : Word := ['F', '[', '+', 'F', 'F', 'F', ']', 'F']
    let size : Size Rat := ⟨.whole 100, .real 200⟩
    size.width.toScalar? = some 100 ∧ size.height.toScalar? = some 200 ∧
      (i.measure 10 ⟨0, 0⟩ word).outcome = .ok ⟨0, 0, 30, 20⟩ ∧
      ∃ (scale : Scale Rat) (origin : Point Rat) (strokes : List (Segment Rat)) (frame : Box Rat),
        Scale.fit ⟨0, 0, 30, 20⟩ size 10 = .ok scale ∧
        scale.origin = .ok origin ∧ (i.draw scale.distance origin word).outcome = .ok strokes ∧
        frame.IsLeast (origin :: strokes.flatMap Segment.ends) ∧ frame.corner = ⟨0, 0⟩ ∧
        frame.width = 100 := by
  intro i word size
  have hw : size.width.toScalar? = some 100 := rfl
  have hh : size.height.toScalar? = some 200 := rfl
  have measured : (i.measure 10 ⟨0, 0⟩ word).outcome = .ok ⟨0, 0, 30, 20⟩ := by decide +kernel
  have wider : (⟨0, 0, 30, 20⟩ : Box Rat).height < (⟨0, 0, 30, 20⟩ : Box Rat).width := by
    decide +kernel
  obtain ⟨scale, origin, strokes, frame, fitted, starts, drawn, least, corner, wide, -⟩ :=
    drawing_spans_canvas i word size 100 200 10 _ hw hh (by norm_num) (by norm_num) (by norm_num)
      measured
  exact ⟨hw, hh, measured, scale, origin, strokes, frame, fitted, starts, drawn, least, corner,
    wide wider⟩

end LSystems
