import LSystems.Proofs.Placement
import LSystems.Proofs.Render

namespace LSystems

/-- Strokes that follow one another begin at the origin. -/
theorem Rooted.origin_start {α : Type} {origin : Point α} {strokes : List (Segment α)}
    (h : Rooted origin strokes) (drawn : strokes ≠ []) : ∃ s ∈ strokes, s.start = origin := by
  induction strokes with
  | nil => exact (drawn rfl).elim
  | cons s earlier ih =>
    by_cases first : earlier = []
    · subst first
      obtain start | ⟨e, he, -⟩ := h.1
      · exact ⟨s, List.mem_cons_self, start⟩
      · exact (List.not_mem_nil he).elim
    · obtain ⟨e, he, start⟩ := ih h.2 first
      exact ⟨e, List.mem_cons_of_mem s he, start⟩

theorem Box.IsLeast.bounded_iff {b : Box Rat} {points : List (Point Rat)} (h : b.IsLeast points)
    (x y : Rat) : (∀ p ∈ points, p.x ≤ x ∧ p.y ≤ y) ↔ b.maxX ≤ x ∧ b.maxY ≤ y := by
  constructor
  · intro bounded
    have within := h.least ⟨b.minX, b.minY, x, y⟩ fun p hp =>
      ⟨(h.holds p hp).left, (bounded p hp).1, (h.holds p hp).below, (bounded p hp).2⟩
    exact ⟨within.right, within.above⟩
  · rintro ⟨right, above⟩ p hp
    exact ⟨(h.holds p hp).right.trans right, (h.holds p hp).above.trans above⟩

/-- The ends of strokes keep within bounds above the canvas origin when their frame does. -/
theorem ends_bounded_iff {origin : Point Rat} {strokes : List (Segment Rat)} {w h x y : Rat}
    (rooted : Rooted origin strokes.reverse)
    (least : Box.IsLeast ⟨0, 0, w, h⟩ (origin :: strokes.flatMap Segment.ends))
    (x_pos : 0 < x) (y_pos : 0 < y) :
    (∀ p ∈ strokes.flatMap Segment.ends, p.x ≤ x ∧ p.y ≤ y) ↔ w ≤ x ∧ h ≤ y := by
  rw [← least.bounded_iff x y, List.forall_mem_cons]
  constructor
  · intro bounded
    refine ⟨?_, bounded⟩
    by_cases drawn : strokes = []
    · -- Without strokes the origin is the frame, and both are the corner of the canvas.
      subst drawn
      have lone := Box.isLeast_ofPoint linear_rat (p := origin) ⟨trivial, trivial⟩
      have within := least.least (.ofPoint origin) lone.holds
      exact ⟨within.left.trans x_pos.le, within.below.trans y_pos.le⟩
    · obtain ⟨s, hs, rfl⟩ := rooted.origin_start (mt List.reverse_eq_nil_iff.mp drawn)
      refine bounded s.start (List.mem_flatMap.mpr ⟨s, List.mem_reverse.mp hs, ?_⟩)
      exact Segment.mem_ends.mpr (.inl rfl)
  · exact And.right

section
variable {k width height : Rat} {box : Box Rat}

/-- A figure that spans one side keeps within the other one when it is flat enough. -/
theorem span_le_iff {extent across side other : Rat} (extent_pos : 0 < extent)
    (spans : k * extent = side) : k * across ≤ other ↔ side * across ≤ other * extent := by
  rw [← spans, mul_right_comm, mul_le_mul_iff_left₀ extent_pos]

theorem frame_le_longer_side (k_pos : 0 < k) (height_pos : 0 < height)
    (wide : box.height < box.width → k * box.width = width)
    (tall : ¬box.height < box.width → 0 < box.height → k * box.height = height) :
    if box.height < box.width then k * box.width ≤ width else k * box.height ≤ height := by
  by_cases wider : box.height < box.width
  · rw [if_pos wider]
    exact (wide wider).le
  · rw [if_neg wider]
    by_cases higher : 0 < box.height
    · exact (tall wider higher).le
    · have flat : k * box.height ≤ 0 := mul_nonpos_of_nonneg_of_nonpos k_pos.le (not_lt.mp higher)
      exact flat.trans height_pos.le

theorem frame_le_iff (width_pos : 0 < width) (height_pos : 0 < height)
    (wide : box.height < box.width → k * box.width = width)
    (tall : ¬box.height < box.width → 0 < box.height → k * box.height = height)
    (width_nonneg : 0 ≤ box.width) (height_nonneg : 0 ≤ box.height) :
    k * box.width ≤ width ∧ k * box.height ≤ height ↔
      if box.height < box.width then width * box.height ≤ height * box.width
      else height * box.width ≤ width * box.height := by
  by_cases wider : box.height < box.width
  · have extent_pos : 0 < box.width := height_nonneg.trans_lt wider
    rw [if_pos wider, ← span_le_iff extent_pos (wide wider)]
    exact and_iff_right (wide wider).le
  · rw [if_neg wider]
    by_cases higher : 0 < box.height
    · rw [← span_le_iff higher (tall wider higher)]
      exact and_iff_left (tall wider higher).le
    · have no_height : box.height = 0 := le_antisymm (not_lt.mp higher) height_nonneg
      have no_width : box.width = 0 := le_antisymm ((not_lt.mp wider).trans no_height.le) width_nonneg
      rw [no_height, no_width]
      simp [width_pos.le, height_pos.le]

end

/-- The first render succeeds. Its strokes keep within the canvas along the longer side of the
figure, and along the other side just when the figure is no longer there, in proportion, than the
canvas. -/
theorem first_render_bounds (system : LSystem) (i : Interpreter Rat) (size : Size Rat)
    (width height base : Rat) (box : Box Rat)
    (hw : size.width.toScalar? = some width) (hh : size.height.toScalar? = some height)
    (width_pos : 0 < width) (height_pos : 0 < height) (base_pos : 0 < base)
    (measured : (i.measure base ⟨0, 0⟩ system.word).outcome = .ok box) :
    let reply := (Coordinator.start system i base size).render
    let ends := reply.coordinator.surface.strokes.flatMap Segment.ends
    Event.rendered ∈ reply.events ∧
      (∀ p ∈ ends, 0 ≤ p.x ∧ 0 ≤ p.y ∧ if box.height < box.width then p.x ≤ width else p.y ≤ height) ∧
      ((∀ p ∈ ends, p.x ≤ width ∧ p.y ≤ height) ↔
        if box.height < box.width then width * box.height ≤ height * box.width
        else height * box.width ≤ width * box.height) := by
  intro reply ends
  obtain ⟨k, origin, strokes, k_pos, fitted, starts, drawn, least, wide, tall, -⟩ :=
    exists_placement measured hw hh width_pos height_pos base_pos
  have draws := Coordinator.draws_start measured fitted starts drawn
  have told : Event.rendered ∈ reply.events := Coordinator.rendered_iff.mpr ⟨_, _, _, draws⟩
  have eq : ends = strokes.flatMap Segment.ends :=
    congrArg (List.flatMap Segment.ends) draws.render_strokes
  have rooted := Interpreter.rooted_of_draw drawn
  have corner := least.holds origin List.mem_cons_self
  have width_nonneg : 0 ≤ box.width :=
    (mul_nonneg_iff_of_pos_left k_pos).mp (corner.left.trans corner.right)
  have height_nonneg : 0 ≤ box.height :=
    (mul_nonneg_iff_of_pos_left k_pos).mp (corner.below.trans corner.above)
  have held (p : Point Rat) (hp : p ∈ strokes.flatMap Segment.ends) :=
    least.holds p (List.mem_cons_of_mem origin hp)
  rw [eq, ends_bounded_iff rooted least width_pos height_pos]
  refine ⟨told, fun p hp => ⟨(held p hp).left, (held p hp).below, ?_⟩, ?_⟩
  · have longer := frame_le_longer_side k_pos height_pos wide tall
    split at longer
    next wider => rw [if_pos wider]; exact (held p hp).right.trans longer
    next wider => rw [if_neg wider]; exact (held p hp).above.trans longer
  · exact frame_le_iff width_pos height_pos wide tall width_nonneg height_nonneg

theorem first_render_bounds_of_branch :
    let system := LSystem.start ['F', '[', '+', 'F', 'F', 'F', ']', 'F'] (.ofRules []) 5
    let i : Interpreter Rat := ⟨.squared, -90, 5⟩
    let size : Size Rat := ⟨.whole 100, .real 200⟩
    let reply := (Coordinator.start system i 10 size).render
    size.width.toScalar? = some 100 ∧ size.height.toScalar? = some 200 ∧
      (i.measure 10 ⟨0, 0⟩ system.word).outcome = .ok ⟨0, 0, 30, 20⟩ ∧ Event.rendered ∈ reply.events ∧
      ∀ p ∈ reply.coordinator.surface.strokes.flatMap Segment.ends, p.x ≤ 100 ∧ p.y ≤ 200 := by
  intro system i size reply
  have hw : size.width.toScalar? = some 100 := rfl
  have hh : size.height.toScalar? = some 200 := rfl
  have measured : (i.measure 10 ⟨0, 0⟩ system.word).outcome = .ok ⟨0, 0, 30, 20⟩ := by decide +kernel
  obtain ⟨told, -, within⟩ := first_render_bounds system i size 100 200 10 _ hw hh
    (by norm_num) (by norm_num) (by norm_num) measured
  have flat : if (⟨0, 0, 30, 20⟩ : Box Rat).height < (⟨0, 0, 30, 20⟩ : Box Rat).width
      then 100 * (⟨0, 0, 30, 20⟩ : Box Rat).height ≤ 200 * (⟨0, 0, 30, 20⟩ : Box Rat).width
      else 200 * (⟨0, 0, 30, 20⟩ : Box Rat).width ≤ 100 * (⟨0, 0, 30, 20⟩ : Box Rat).height := by
    decide +kernel
  exact ⟨hw, hh, measured, told, within.mpr flat⟩

/-- A square figure on a canvas twice as high as wide is drawn twice as wide as the canvas. -/
theorem first_render_leaves_canvas :
    let system := LSystem.start ['F', '+', 'F'] (.ofRules []) 5
    let size : Size Rat := ⟨.whole 100, .whole 200⟩
    let reply := (Coordinator.start system ⟨.squared, -90, 5⟩ 10 size).render
    Event.rendered ∈ reply.events ∧
      ¬∀ p ∈ reply.coordinator.surface.strokes.flatMap Segment.ends,
        0 ≤ p.x ∧ p.x ≤ 100 ∧ 0 ≤ p.y ∧ p.y ≤ 200 := by
  decide +kernel

end LSystems
