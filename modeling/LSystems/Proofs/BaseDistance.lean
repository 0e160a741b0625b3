import LSystems.Proofs.FirstRender
import LSystems.Proofs.Headings

namespace LSystems

section
variable {figure : List (Segment Rat)} {frame : Box Rat}

/-- A figure without extent has not left the origin. -/
theorem Box.IsLeast.flat (least : frame.IsLeast (⟨0, 0⟩ :: figure.flatMap Segment.ends))
    (narrow : frame.width ≤ 0) (low : frame.height ≤ 0) :
    frame.corner = ⟨0, 0⟩ ∧ ∀ s ∈ figure, s = ⟨⟨0, 0⟩, ⟨0, 0⟩⟩ := by
  have origin := least.holds ⟨0, 0⟩ List.mem_cons_self
  have left : frame.minX ≤ 0 := origin.left
  have right : 0 ≤ frame.maxX := origin.right
  have below : frame.minY ≤ 0 := origin.below
  have above : 0 ≤ frame.maxY := origin.above
  unfold Box.width at narrow
  unfold Box.height at low
  have still (p : Point Rat) (hp : p ∈ figure.flatMap Segment.ends) : p = ⟨0, 0⟩ := by
    have held := least.holds p (List.mem_cons_of_mem _ hp)
    have x : p.x = 0 := by linarith [held.left, held.right]
    have y : p.y = 0 := by linarith [held.below, held.above]
    calc
      p = ⟨p.x, p.y⟩ := rfl
      _ = ⟨0, 0⟩ := by rw [x, y]
  have minX : frame.minX = 0 := by linarith
  have minY : frame.minY = 0 := by linarith
  refine ⟨?_, ?_⟩
  · unfold Box.corner
    rw [minX, minY]
  · intro s hs
    have start := still s.start (List.mem_flatMap.mpr ⟨s, hs, Segment.mem_ends.mpr (.inl rfl)⟩)
    have finish := still s.finish (List.mem_flatMap.mpr ⟨s, hs, Segment.mem_ends.mpr (.inr rfl)⟩)
    calc
      s = ⟨s.start, s.finish⟩ := rfl
      _ = ⟨⟨0, 0⟩, ⟨0, 0⟩⟩ := by rw [start, finish]

end

section
variable {i : Interpreter Rat} {word : Word} {figure : List (Segment Rat)}

theorem Similarity.draw_of_unit (f : Similarity)
    (unit : (i.draw 1 f.source word).outcome = .ok figure) :
    (i.draw f.factor f.target word).outcome = .ok (figure.map f.stroke) := by
  have similar := draw_outcome (f := f) i 1 word
  rw [unit, mul_one] at similar
  exact similar

/-- Similarities alike in size are the same when one place is brought to the same place. -/
theorem Similarity.stroke_congr {f g : Similarity} (factor : f.factor = g.factor)
    (place : f.point g.source = g.target) : f.stroke = g.stroke := by
  have x : f.target.x + f.factor * (g.source.x - f.source.x) = g.target.x :=
    congrArg Point.x place
  have y : f.target.y + f.factor * (g.source.y - f.source.y) = g.target.y :=
    congrArg Point.y place
  have same (p : Point Rat) : f.point p = g.point p := by
    simp only [point, ← factor, ← x, ← y, Point.mk.injEq]
    constructor <;> ring
  funext s
  unfold stroke
  rw [same, same]

theorem Similarity.measure_of_unit {factor : Rat} (larger : 0 < factor)
    (unit : (i.draw 1 ⟨0, 0⟩ word).outcome = .ok figure) :
    (i.measure factor ⟨0, 0⟩ word).outcome
      = .ok (Similarity.box ⟨factor, ⟨0, 0⟩, ⟨0, 0⟩⟩ (.ofStrokes ⟨0, 0⟩ figure)) := by
  let f : Similarity := ⟨factor, ⟨0, 0⟩, ⟨0, 0⟩⟩
  have drawn : (i.draw factor ⟨0, 0⟩ word).outcome = .ok (figure.map f.stroke) :=
    f.draw_of_unit unit
  rw [Interpreter.measure_outcome, drawn]
  exact congrArg Except.ok (ofStrokes_map (f := f) larger figure)

end

section
variable {system : LSystem} {i : Interpreter Rat} {size : Size Rat} {width height base : Rat}
  {figure : List (Segment Rat)}

/-- A figure of strokes of length one is drawn larger and with its lower left corner at the canvas
origin. The base distance shows at most in how much larger, and only when it has no extent. -/
theorem exists_drawing (unit : (i.draw 1 ⟨0, 0⟩ system.word).outcome = .ok figure)
    (hw : size.width.toScalar? = some width) (hh : size.height.toScalar? = some height)
    (width_pos : 0 < width) (height_pos : 0 < height) (base_pos : 0 < base) :
    let frame := Box.ofStrokes ⟨0, 0⟩ figure
    let reply := (Coordinator.start system i base size).render
    ∃ length, Event.rendered ∈ reply.events ∧
      reply.coordinator.surface.strokes
        = figure.map (Similarity.stroke ⟨length, frame.corner, ⟨0, 0⟩⟩) ∧
      (frame.height < frame.width → length * frame.width = width) ∧
      (¬frame.height < frame.width → 0 < frame.height → length * frame.height = height) := by
  intro frame reply
  let box := Similarity.box ⟨base, ⟨0, 0⟩, ⟨0, 0⟩⟩ frame
  have measured : (i.measure base ⟨0, 0⟩ system.word).outcome = .ok box :=
    Similarity.measure_of_unit base_pos unit
  have corner : box.corner = ⟨base * frame.minX, base * frame.minY⟩ := by
    simp [Similarity.box, Similarity.point, Box.corner, box]
  have wide : box.width = base * frame.width := by
    simp only [Similarity.box, Similarity.point, Box.width, box]
    ring
  have tall : box.height = base * frame.height := by
    simp only [Similarity.box, Similarity.point, Box.height, box]
    ring
  have order : box.height < box.width ↔ frame.height < frame.width := by
    rw [wide, tall, mul_lt_mul_iff_right₀ base_pos]
  obtain ⟨k, origin, strokes, -, fitted, starts, drawn, -, spansWidth, spansHeight, -⟩ :=
    exists_placement measured hw hh width_pos height_pos base_pos
  have draws := Coordinator.draws_start measured fitted starts drawn
  refine ⟨k * base, Coordinator.rendered_iff.mpr ⟨_, _, _, draws⟩, ?_, ?_, ?_⟩
  · -- The pass that draws makes the figure `k * base` times as large from the place it starts at.
    let placed : Similarity := ⟨k * base, ⟨0, 0⟩, origin⟩
    have again : (i.draw (k * base) origin system.word).outcome = .ok (figure.map placed.stroke) :=
      placed.draw_of_unit unit
    have begun := Except.ok.inj (starts.symm.trans (origin_eq base_pos))
    rw [corner] at begun
    have place : placed.point frame.corner = ⟨0, 0⟩ := by
      simp only [Similarity.point, placed, begun, Box.corner, Point.mk.injEq]
      constructor <;> ring
    rw [draws.render_strokes, Except.ok.inj (drawn.symm.trans again)]
    exact congrArg (List.map · figure) (Similarity.stroke_congr rfl place)
  · intro wider
    rw [mul_assoc, ← wide]
    exact spansWidth (order.mpr wider)
  · intro narrower extended
    have raised : 0 < box.height := by
      rw [tall]
      exact mul_pos base_pos extended
    rw [mul_assoc, ← tall]
    exact spansHeight (mt order.mp narrower) raised

end

/-- The length that a figure is measured with is not seen in its drawing. -/
theorem render_ignores_base (system : LSystem) (i : Interpreter Rat) (size : Size Rat)
    (width height base base' distance : Rat) (origin : Point Rat) (box : Box Rat)
    (hw : size.width.toScalar? = some width) (hh : size.height.toScalar? = some height)
    (width_pos : 0 < width) (height_pos : 0 < height) (base_pos : 0 < base) (base'_pos : 0 < base')
    (interprets : (i.measure distance origin system.word).outcome = .ok box) :
    let reply := (Coordinator.start system i base size).render
    let reply' := (Coordinator.start system i base' size).render
    Event.rendered ∈ reply.events ∧ Event.rendered ∈ reply'.events ∧
      reply.coordinator.surface.strokes = reply'.coordinator.surface.strokes := by
  intro reply reply'
  obtain ⟨figure, unit⟩ := Interpreter.exists_draw_of_measure interprets 1 ⟨0, 0⟩
  obtain ⟨length, told, drawn, wide, tall⟩ :=
    exists_drawing unit hw hh width_pos height_pos base_pos
  obtain ⟨length', told', drawn', wide', tall'⟩ :=
    exists_drawing unit hw hh width_pos height_pos base'_pos
  refine ⟨told, told', ?_⟩
  rw [drawn, drawn']
  by_cases wider : (Box.ofStrokes ⟨0, 0⟩ figure).height < (Box.ofStrokes ⟨0, 0⟩ figure).width
  · have spans := (wide wider).trans (wide' wider).symm
    have extended : (Box.ofStrokes ⟨0, 0⟩ figure).width ≠ 0 := by
      intro none
      have nothing := wide wider
      rw [none, mul_zero] at nothing
      exact width_pos.ne nothing
    rw [mul_right_cancel₀ extended spans]
  by_cases higher : 0 < (Box.ofStrokes ⟨0, 0⟩ figure).height
  · have spans := (tall wider higher).trans (tall' wider higher).symm
    rw [mul_right_cancel₀ higher.ne' spans]
  · -- Without extent the lengths may differ, but nothing is there to be made larger.
    have least := Box.isLeast_ofStrokes linear_rat (Interpreter.rooted_of_draw unit)
      ⟨trivial, trivial⟩ fun _ _ => ⟨trivial, trivial⟩
    have low := not_lt.mp higher
    obtain ⟨corner, still⟩ := least.flat ((not_lt.mp wider).trans low) low
    rw [corner]
    apply List.map_congr_left
    intro s hs
    rw [still s hs]
    simp [Similarity.stroke, Similarity.point]

theorem render_ignores_base_of_branch :
    let system := LSystem.start ['F', '[', '+', 'F', 'F', 'F', ']', 'F'] (.ofRules []) 5
    let i : Interpreter Rat := ⟨.squared, -90, 5⟩
    let size : Size Rat := ⟨.whole 100, .real 200⟩
    let reply := (Coordinator.start system i 10 size).render
    let reply' := (Coordinator.start system i (1 / 3) size).render
    size.width.toScalar? = some 100 ∧ size.height.toScalar? = some 200 ∧
      (i.measure 1 ⟨5, 5⟩ system.word).outcome = .ok ⟨5, 5, 8, 7⟩ ∧
      Event.rendered ∈ reply.events ∧ Event.rendered ∈ reply'.events ∧
      reply.coordinator.surface.strokes = reply'.coordinator.surface.strokes := by
  intro system i size reply reply'
  have hw : size.width.toScalar? = some 100 := rfl
  have hh : size.height.toScalar? = some 200 := rfl
  have interprets : (i.measure 1 ⟨5, 5⟩ system.word).outcome = .ok ⟨5, 5, 8, 7⟩ := by
    decide +kernel
  obtain ⟨told, told', same⟩ := render_ignores_base system i size 100 200 10 (1 / 3) 1 ⟨5, 5⟩ _
    hw hh (by norm_num) (by norm_num) (by norm_num) (by norm_num) interprets
  exact ⟨hw, hh, interprets, told, told', same⟩

end LSystems
