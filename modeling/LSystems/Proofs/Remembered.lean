import LSystems.Proofs.Render

namespace LSystems

namespace Coordinator

variable {α : Type} {c d : Coordinator α}

theorem growTimes_of_open (isOpen : c.isOpen = true) (times : Nat) :
    (c.growTimes times).refusal = none ∧ (c.growTimes times).coordinator.isOpen = true := by
  induction times generalizing c with
  | zero => exact ⟨rfl, isOpen⟩
  | succ times ih =>
    have still : c.growJob.2.isOpen = true := by
      unfold growJob grow
      dsimp only
      cases c.system.iterate.outcome with
      | error fault => exact isOpen
      | ok system =>
        dsimp only
        rw [isOpen]
        rfl
    unfold growTimes
    rw [if_pos isOpen]
    exact ih still

theorem growTimes_of_closed (closed : c.isOpen = false) (times : Nat) :
    (c.growTimes times).coordinator = c := by
  cases times with
  | zero => rfl
  | succ times =>
    unfold growTimes
    rw [closed]
    rfl

/-- Whoever lets a system grow is told of the growing and of nothing else. -/
theorem told_by_grow {event : Event} (told : event ∈ c.grow.1) :
    (∃ percentage, event = .growing percentage) ∨ ∃ generation, event = .grown generation := by
  unfold grow at told
  dsimp only at told
  cases advanced : c.system.iterate.outcome with
  | error fault =>
    rw [advanced] at told
    cases told
  | ok system =>
    rw [advanced] at told
    cases isOpen : c.isOpen with
    | true =>
      rw [isOpen] at told
      rcases List.mem_append.mp told with before | last
      · obtain ⟨percentage, -, rfl⟩ := List.mem_map.mp before
        exact .inl ⟨percentage, rfl⟩
      · exact .inr ⟨system.generation, List.mem_singleton.mp last⟩
    | false =>
      rw [isOpen] at told
      cases told

theorem told_by_growTimes {event : Event} {times : Nat} (told : event ∈ (c.growTimes times).events) :
    (∃ percentage, event = .growing percentage) ∨ ∃ generation, event = .grown generation := by
  induction times generalizing c with
  | zero => cases told
  | succ times ih =>
    unfold growTimes at told
    split at told
    · rcases List.mem_append.mp told with now | later
      · exact told_by_grow now
      · exact ih later
    · cases told

/-- The coordinator that a request has rendered, as the render finds it. -/
def rendering (c : Coordinator α) : Request α → Option (Coordinator α)
  | .render => if c.isOpen then some c else none
  | .growAndRender times => if c.isOpen then some (c.growTimes times).coordinator else none
  | _ => none

theorem rendering_cases {request : Request α} (h : c.rendering request = some d) :
    c.isOpen = true ∧ (request = .render ∧ d = c ∨
      ∃ times, request = .growAndRender times ∧ d = (c.growTimes times).coordinator) := by
  unfold rendering at h
  split at h
  next =>
    split_ifs at h with isOpen
    cases h
    exact ⟨isOpen, .inl ⟨rfl, rfl⟩⟩
  next times =>
    split_ifs at h with isOpen
    cases h
    exact ⟨isOpen, .inr ⟨times, rfl, rfl⟩⟩
  next => cases h

variable [Scalar α]

/-- The coordinators rendered in a run, in order, each as its render finds it. -/
def renders (c : Coordinator α) : List (Request α) → List (Coordinator α)
  | [] => []
  | request :: rest =>
    (c.rendering request).toList ++ (c.perform request).coordinator.drain.2.renders rest

/-- A render measures, and keeps the box. -/
def measuresAnew (c : Coordinator α) : Bool :=
  c.keptBox?.isNone && c.render.coordinator.keptBox?.isSome

/-- A render fits, and keeps the scale. -/
def fitsAnew (c : Coordinator α) : Bool :=
  c.keptScale?.isNone && c.render.coordinator.keptScale?.isSome

/-- The last one of some renders that measures. -/
def lastMeasuring (past : List (Coordinator α)) : Option (Coordinator α) :=
  (past.filter measuresAnew).getLast?

/-- The last one of some renders that fits. -/
def lastFitting (past : List (Coordinator α)) : Option (Coordinator α) :=
  (past.filter fitsAnew).getLast?

/-- What is kept was found by two earlier renders, one that measured and one that fitted. The numbers
of generations and of changes of size tell whether it is still of use. -/
structure Remembers (measuring fitting : Option (Coordinator α)) (c : Coordinator α) : Prop where
  measured_le : ∀ generation box, c.measured = some (generation, box) →
    generation ≤ c.system.generation
  box : ∀ box, c.keptBox? = some box →
    ∃ m ∈ measuring, m.system = c.system ∧ m.figure = .ok box
  scaled_le : ∀ kept, c.scaled = some kept → kept.generation ≤ c.system.generation
  resizes_le : ∀ kept, c.scaled = some kept → kept.resizes ≤ c.surface.resizes
  size : ∀ kept, c.scaled = some kept → kept.resizes = c.surface.resizes → kept.size = c.surface.size
  scale : ∀ kept, c.scaled = some kept → kept.generation = c.system.generation →
    ∃ f ∈ fitting, ∃ box, f.system = c.system ∧ c.keptBox? = some box ∧
      Scale.fit box kept.size f.base = .ok kept.scale

theorem lastMeasuring_concat (past : List (Coordinator α)) (c : Coordinator α) :
    lastMeasuring (past ++ [c]) = if c.measuresAnew then some c else lastMeasuring past := by
  unfold lastMeasuring
  rw [List.filter_append]
  cases h : c.measuresAnew <;> simp [h]

theorem lastFitting_concat (past : List (Coordinator α)) (c : Coordinator α) :
    lastFitting (past ++ [c]) = if c.fitsAnew then some c else lastFitting past := by
  unfold lastFitting
  rw [List.filter_append]
  cases h : c.fitsAnew <;> simp [h]

variable {measuring fitting : Option (Coordinator α)}

namespace Remembers

theorem start (system : LSystem) (i : Interpreter α) (base : α) (size : Size α) :
    Remembers none none (Coordinator.start system i base size) := by
  refine ⟨?_, ?_, ?_, ?_, ?_, ?_⟩
  · intro generation box h; cases h
  · intro box h; cases h
  · intro kept h; cases h
  · intro kept h; cases h
  · intro kept h; cases h
  · intro kept h; cases h

theorem of_alike (h : Remembers measuring fitting c) (alike : Alike d c) :
    Remembers measuring fitting d := by
  refine ⟨?_, ?_, ?_, ?_, ?_, ?_⟩
  · rw [alike.measured, alike.system]; exact h.measured_le
  · rw [alike.keptBox, alike.system]; exact h.box
  · rw [alike.scaled, alike.system]; exact h.scaled_le
  · rw [alike.scaled, alike.resizes]; exact h.resizes_le
  · rw [alike.scaled, alike.resizes, alike.size]; exact h.size
  · rw [alike.scaled, alike.system, alike.keptBox]; exact h.scale

/-- A generation on, nothing that is kept is taken for the new one. -/
theorem onward (h : Remembers measuring fitting c) {system : LSystem}
    (next : system.generation = c.system.generation + 1) {measured : Option (Nat × Box α)}
    (kept : ∀ found, measured = some found → c.measured = some found) :
    Remembers measuring fitting { c with system := system, measured := measured } := by
  have older (generation : Nat) (box : Box α) (found : measured = some (generation, box)) :
      generation < system.generation := by
    -- What is still kept was kept before, for a generation no later than the one left.
    have := h.measured_le generation box (kept _ found)
    omega
  refine ⟨?_, ?_, ?_, h.resizes_le, h.size, ?_⟩
  · intro generation box found
    exact Nat.le_of_lt (older generation box found)
  · intro box found
    have := older _ box (measured_of_keptBox found)
    dsimp only at this
    omega
  · intro kept found
    have := h.scaled_le kept found
    dsimp only
    omega
  · intro kept found same
    have := h.scaled_le kept found
    dsimp only at same
    omega

theorem grow (h : Remembers measuring fitting c) : Remembers measuring fitting c.grow.2.1 := by
  unfold Coordinator.grow LSystem.iterate
  dsimp only
  cases (c.system.grammar.advance c.system.step c.system.word).outcome with
  | error fault => exact h
  | ok word =>
    dsimp only [Except.map]
    split
    · exact h.onward rfl fun found eq => nomatch eq
    · exact h.onward rfl fun found eq => eq

theorem growTimes (h : Remembers measuring fitting c) (times : Nat) :
    Remembers measuring fitting (c.growTimes times).coordinator := by
  induction times generalizing c with
  | zero => exact h
  | succ times ih =>
    unfold Coordinator.growTimes
    split
    · have grown : Alike c.growJob.2 c.grow.2.1 := ⟨rfl, rfl, rfl, rfl, rfl, rfl, rfl, rfl⟩
      exact ih (h.grow.of_alike grown)
    · exact h

theorem resize (h : Remembers measuring fitting c) (size : Size α) :
    Remembers measuring fitting { c with surface := c.surface.resize size } := by
  refine ⟨h.measured_le, h.box, h.scaled_le, ?_, ?_, h.scale⟩
  · intro kept found
    have := h.resizes_le kept found
    exact Nat.le_succ_of_le this
  · intro kept found same
    have := h.resizes_le kept found
    dsimp only [Surface.resize] at same
    omega

end Remembers

theorem measuresAnew_iff (isOpen : c.isOpen = true) :
    c.measuresAnew = true ↔ c.keptBox? = none ∧ ∃ box, c.boxInUse = .ok box := by
  unfold measuresAnew
  rw [Bool.and_eq_true, Option.isNone_iff_eq_none]
  refine and_congr_right fun fresh => ?_
  obtain ⟨e, inUse, alike⟩ | ⟨box, e, inUse, -, alike⟩ | ⟨box, scale, inUse, -, alike⟩ :=
    render_alike isOpen
  · rw [alike.keptBox, fresh, inUse]
    simp
  · rw [alike.keptBox, withBox_keptBox inUse, inUse]
    simp
  · rw [alike.keptBox, withScale_keptBox, withBox_keptBox inUse, inUse]
    simp

theorem fitsAnew_iff (isOpen : c.isOpen = true) :
    c.fitsAnew = true ↔ c.keptScale? = none ∧
      ∃ box scale, c.boxInUse = .ok box ∧ c.scaleInUse box = .ok scale := by
  unfold fitsAnew
  rw [Bool.and_eq_true, Option.isNone_iff_eq_none]
  refine and_congr_right fun fresh => ?_
  obtain ⟨e, inUse, alike⟩ | ⟨box, e, inUse, fits, alike⟩ | ⟨box, scale, inUse, fits, alike⟩ :=
    render_alike isOpen
  · rw [alike.keptScale, fresh, inUse]
    simp
  · rw [alike.keptScale, withBox_keptScale, fresh, inUse]
    simp [fits]
  · rw [alike.keptScale, withScale_keptScale ((c.withBox_scaleInUse box box).trans fits), inUse]
    simp [fits]

namespace Remembers

theorem withBox (h : Remembers measuring fitting c) {box : Box α} (inUse : c.boxInUse = .ok box) :
    Remembers (if c.keptBox? = none then some c else measuring) fitting (c.withBox box) := by
  have kept := withBox_keptBox inUse
  unfold Coordinator.withBox boxInUse at *
  cases found : c.keptBox? with
  | some box' => exact h
  | none =>
    rw [found] at inUse kept
    refine ⟨?_, ?_, h.scaled_le, h.resizes_le, h.size, ?_⟩
    · intro generation box' eq
      cases eq
      exact Nat.le_refl _
    · intro box' eq
      cases kept.symm.trans eq
      exact ⟨c, rfl, rfl, inUse⟩
    · -- A scale of this generation would have been fitted to a kept box, but there is none.
      intro kept eq same
      obtain ⟨f, -, box', -, found', -⟩ := h.scale kept eq same
      cases found.symm.trans found'

theorem withScale (h : Remembers measuring fitting c) {box : Box α} (kept : c.keptBox? = some box)
    {f : Coordinator α} (system : f.system = c.system) {scale : Scale α}
    (fits : c.keptScale? = none → Scale.fit box c.surface.size f.base = .ok scale) :
    Remembers measuring (if c.keptScale? = none then some f else fitting) (c.withScale scale) := by
  unfold Coordinator.withScale
  cases found : c.keptScale? with
  | some scale' => exact h
  | none =>
    refine ⟨h.measured_le, h.box, ?_, ?_, ?_, ?_⟩
    · intro kept eq
      cases eq
      exact Nat.le_refl _
    · intro kept eq
      cases eq
      exact Nat.le_refl _
    · intro kept eq same
      cases eq
      rfl
    · intro kept' eq same
      cases eq
      exact ⟨f, rfl, box, system, kept, fits found⟩

end Remembers

/-- The renders that measured and fitted last are the ones that are remembered. -/
def RemembersLast (past : List (Coordinator α)) (c : Coordinator α) : Prop :=
  Remembers (lastMeasuring past) (lastFitting past) c

/-- A render writes down what it finds, and leaves what is still fresh. -/
theorem remembersLast_render {past : List (Coordinator α)} (h : RemembersLast past c)
    (isOpen : c.isOpen = true) : RemembersLast (past ++ [c]) c.render.coordinator := by
  have measures := measuresAnew_iff isOpen
  have fitted := fitsAnew_iff isOpen
  unfold RemembersLast
  rw [lastMeasuring_concat, lastFitting_concat]
  -- The render stops before it has a box, before it has a scale, or after it has both.
  obtain ⟨e, inUse, alike⟩ | ⟨box, e, inUse, fits, alike⟩ | ⟨box, scale, inUse, fits, alike⟩ :=
    render_alike isOpen
  · simp only [inUse, reduceCtorEq, exists_false, and_false, iff_false, false_and] at measures fitted
    rw [if_neg measures, if_neg fitted]
    exact Remembers.of_alike h alike
  · simp only [inUse, Except.ok.injEq, exists_eq', and_true] at measures
    have unfitted : ¬c.fitsAnew = true := by
      rw [fitted, inUse]
      rintro ⟨-, box', scale, same, fits'⟩
      cases same
      cases fits.symm.trans fits'
    simp only [measures, if_neg unfitted]
    exact (Remembers.withBox h inUse).of_alike alike
  · simp only [inUse, Except.ok.injEq, exists_eq', and_true] at measures
    have fitted : c.fitsAnew = true ↔ (c.withBox box).keptScale? = none := by
      rw [fitted, withBox_keptScale]
      exact and_iff_left ⟨box, scale, inUse, fits⟩
    simp only [measures, fitted]
    have found := withBox_keptBox inUse
    have system : c.system = (c.withBox box).system := (c.withBox_system box).symm
    refine ((Remembers.withBox h inUse).withScale found system fun fresh => ?_).of_alike alike
    rw [withBox_keptScale] at fresh
    unfold scaleInUse at fits
    rw [fresh] at fits
    rw [withBox_surface]
    exact fits

theorem render_of_closed (closed : c.isOpen = false) : c.render.coordinator = c := by
  unfold render
  rw [closed]
  rfl

/-- Only a closed coordinator renders nothing when it is asked to render, and it stays as it is. -/
theorem perform_render_of_unrendered (h : c.rendering .render = none) :
    (c.perform .render).coordinator = c := by
  unfold rendering at h
  split_ifs at h with isOpen
  exact render_of_closed (Bool.not_eq_true _ ▸ isOpen)

theorem perform_growAndRender_of_unrendered {times : Nat}
    (h : c.rendering (.growAndRender times) = none) :
    (c.perform (.growAndRender times)).coordinator = c := by
  unfold rendering at h
  split_ifs at h with isOpen
  have closed : c.isOpen = false := Bool.not_eq_true _ ▸ isOpen
  unfold perform
  dsimp only
  rw [growTimes_of_closed closed]
  cases (c.growTimes times).refusal with
  | some refusal => rfl
  | none => exact render_of_closed closed

theorem perform_of_rendering {request : Request α} (h : c.rendering request = some d) :
    d.isOpen = true ∧ (c.perform request).coordinator = d.render.coordinator := by
  obtain ⟨isOpen, ⟨rfl, rfl⟩ | ⟨times, rfl, rfl⟩⟩ := rendering_cases h
  · exact ⟨isOpen, rfl⟩
  · obtain ⟨accepted, still⟩ := growTimes_of_open isOpen times
    refine ⟨still, ?_⟩
    unfold perform
    dsimp only
    rw [accepted]

namespace Remembers

theorem rendering (h : Remembers measuring fitting c) {request : Request α}
    (rendered : c.rendering request = some d) : Remembers measuring fitting d := by
  obtain ⟨-, ⟨-, rfl⟩ | ⟨times, -, rfl⟩⟩ := rendering_cases rendered
  · exact h
  · exact h.growTimes times

/-- A request that has nothing rendered changes nothing that is remembered. -/
theorem perform (h : Remembers measuring fitting c) {request : Request α}
    (unrendered : c.rendering request = none) :
    Remembers measuring fitting (c.perform request).coordinator := by
  cases request with
  | grow times => exact h.growTimes times
  | growAndRender times => rw [perform_growAndRender_of_unrendered unrendered]; exact h
  | render => rw [perform_render_of_unrendered unrendered]; exact h
  | growDirectly => exact h.grow
  | resize size => exact h.resize size
  | setAngle angle => exact ⟨h.measured_le, h.box, h.scaled_le, h.resizes_le, h.size, h.scale⟩
  | setStep step => exact ⟨h.measured_le, h.box, h.scaled_le, h.resizes_le, h.size, h.scale⟩
  | setBase base => exact ⟨h.measured_le, h.box, h.scaled_le, h.resizes_le, h.size, h.scale⟩
  | failNext fault => exact ⟨h.measured_le, h.box, h.scaled_le, h.resizes_le, h.size, h.scale⟩
  | shutdown => exact ⟨h.measured_le, h.box, h.scaled_le, h.resizes_le, h.size, h.scale⟩

end Remembers

variable {past : List (Coordinator α)}

theorem remembersLast_perform (h : RemembersLast past c) (request : Request α) :
    RemembersLast (past ++ (c.rendering request).toList) (c.perform request).coordinator.drain.2 := by
  have drained (d : Coordinator α) : Alike d.drain.2 d := ⟨rfl, rfl, rfl, rfl, rfl, rfl, rfl, rfl⟩
  refine Remembers.of_alike ?_ (drained _)
  cases rendered : c.rendering request with
  | none =>
    rw [Option.toList_none, List.append_nil]
    exact Remembers.perform h rendered
  | some d =>
    obtain ⟨isOpen, performed⟩ := perform_of_rendering rendered
    rw [performed]
    exact remembersLast_render (Remembers.rendering h rendered) isOpen

/-- Whatever is asked for, what is kept was found by the renders of the run that measured and
fitted last. -/
theorem remembersLast_run (requests : List (Request α)) (h : RemembersLast past c) :
    RemembersLast (past ++ c.renders requests) (c.run requests) := by
  -- The renders so far grow along with the run, so the past is general in the induction.
  induction requests generalizing c past with
  | nil => simpa [renders, run] using h
  | cons request rest ih =>
    rw [renders, ← List.append_assoc]
    exact ih (remembersLast_perform h request)

theorem exists_of_renders_eq {requests : List (Request α)} {before after : List (Coordinator α)}
    (h : c.renders requests = before ++ d :: after) :
    ∃ earlier request, c.renders earlier = before ∧ (c.run earlier).rendering request = some d := by
  induction requests generalizing c before with
  | nil => exact (List.append_ne_nil_of_right_ne_nil before (List.cons_ne_nil d after) h.symm).elim
  | cons request rest ih =>
    rw [renders] at h
    cases rendered : c.rendering request with
    | none =>
      rw [rendered] at h
      obtain ⟨earlier, next, before_eq, found⟩ := ih h
      refine ⟨request :: earlier, next, ?_, found⟩
      rw [renders, rendered]
      exact before_eq
    | some e =>
      rw [rendered] at h
      cases before with
      | nil =>
        cases h
        exact ⟨[], request, rfl, rendered⟩
      | cons first before =>
        obtain ⟨rfl, follow⟩ := List.cons.inj h
        obtain ⟨earlier, next, before_eq, found⟩ := ih follow
        refine ⟨request :: earlier, next, ?_, found⟩
        rw [renders, rendered]
        exact congrArg _ before_eq

theorem renders_append (before after : List (Request α)) :
    c.renders (before ++ after) = c.renders before ++ (c.run before).renders after := by
  induction before generalizing c with
  | nil => rfl
  | cons request before ih =>
    rw [List.cons_append, renders, renders, ih, List.append_assoc]
    rfl

/-- A render asked for last is the last one of its run. -/
theorem renders_concat {before : List (Request α)} (isOpen : (c.run before).isOpen = true) :
    c.renders (before ++ [.render]) = c.renders before ++ [c.run before] := by
  have last : (c.run before).rendering .render = some (c.run before) := if_pos isOpen
  rw [renders_append, renders, last]
  rfl

/-- Each render of a run finds what the renders before it have kept. -/
theorem remembersLast_of_renders_eq {system : LSystem} {i : Interpreter α} {base : α} {size : Size α}
    {requests : List (Request α)} {before after : List (Coordinator α)}
    (h : (start system i base size).renders requests = before ++ d :: after) :
    RemembersLast before d ∧ d.isOpen = true := by
  obtain ⟨earlier, request, rfl, rendered⟩ := exists_of_renders_eq h
  have begun : RemembersLast [] (start system i base size) := Remembers.start system i base size
  have kept := remembersLast_run earlier begun
  exact ⟨Remembers.rendering kept rendered, (perform_of_rendering rendered).1⟩

end Coordinator
end LSystems
