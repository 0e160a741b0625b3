import LSystems.Proofs.FloatNumeral
import LSystems.Proofs.FloatOrder
import LSystems.Proofs.LostWay
import LSystems.Settings

namespace LSystems

/-- A number between bounds, each of which may be missing; the lower one may be exclusive. -/
structure WithinBounds (minimum maximum : Option Float) (exclusive : Bool) (x : Float) : Prop where
  low : ∀ bound ∈ minimum, if exclusive then bound < x else bound ≤ x
  high : ∀ bound ∈ maximum, x ≤ bound

/-- A bound that is a number; any other rules nothing out. -/
def numericBound (bound : Option Float) : Option Float :=
  bound.filter (!·.isNaN)

theorem mem_numericBound_iff {bound : Option Float} {x : Float} :
    x ∈ numericBound bound ↔ x ∈ bound ∧ x.isNaN = false := by
  unfold numericBound
  rw [Option.mem_filter_iff, Bool.not_eq_true']

theorem numericBound_eq_self {bound : Option Float} (number : ∀ x ∈ bound, x.isNaN = false) :
    numericBound bound = bound := by
  cases bound with
  | none => rfl
  | some x => exact Option.filter_some_pos (by rw [number x rfl]; rfl)

section
variable {minimum maximum : Option Float} {exclusive : Bool} {x : Float}

theorem or_isNaN_iff {bound : Float} (number : x.isNaN = false) {p : Prop} :
    x.isNaN = true ∨ bound.isNaN = true ∨ p ↔ (bound.isNaN = false → p) := by
  rw [number, eq_false Bool.false_ne_true, false_or, or_iff_not_imp_left, Bool.not_eq_true]

/-- What no bound rules out lies between the bounds or is no number. -/
theorem unbounded_iff :
    ((∀ bound ∈ minimum, ¬if exclusive then x ≤ bound else x < bound) ∧
        ∀ bound ∈ maximum, ¬bound < x) ↔
      x.isNaN = true ∨ WithinBounds (numericBound minimum) (numericBound maximum) exclusive x := by
  cases number : x.isNaN with
  | true =>
    -- No comparison holds of what is no number, so no bound rules it out.
    refine iff_of_true ⟨fun bound _ => ?_, fun bound _ => ?_⟩ (.inl rfl)
    · cases exclusive with
      | true => exact float_not_le_iff.mpr (.inl number)
      | false => exact float_not_lt_iff.mpr (.inl number)
    · exact float_not_lt_iff.mpr (.inr (.inl number))
  | false =>
    have low {bound : Float} : (¬if exclusive then x ≤ bound else x < bound) ↔
        (bound.isNaN = false → if exclusive then bound < x else bound ≤ x) := by
      cases exclusive with
      | true => exact float_not_le_iff.trans (or_isNaN_iff number)
      | false => exact float_not_lt_iff.trans (or_isNaN_iff number)
    have high {bound : Float} : ¬bound < x ↔ (bound.isNaN = false → x ≤ bound) :=
      float_not_lt_iff.trans (or_left_comm.trans (or_isNaN_iff number))
    constructor
    · rintro ⟨notBelow, notAbove⟩
      refine .inr ⟨fun bound mem => ?_, fun bound mem => ?_⟩
      · obtain ⟨listed, real⟩ := mem_numericBound_iff.mp mem
        exact low.mp (notBelow bound listed) real
      · obtain ⟨listed, real⟩ := mem_numericBound_iff.mp mem
        exact high.mp (notAbove bound listed) real
    · rintro (none | within)
      · cases none
      · refine ⟨fun bound mem => low.mpr fun real => ?_, fun bound mem => high.mpr fun real => ?_⟩
        · exact within.low bound (mem_numericBound_iff.mpr ⟨mem, real⟩)
        · exact within.high bound (mem_numericBound_iff.mpr ⟨mem, real⟩)

end

namespace Environment

section
variable {env : Environment} {name value : String} {default : Float}
  {minimum maximum : Option Float} {exclusive : Bool} {x : Float}

theorem float_eq_ok_iff (set : env name = some value) :
    env.float name default minimum maximum exclusive = .ok x ↔ readFloat? value = some x ∧
      (x.isNaN = true ∨
        WithinBounds (numericBound minimum) (numericBound maximum) exclusive x) := by
  rw [← unbounded_iff]
  unfold float
  rw [set]
  dsimp only
  cases readFloat? value with
  | none => simp
  | some y =>
    dsimp only
    split
    next bound beyond =>
      obtain ⟨listed, beyond⟩ := Option.mem_filter_iff.mp beyond
      refine iff_of_false nofun ?_
      rintro ⟨⟨⟩, notBelow, -⟩
      exact notBelow bound listed (by simpa using beyond)
    next bound _ beyond =>
      obtain ⟨listed, beyond⟩ := Option.mem_filter_iff.mp beyond
      refine iff_of_false nofun ?_
      rintro ⟨⟨⟩, -, notAbove⟩
      exact notAbove bound listed (by simpa using beyond)
    next notBelow notAbove =>
      rw [Option.filter_eq_none_iff] at notBelow notAbove
      constructor
      · rintro ⟨⟩
        refine ⟨rfl, fun bound mem => ?_, fun bound mem => ?_⟩
        · simpa using notBelow bound mem
        · simpa using notAbove bound mem
      · rintro ⟨⟨⟩, -⟩
        rfl

theorem float_faults {fault : SettingFault}
    (refused : env.float name default minimum maximum exclusive = .error fault) :
    fault = .notFloat name ∨
      (∃ bound ∈ minimum, fault =
        if exclusive then .notAbove name (floatText bound) else .below name (floatText bound)) ∨
      ∃ bound ∈ maximum, fault = .above name (floatText bound) := by
  unfold float at refused
  cases set : env name with
  | none =>
    rw [set] at refused
    cases refused
  | some value =>
    rw [set] at refused
    dsimp only at refused
    split at refused
    next => exact .inl (Except.error.inj refused).symm
    next =>
      split at refused
      next bound beyond =>
        obtain ⟨listed, -⟩ := Option.mem_filter_iff.mp beyond
        exact .inr (.inl ⟨bound, listed, (Except.error.inj refused).symm⟩)
      next bound _ beyond =>
        obtain ⟨listed, -⟩ := Option.mem_filter_iff.mp beyond
        exact .inr (.inr ⟨bound, listed, (Except.error.inj refused).symm⟩)
      next => cases refused

end

section
variable {env : Environment} {x : Float}

/-- A base distance is above zero or names what is no number. -/
theorem pos_of_baseDistance (accepted : env.baseDistance = .ok x) :
    0.0 < x ∨ x.isNaN = true ∧ ∃ value ∈ env "LINDENMAYER_BASE_DISTANCE", NamesNaN value := by
  cases set : env "LINDENMAYER_BASE_DISTANCE" with
  | none =>
    unfold baseDistance float at accepted
    rw [set] at accepted
    cases accepted
    exact .inl (by decide +kernel)
  | some value =>
    obtain ⟨read, none | within⟩ := (float_eq_ok_iff set).mp accepted
    · exact .inr ⟨none, value, rfl, (isNaN_readFloat?_iff read).mp none⟩
    · exact .inl (within.low 0.0 (mem_numericBound_iff.mpr ⟨rfl, by decide +kernel⟩))

theorem not_nonpositive_of_baseDistance (accepted : env.baseDistance = .ok x) : ¬x ≤ 0.0 := by
  obtain pos | ⟨none, -⟩ := pos_of_baseDistance accepted
  · exact fun le => float_not_lt_of_le le pos
  · exact float_not_le_iff.mpr (.inl none)

end

end Environment

theorem Scale.fit_ne_baseDistance {α : Type} [Scalar α] {base : α} {box : Box α} {size : Size α}
    {text : String} (base_pos : ¬base ≤ 0) : fit box size base ≠ .error (.baseDistance text) := by
  intro refused
  cases sides : (size.width.isNonpositive || size.height.isNonpositive) with
  | true =>
    unfold fit at refused
    rw [sides, if_pos rfl] at refused
    cases refused
  | false =>
    obtain ⟨width_pos, height_pos⟩ := Bool.or_eq_false_iff.mp sides
    obtain ⟨distance, fitted⟩ | ⟨failed, -⟩ := fit_cases box width_pos height_pos base_pos
    · cases refused.symm.trans fitted
    · cases refused.symm.trans failed

/-- A float setting between numeric bounds is accepted, and besides those only what is no number:
no bound refuses it, neither does the scale that the base distance is for. -/
theorem accepted_settings_bounded (env : Environment) :
    (∀ name value default minimum maximum exclusive, env name = some value →
      (∀ x, env.float name default minimum maximum exclusive = .ok x ↔ readFloat? value = some x ∧
        (NamesNaN value ∨
          WithinBounds (numericBound minimum) (numericBound maximum) exclusive x)) ∧
      ∀ fault, env.float name default minimum maximum exclusive = .error fault →
        fault = .notFloat name ∨
          (∃ bound ∈ minimum, fault =
            if exclusive then .notAbove name (floatText bound)
            else .below name (floatText bound)) ∨
          ∃ bound ∈ maximum, fault = .above name (floatText bound)) ∧
    (∀ x, env.baseDistance = .ok x →
      (0.0 < x ∨
        x.isNaN = true ∧ ∃ value ∈ env "LINDENMAYER_BASE_DISTANCE", NamesNaN value) ∧
      ∀ box size text, Scale.fit box size x ≠ .error (.baseDistance text)) ∧
    ∀ value ∈ env "LINDENMAYER_BASE_DISTANCE", NamesNaN value →
      ∃ x, env.baseDistance = .ok x ∧ x.isNaN = true := by
  refine ⟨fun name value default minimum maximum exclusive set => ⟨fun x => ?_, fun fault => ?_⟩,
    fun x accepted => ⟨Environment.pos_of_baseDistance accepted, fun box size text => ?_⟩,
    fun value set named => ?_⟩
  · rw [Environment.float_eq_ok_iff set]
    refine and_congr_right fun read => ?_
    rw [isNaN_readFloat?_iff read]
  · exact Environment.float_faults
  · exact Scale.fit_ne_baseDistance (Environment.not_nonpositive_of_baseDistance accepted)
  · obtain ⟨x, read, none⟩ := exists_readFloat?_of_namesNaN named
    exact ⟨x, (Environment.float_eq_ok_iff set).mpr ⟨read, .inl none⟩, none⟩

/-- The environment in which one variable is set. -/
def Environment.single (name value : String) : Environment :=
  fun asked => if asked = name then some value else none

theorem half_setting_bounded :
    (Environment.single "LINDENMAYER_BASE_DISTANCE" "0.5").baseDistance = .ok 0.5 ∧
      WithinBounds (some 0.0) none true 0.5 := by
  have accepted : (Environment.single "LINDENMAYER_BASE_DISTANCE" "0.5").baseDistance
      = .ok 0.5 := by
    decide +kernel
  have zero : numericBound (some 0.0) = some 0.0 :=
    numericBound_eq_self fun x mem => by cases mem; decide +kernel
  have settings := accepted_settings_bounded (.single "LINDENMAYER_BASE_DISTANCE" "0.5")
  refine ⟨accepted, ?_⟩
  obtain ⟨-, named | within⟩ := ((settings.1 "LINDENMAYER_BASE_DISTANCE" "0.5" 10.0 (some 0.0)
    none true (by decide)).1 0.5).mp accepted
  · cases (by decide : ¬NamesNaN "0.5") named
  · rw [zero] at within
    exact within

/-- What is read from `nan` passes as a base distance that is not above zero, between bounds that
it does not lie between, and as the stroke length of a measured figure. -/
theorem nan_setting_accepted : ∃ env x scale,
    env = Environment.single "LINDENMAYER_BASE_DISTANCE" "nan" ∧
    env.baseDistance = .ok x ∧ ¬0.0 < x ∧
    env.float "LINDENMAYER_BASE_DISTANCE" 1.0 (some 0.0) (some 2.0) false = .ok x ∧
    ¬WithinBounds (some 0.0) (some 2.0) false x ∧
    Scale.fit ⟨0.0, 0.0, 4.0, 3.0⟩ ⟨.whole 800, .whole 600⟩ x = .ok scale ∧
    ¬0.0 < scale.distance := by
  refine ⟨_, 0.0 / 0.0, ⟨0.0 / 0.0, ⟨0.0, 0.0⟩, 0.0 / 0.0⟩, rfl, by decide +kernel,
    by decide +kernel, by decide +kernel, fun within => ?_, by decide +kernel, by decide +kernel⟩
  exact absurd (within.high 2.0 rfl) (by decide +kernel)

end LSystems
