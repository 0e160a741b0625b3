import LSystems.Proofs.LeastBox

open Float.Model

namespace LSystems

/-- Where a number stands on the line, by its class, its exponent and its mantissa. -/
def linePlace? : UnpackedFloat → Option (Int × Int × Int)
  | .infinity .negative => some (-2, 0, 0)
  | .finite .negative mantissa exponent _ => some (-1, -exponent, -mantissa)
  | .zero _ => some (0, 0, 0)
  | .finite .positive mantissa exponent _ => some (1, exponent, mantissa)
  | .infinity .positive => some (2, 0, 0)
  | .notANumber => none

def comparePlaces (p q : Int × Int × Int) : Ordering :=
  (compare p.1 q.1).then ((compare p.2.1 q.2.1).then (compare p.2.2 q.2.2))

theorem comparePlaces_eq_lt_iff {p q : Int × Int × Int} : comparePlaces p q = .lt ↔
    p.1 < q.1 ∨ p.1 = q.1 ∧ (p.2.1 < q.2.1 ∨ p.2.1 = q.2.1 ∧ p.2.2 < q.2.2) := by
  simp only [comparePlaces, Ordering.then_eq_lt, Int.compare_eq_lt, Int.compare_eq_eq]

theorem comparePlaces_isLE_iff {p q : Int × Int × Int} : (comparePlaces p q).isLE = true ↔
    p.1 < q.1 ∨ p.1 = q.1 ∧ (p.2.1 < q.2.1 ∨ p.2.1 = q.2.1 ∧ p.2.2 ≤ q.2.2) := by
  simp only [comparePlaces, Ordering.isLE_then_iff_and, Int.isLE_compare, Int.compare_eq_lt]
  omega

theorem compare_neg_neg (a b : Int) : compare (-a) (-b) = (compare a b).swap := by
  rw [Int.compare_swap, Int.compare_eq_ite_lt, Int.compare_eq_ite_lt]
  simp only [Int.neg_lt_neg_iff]

theorem compare_natCast (m n : Nat) : compare (m : Int) (n : Int) = compare m n := by
  rw [Int.compare_eq_ite_lt, Nat.compare_eq_ite_lt]
  simp only [Int.ofNat_lt]

theorem compare_eq_comparePlaces (u v : UnpackedFloat) :
    u.compare v = (linePlace? u).bind fun p => (linePlace? v).map (comparePlaces p) := by
  rcases u with (_ | _) | _ | (_ | _) | ⟨_ | _, m, e, pos⟩ <;>
    rcases v with (_ | _) | _ | (_ | _) | ⟨_ | _, m', e', pos'⟩
  -- Only two finite numbers of one sign are told apart by more than their class.
  any_goals rfl
  · show some ((compare e e').then (compare m m')).swap
      = some ((compare (-e) (-e')).then (compare (-(m : Int)) (-(m' : Int))))
    rw [compare_neg_neg, compare_neg_neg, compare_natCast, Ordering.swap_then]
  · show some ((compare e e').then (compare m m'))
      = some ((compare e e').then (compare (m : Int) (m' : Int)))
    rw [compare_natCast]

theorem isNaN_eq_isNone (u : UnpackedFloat) : u.isNaN = (linePlace? u).isNone := by
  rcases u with (_ | _) | _ | _ | ⟨_ | _, m, e, pos⟩
  all_goals rfl

theorem isNaN_eq_false_iff {x : Float} :
    x.isNaN = false ↔ ∃ p, linePlace? x.toModel.unpack = some p := by
  have self : x.isNaN = x.toModel.unpack.isNaN := rfl
  rw [self, isNaN_eq_isNone, Option.isNone_eq_false_iff, Option.isSome_iff_exists]

theorem compare_eq_some_iff {u v : UnpackedFloat} {o : Ordering} : u.compare v = some o ↔
    ∃ p q, linePlace? u = some p ∧ linePlace? v = some q ∧ comparePlaces p q = o := by
  rw [compare_eq_comparePlaces]
  simp only [Option.bind_eq_some_iff, Option.map_eq_some_iff]
  constructor
  · rintro ⟨p, hp, q, hq, compared⟩
    exact ⟨p, q, hp, hq, compared⟩
  · rintro ⟨p, q, hp, hq, compared⟩
    exact ⟨p, hp, q, hq, compared⟩

theorem float_lt_iff {x y : Float} : x < y ↔ ∃ p q, linePlace? x.toModel.unpack = some p ∧
    linePlace? y.toModel.unpack = some q ∧ comparePlaces p q = .lt := by
  have order : x < y ↔ (x.toModel.unpack.compare y.toModel.unpack == some .lt) = true :=
    decide_eq_true_iff
  rw [order, beq_iff_eq, compare_eq_some_iff]

theorem float_le_iff {x y : Float} : x ≤ y ↔ ∃ p q, linePlace? x.toModel.unpack = some p ∧
    linePlace? y.toModel.unpack = some q ∧ (comparePlaces p q).isLE = true := by
  have order : x ≤ y ↔ (x.toModel.unpack.compare y.toModel.unpack).any (·.isLE) = true :=
    decide_eq_true_iff
  rw [order, Option.any_eq_true]
  simp only [compare_eq_some_iff]
  constructor
  · rintro ⟨o, ⟨p, q, hp, hq, rfl⟩, le⟩
    exact ⟨p, q, hp, hq, le⟩
  · rintro ⟨p, q, hp, hq, le⟩
    exact ⟨_, ⟨p, q, hp, hq, rfl⟩, le⟩

/-- Binary64 numbers, infinite ones among them, compare like the numbers of a line. -/
theorem linear_float : Linear (fun x : Float => x.isNaN = false) where
  refl {a} number := by
    obtain ⟨p, hp⟩ := isNaN_eq_false_iff.mp number
    refine float_le_iff.mpr ⟨p, p, hp, hp, ?_⟩
    rw [comparePlaces_isLE_iff]
    omega
  trans {a b c} le le' := by
    obtain ⟨p, q, hp, hq, before⟩ := float_le_iff.mp le
    obtain ⟨q', r, hq', hr, before'⟩ := float_le_iff.mp le'
    obtain rfl := Option.some.inj (hq.symm.trans hq')
    refine float_le_iff.mpr ⟨p, r, hp, hr, ?_⟩
    rw [comparePlaces_isLE_iff] at before before' ⊢
    omega
  le_of_lt {a b} lt := by
    obtain ⟨p, q, hp, hq, before⟩ := float_lt_iff.mp lt
    refine float_le_iff.mpr ⟨p, q, hp, hq, ?_⟩
    rw [before]
    rfl
  le_of_not_lt {a b} number number' not_lt := by
    obtain ⟨p, hp⟩ := isNaN_eq_false_iff.mp number
    obtain ⟨q, hq⟩ := isNaN_eq_false_iff.mp number'
    have behind : comparePlaces p q ≠ .lt := fun before =>
      not_lt (float_lt_iff.mpr ⟨p, q, hp, hq, before⟩)
    refine float_le_iff.mpr ⟨q, p, hq, hp, ?_⟩
    rw [ne_eq, comparePlaces_eq_lt_iff] at behind
    rw [comparePlaces_isLE_iff]
    omega

section
variable {x y : Float}

/-- Only numbers are less than or above anything. -/
theorem isNaN_of_lt (lt : x < y) : x.isNaN = false ∧ y.isNaN = false := by
  obtain ⟨p, q, hp, hq, -⟩ := float_lt_iff.mp lt
  exact ⟨isNaN_eq_false_iff.mpr ⟨p, hp⟩, isNaN_eq_false_iff.mpr ⟨q, hq⟩⟩

theorem isNaN_of_le (le : x ≤ y) : x.isNaN = false ∧ y.isNaN = false := by
  obtain ⟨p, q, hp, hq, -⟩ := float_le_iff.mp le
  exact ⟨isNaN_eq_false_iff.mpr ⟨p, hp⟩, isNaN_eq_false_iff.mpr ⟨q, hq⟩⟩

theorem float_not_lt_of_le (le : y ≤ x) : ¬x < y := by
  intro lt
  obtain ⟨p, q, hp, hq, before⟩ := float_lt_iff.mp lt
  obtain ⟨q', p', hq', hp', behind⟩ := float_le_iff.mp le
  obtain rfl := Option.some.inj (hp.symm.trans hp')
  obtain rfl := Option.some.inj (hq.symm.trans hq')
  rw [comparePlaces_eq_lt_iff] at before
  rw [comparePlaces_isLE_iff] at behind
  omega

/-- What is not below a bound is at it or above it, or one of them is no number. -/
theorem float_not_lt_iff : ¬x < y ↔ x.isNaN = true ∨ y.isNaN = true ∨ y ≤ x := by
  constructor
  · intro not_lt
    by_contra other
    rw [not_or, not_or, Bool.not_eq_true, Bool.not_eq_true] at other
    exact other.2.2 (linear_float.le_of_not_lt other.1 other.2.1 not_lt)
  · rintro (none | none | le) lt
    · cases none.symm.trans (isNaN_of_lt lt).1
    · cases none.symm.trans (isNaN_of_lt lt).2
    · exact float_not_lt_of_le le lt

theorem float_not_le_iff : ¬x ≤ y ↔ x.isNaN = true ∨ y.isNaN = true ∨ y < x := by
  constructor
  · intro not_le
    by_contra other
    rw [not_or, not_or, Bool.not_eq_true, Bool.not_eq_true] at other
    exact not_le (linear_float.le_of_not_lt other.2.1 other.1 other.2.2)
  · rintro (none | none | lt) le
    · cases none.symm.trans (isNaN_of_le le).1
    · cases none.symm.trans (isNaN_of_le le).2
    · exact float_not_lt_of_le le lt

end

end LSystems
