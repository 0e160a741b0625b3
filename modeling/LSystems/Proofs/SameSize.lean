import LSystems.Scale

open Float.Model

namespace LSystems

/-- The fields of the bits of a binary64 number, its sign, exponent and fraction. -/
theorem toNat_unpackMantissa (b : BitVec 64) :
    (@UnpackedFloat.unpackMantissa Format.binary64 b).toNat = b.toNat % twoTo 52 := by
  simp [UnpackedFloat.unpackMantissa, twoTo]

theorem toNat_unpackExponent (b : BitVec 64) :
    (@UnpackedFloat.unpackExponent Format.binary64 b).toNat = b.toNat / twoTo 52 % twoTo 11 := by
  simp [UnpackedFloat.unpackExponent, Nat.shiftRight_eq_div_pow, twoTo]

theorem sign_unpackSign (b : BitVec 64) :
    UnpackedFloat.Sign.ofBitVec (@UnpackedFloat.unpackSign Format.binary64 b)
      = if twoTo 63 ≤ b.toNat then .negative else .positive := by
  have bound := b.isLt
  have bit : (@UnpackedFloat.unpackSign Format.binary64 b).toNat = b.toNat / 2 ^ 63 % 2 := by
    unfold UnpackedFloat.unpackSign
    simp [Nat.shiftRight_eq_div_pow]
  have size : twoTo 63 = 2 ^ 63 := rfl
  unfold UnpackedFloat.Sign.ofBitVec
  split
  next zero =>
    have clear : 0 = b.toNat / 2 ^ 63 % 2 := by rw [← bit, zero]; rfl
    rw [if_neg (by omega)]
  next one =>
    have raised : (@UnpackedFloat.unpackSign Format.binary64 b).toNat ≠ 0 :=
      fun zero => one (BitVec.eq_of_toNat_eq zero)
    rw [if_pos (by omega)]

/-- Bits that stand for a finite number unpack to a signed zero or to a sign and a mantissa. -/
theorem unpack_finite (b : BitVec 64) (finite : b.toNat / twoTo 52 % twoTo 11 ≠ twoTo 11 - 1) :
    ∃ sign : UnpackedFloat.Sign, sign = (if twoTo 63 ≤ b.toNat then .negative else .positive) ∧
      (((Magnitude.ofBits b.toNat).mantissa = 0 ∧
          UnpackedFloat.unpack Format.binary64 b = .zero sign) ∨
        ∃ mantissa exponent pos, mantissa = (Magnitude.ofBits b.toNat).mantissa ∧
          UnpackedFloat.unpack Format.binary64 b = .finite sign mantissa exponent pos) := by
  have field := toNat_unpackExponent b
  have fraction := toNat_unpackMantissa b
  refine ⟨_, sign_unpackSign b, ?_⟩
  have proper : @UnpackedFloat.unpackExponent Format.binary64 b ≠ -1#_ := by
    intro full
    rw [full] at field
    exact finite field.symm
  unfold UnpackedFloat.unpack Magnitude.ofBits
  dsimp only
  rw [if_neg proper, ← field, ← fraction]
  -- With an exponent field of zero the fraction has no leading one, and may be zero.
  by_cases subnormal : @UnpackedFloat.unpackExponent Format.binary64 b = 0#_
  · have zero : (@UnpackedFloat.unpackExponent Format.binary64 b).toNat = 0 := by
      rw [subnormal]; rfl
    rw [if_pos subnormal, if_pos zero]
    by_cases empty : @UnpackedFloat.unpackMantissa Format.binary64 b = 0#_
    · left
      rw [dif_pos empty, empty]
      exact ⟨rfl, rfl⟩
    · right
      have pos : 0 < (@UnpackedFloat.unpackMantissa Format.binary64 b).toNat :=
        Nat.pos_of_ne_zero fun zero => empty (BitVec.eq_of_toNat_eq zero)
      rw [dif_neg empty]
      exact ⟨_, _, pos, rfl, rfl⟩
  · have nonzero : (@UnpackedFloat.unpackExponent Format.binary64 b).toNat ≠ 0 :=
      fun zero => subnormal (BitVec.eq_of_toNat_eq zero)
    have bound := (@UnpackedFloat.unpackMantissa Format.binary64 b).isLt
    have whole : (1#1 ++ @UnpackedFloat.unpackMantissa Format.binary64 b).toNat
        = twoTo 52 + (@UnpackedFloat.unpackMantissa Format.binary64 b).toNat := by
      change twoTo 52 ||| (@UnpackedFloat.unpackMantissa Format.binary64 b).toNat = _
      rw [Nat.or_comm]
      exact (Nat.or_two_pow_eq_add_of_lt bound).trans (Nat.add_comm _ _)
    have pos : 0 < (1#1 ++ @UnpackedFloat.unpackMantissa Format.binary64 b).toNat := by
      rw [whole]
      exact Nat.add_pos_left (twoTo_pos 52) _
    rw [if_neg subnormal, if_neg nonzero]
    right
    exact ⟨_, _, pos, whole, rfl⟩

/-- A finite number is at or below zero when its sign is minus or its mantissa zero. -/
theorem float_nonpos_iff {x : Float} {negative : Bool} {m : Magnitude}
    (h : finiteParts? x = some (negative, m)) :
    x ≤ 0.0 ↔ negative = true ∨ m.mantissa = 0 := by
  have order : x ≤ 0.0 ↔ x.toModel.unpack.le (.zero .positive) = true := by
    exact decide_eq_true_iff
  have bits : x.toBits.toNat = x.toModel.toBits.toBitVec.toNat := rfl
  simp only [finiteParts?, bits] at h
  split at h
  next => cases h
  next finite =>
    simp only [Option.some.injEq, Prod.mk.injEq] at h
    obtain ⟨rfl, rfl⟩ := h
    obtain ⟨sign, signed, shape⟩ := unpack_finite _ finite
    rw [order]
    have unpack : x.toModel.unpack
        = UnpackedFloat.unpack Format.binary64 x.toModel.toBits.toBitVec := rfl
    rw [unpack, decide_eq_true_iff]
    rcases shape with ⟨zero, eq⟩ | ⟨mantissa, exponent, pos, size, eq⟩
    · rw [eq]
      exact iff_of_true rfl (.inr zero)
    · rw [eq, ← size, signed]
      by_cases minus : twoTo 63 ≤ x.toModel.toBits.toBitVec.toNat
      · rw [if_pos minus]
        exact iff_of_true rfl (.inl minus)
      · rw [if_neg minus]
        refine iff_of_false Bool.false_ne_true ?_
        rintro (negative | zero)
        · exact minus negative
        · exact Nat.ne_of_gt pos zero

theorem Magnitude.toRatio_pos (m : Magnitude) :
    0 < m.toRatio.2 ∧ (m.toRatio.1 = 0 ↔ m.mantissa = 0) := by
  unfold toRatio
  split
  · refine ⟨Nat.one_pos, ?_⟩
    have pos := twoTo_pos m.exponent.toNat
    rw [Nat.mul_eq_zero]
    omega
  · exact ⟨twoTo_pos _, Iff.rfl⟩

/-- A binary64 number that equals an integer lies on the same side of zero. -/
theorem float_nonpos_iff_of_integer {x : Float} {n : Int} (h : integerOfFloat? x = some n) :
    x ≤ 0.0 ↔ n ≤ 0 := by
  unfold integerOfFloat? truncated? at h
  cases parts : finiteParts? x with
  | none =>
    rw [parts] at h
    cases h
  | some found =>
    obtain ⟨negative, m⟩ := found
    rw [parts] at h
    dsimp only [Option.map] at h
    split at h
    next whole =>
      obtain ⟨den_pos, zero⟩ := m.toRatio_pos
      have exact : m.toRatio.2 * (m.toRatio.1 / m.toRatio.2) = m.toRatio.1 :=
        Nat.mul_div_cancel' (Nat.dvd_of_mod_eq_zero whole)
      have none_left : m.toRatio.1 / m.toRatio.2 = 0 ↔ m.mantissa = 0 := by
        rw [← zero, ← exact, Nat.mul_eq_zero, exact]
        omega
      have cast : (m.toRatio.1 : Int) / m.toRatio.2 = (m.toRatio.1 / m.toRatio.2 : Nat) :=
        (Int.natCast_ediv _ _).symm
      rw [float_nonpos_iff parts, ← none_left]
      rw [cast] at h
      -- The quotient is opaque from here on; it stands for the size of the integer.
      generalize m.toRatio.1 / m.toRatio.2 = whole_part at h ⊢
      cases negative with
      | true =>
        cases h
        simp only [if_true, true_or, true_iff]
        omega
      | false =>
        cases h
        simp only [Bool.false_eq_true, if_false, false_or]
        omega
    next => cases h

namespace Dimension

theorem agree_iff {α : Type} [Scalar α] {n : Int} {x : α} :
    agree n x = true ↔ Scalar.toInt? x = some n ∧ Scalar.ofInt? n = some x := by
  unfold agree
  rw [Bool.and_eq_true, beq_iff_eq, beq_iff_eq]

theorem eq_of_sameValue_real {α : Type} [Scalar α] {x y : α}
    (h : (real x).sameValue (real y) = true) : x = y := by
  unfold sameValue at h
  rw [Bool.and_eq_true, beq_iff_eq] at h
  exact h.1

/-- Lengths of the same value are the same scalar, on the same side of zero. -/
theorem eq_of_sameValue {s t : Dimension Float} (h : s.sameValue t = true) :
    s.isNonpositive = t.isNonpositive ∧ s.toScalar? = t.toScalar? := by
  have mixed {n : Int} {x : Float} (h : agree n x = true) :
      (whole n : Dimension Float).isNonpositive = (real x).isNonpositive ∧
        (whole n : Dimension Float).toScalar? = (real x).toScalar? := by
    obtain ⟨integer, scalar⟩ := agree_iff.mp h
    have side : x ≤ 0.0 ↔ n ≤ 0 := float_nonpos_iff_of_integer integer
    exact ⟨decide_eq_decide.mpr side.symm, scalar⟩
  cases s with
  | whole m =>
    cases t with
    | whole n =>
      obtain rfl : m = n := beq_iff_eq.mp h
      exact ⟨rfl, rfl⟩
    | real y => exact mixed h
  | real x =>
    cases t with
    | whole n => exact ⟨(mixed h).1.symm, (mixed h).2.symm⟩
    | real y =>
      obtain rfl : x = y := eq_of_sameValue_real h
      exact ⟨rfl, rfl⟩

end Dimension

/-- A box is fitted to canvases of the same size alike. -/
theorem Scale.fit_of_sameValue {box : Box Float} {size size' : Size Float} {base : Float}
    (same : size.sameValue size' = true) {scale : Scale Float}
    (fits : Scale.fit box size base = .ok scale) : Scale.fit box size' base = .ok scale := by
  unfold Size.sameValue at same
  rw [Bool.and_eq_true] at same
  obtain ⟨width_side, width⟩ := Dimension.eq_of_sameValue same.1
  obtain ⟨height_side, height⟩ := Dimension.eq_of_sameValue same.2
  unfold Scale.fit at *
  rw [width_side, height_side] at fits
  split at fits
  next => cases fits
  next positive =>
    rw [if_neg positive]
    have side : (if box.height < box.width then size.width else size.height).toScalar?
        = (if box.height < box.width then size'.width else size'.height).toScalar? := by
      split
      · exact width
      · exact height
    dsimp only at *
    rw [← side]
    exact fits

end LSystems
