import LSystems.Turtle
import Mathlib.Data.Nat.Log
import Mathlib.Tactic.NormNum
import Mathlib.Tactic.SplitIfs

open Float.Model

namespace LSystems

theorem shiftRight_mantissa (em : UnpackedFloat.ExtendedMantissa) (k : Nat) :
    (em >>> k).mantissa = em.mantissa / 2 ^ k := by
  induction k with
  | zero => exact (Nat.div_one em.mantissa).symm
  | succ k ih =>
    have halved : (em >>> (k + 1)).mantissa = (em >>> k).mantissa / 2 := rfl
    rw [halved, ih, Nat.div_div_eq_div_mul, Nat.pow_succ]

theorem ofMantissaAndAccuracy_mantissa (m : Nat) (accuracy : UnpackedFloat.Accuracy) :
    (UnpackedFloat.ExtendedMantissa.ofMantissaAndAccuracy m accuracy).mantissa = m := by
  cases accuracy with
  | exact => rfl
  | inexact order => cases order <;> rfl

theorem roundToNearestEven_le (m : Nat) (accuracy : UnpackedFloat.Accuracy) :
    accuracy.roundToNearestEven m ≤ m + 1 := by
  unfold UnpackedFloat.Accuracy.roundToNearestEven
  split <;> omega

theorem roundedMantissa_le (m : Nat) (exponent target : Int) (accuracy : UnpackedFloat.Accuracy)
    (le : totalExponent m exponent - 53 ≤ target) :
    (UnpackedFloat.shiftToExponent m exponent accuracy target).1.roundedMantissa ≤ 2 ^ 53 := by
  let k := (target - exponent).toNat
  have bits : m < 2 ^ (m.log2 + 1) := Nat.lt_log2_self
  have few : m.log2 + 1 ≤ 53 + k := by
    unfold totalExponent at le
    omega
  have short : m / 2 ^ k < 2 ^ 53 := by
    rw [Nat.div_lt_iff_lt_mul (Nat.two_pow_pos k), ← Nat.pow_add]
    exact bits.trans_le (Nat.pow_le_pow_right Nat.two_pos few)
  have shifted :
      (UnpackedFloat.shiftToExponent m exponent accuracy target).1.mantissa = m / 2 ^ k := by
    unfold UnpackedFloat.shiftToExponent
    dsimp only
    rw [shiftRight_mantissa, ofMantissaAndAccuracy_mantissa]
  have rounded := roundToNearestEven_le (m / 2 ^ k)
    (UnpackedFloat.shiftToExponent m exponent accuracy target).1.accuracy
  unfold UnpackedFloat.ExtendedMantissa.roundedMantissa
  rw [shifted]
  omega

theorem shiftToExponent_exponent (m : Nat) (exponent target : Int)
    (accuracy : UnpackedFloat.Accuracy) :
    (UnpackedFloat.shiftToExponent m exponent accuracy target).2 = max exponent target := by
  unfold UnpackedFloat.shiftToExponent
  dsimp only
  omega

/-- What is below the largest power of two is rounded to zero or to an exponent in range. -/
theorem roundWithAccuracy_cases (sign : UnpackedFloat.Sign) (m : Nat) (exponent : Int)
    (accuracy : UnpackedFloat.Accuracy) (low : exponent ≤ 970)
    (below : totalExponent m exponent ≤ 1023) :
    UnpackedFloat.roundWithAccuracy Format.binary64 sign m exponent accuracy = .zero sign ∨
      ∃ m' exponent' pos, exponent' ≤ 971 ∧
        UnpackedFloat.roundWithAccuracy Format.binary64 sign m exponent accuracy
          = .finite sign m' exponent' pos := by
  let first := UnpackedFloat.shiftToTargetExponent Format.binary64 m exponent accuracy
  let last := UnpackedFloat.shiftToTargetExponent Format.binary64 first.1.roundedMantissa first.2
    .exact
  -- Rounding up may carry into a new bit, so what the first shift leaves is shifted once more.
  have begun : first.2 = max exponent (max (totalExponent m exponent - 53) (-1074)) :=
    shiftToExponent_exponent m exponent _ accuracy
  have short : first.1.roundedMantissa ≤ 2 ^ 53 :=
    roundedMantissa_le m exponent _ accuracy (le_max_left _ _)
  have ended : last.2
      = max first.2 (max (totalExponent first.1.roundedMantissa first.2 - 53) (-1074)) :=
    shiftToExponent_exponent first.1.roundedMantissa first.2 _ .exact
  have bits : first.1.roundedMantissa.log2 ≤ 53 := by
    rw [← Nat.log2_two_pow (n := 53), Nat.log2_eq_log_two, Nat.log2_eq_log_two]
    exact Nat.log_mono_right short
  have small : last.2 ≤ 971 := by
    unfold totalExponent at *
    omega
  by_cases nothing : last.1.mantissa = 0
  · exact .inl (dif_pos nothing)
  · exact .inr ⟨_, _, Nat.pos_of_ne_zero nothing, small, dif_neg nothing⟩

theorem isInf_unpack {b : BitVec 64}
    (proper : @UnpackedFloat.unpackExponent Format.binary64 b ≠ -1#_) :
    (UnpackedFloat.unpack Format.binary64 b).isInf = false := by
  unfold UnpackedFloat.unpack
  dsimp only
  rw [if_neg proper]
  by_cases subnormal : @UnpackedFloat.unpackExponent Format.binary64 b = 0#_
  · rw [if_pos subnormal]
    by_cases empty : @UnpackedFloat.unpackMantissa Format.binary64 b = 0#_
    · rw [dif_pos empty]
      rfl
    · rw [dif_neg empty]
      rfl
  · rw [if_neg subnormal]
    rfl

theorem unpackExponent_pack_finite (sign : UnpackedFloat.Sign) {m : Nat} {exponent : Int}
    (pos : 0 < m) (small : exponent ≤ 971) :
    @UnpackedFloat.unpackExponent Format.binary64
      (pack (.finite sign m exponent pos)).toBits.toBitVec ≠ -1#_ := by
  unfold pack UnpackedFloat.pack
  dsimp only
  have bias : Format.binary64.exponentBias = 1023 := rfl
  have fits : ¬2 ^ Format.binary64.exponentBits
      ≤ (exponent + Format.binary64.exponentBias
          + Format.binary64.mantissaBitsWithoutImplicit).toNat + 1 := by
    rw [bias]
    norm_num
    omega
  rw [if_neg fits]
  split_ifs
  · rw [UnpackedFloat.unpackExponent_packComponents]
    intro full
    have field := congrArg BitVec.toNat full
    rw [bias] at field fits
    simp only [BitVec.toNat_ofNat] at field fits
    have ones : (-1#11 : BitVec 11).toNat = 2047 := rfl
    omega
  · rw [UnpackedFloat.unpackExponent_packComponents]
    decide

theorem isInf_pack_finite (sign : UnpackedFloat.Sign) {m : Nat} {exponent : Int} (pos : 0 < m)
    (small : exponent ≤ 971) : (pack (.finite sign m exponent pos)).isInf = false :=
  isInf_unpack (unpackExponent_pack_finite sign pos small)

theorem unpack_finite_bounds {b : BitVec 64} {sign : UnpackedFloat.Sign} {m : Nat} {exponent : Int}
    {pos : 0 < m} (h : UnpackedFloat.unpack Format.binary64 b = .finite sign m exponent pos) :
    m < 2 ^ 53 ∧ exponent ≤ 971 := by
  have fraction : (@UnpackedFloat.unpackMantissa Format.binary64 b).toNat < 2 ^ 52 := BitVec.isLt _
  have whole : (1#1 ++ @UnpackedFloat.unpackMantissa Format.binary64 b).toNat < 2 ^ 53 :=
    BitVec.isLt _
  have field : (@UnpackedFloat.unpackExponent Format.binary64 b).toNat < 2 ^ 11 := BitVec.isLt _
  have bias : (Format.binary64.exponentBias : Int) = 1023 := rfl
  unfold UnpackedFloat.unpack at h
  dsimp only at h
  rw [bias] at h
  by_cases full : @UnpackedFloat.unpackExponent Format.binary64 b = -1#_
  · rw [if_pos full] at h
    by_cases empty : @UnpackedFloat.unpackMantissa Format.binary64 b = 0#_
    · rw [if_pos empty] at h
      cases h
    · rw [if_neg empty] at h
      cases h
  · rw [if_neg full] at h
    have proper : (@UnpackedFloat.unpackExponent Format.binary64 b).toNat ≠ 2047 :=
      fun top => full (BitVec.eq_of_toNat_eq top)
    by_cases subnormal : @UnpackedFloat.unpackExponent Format.binary64 b = 0#_
    · rw [if_pos subnormal] at h
      have zero : (@UnpackedFloat.unpackExponent Format.binary64 b).toNat = 0 :=
        congrArg BitVec.toNat subnormal
      by_cases empty : @UnpackedFloat.unpackMantissa Format.binary64 b = 0#_
      · rw [dif_pos empty] at h
        cases h
      · rw [dif_neg empty] at h
        injection h with _ mantissa size
        omega
    · rw [if_neg subnormal] at h
      injection h with _ mantissa size
      omega

theorem unpack_radiansPerDegree :
    radiansPerDegree.toModel.unpack = .finite .positive 5030569068109113 (-58) (by decide) := rfl

/-- A degree in radians is less than one, so a finite heading in degrees is finite in radians. -/
theorem isInf_mul_radiansPerDegree (x : Float) : (x * radiansPerDegree).isInf = x.isInf := by
  have product : (x * radiansPerDegree).isInf
      = (pack (UnpackedFloat.mul Format.binary64 x.toModel.unpack
          radiansPerDegree.toModel.unpack)).isInf := rfl
  have self : x.isInf = x.toModel.unpack.isInf := rfl
  rw [product, self, unpack_radiansPerDegree]
  cases shape : x.toModel.unpack with
  | notANumber => decide
  | infinity sign => cases sign <;> decide
  | zero sign => cases sign <;> decide
  | finite sign m exponent m_pos =>
    obtain ⟨short, low⟩ := unpack_finite_bounds shape
    -- A degree adds the 53 bits of its mantissa and takes 58 away by its exponent.
    have bits : (m * 5030569068109113).log2 < 106 := by
      rw [Nat.log2_lt (by omega)]
      omega
    have below : totalExponent (m * 5030569068109113) (exponent + -58) ≤ 1023 := by
      unfold totalExponent
      omega
    obtain zero | ⟨m', exponent', pos, small, finite⟩ :=
      roundWithAccuracy_cases (sign * .positive) _ _ .exact (by omega) below
    · have underflow : (pack (.zero (sign * .positive))).isInf = false := by
        cases sign <;> decide
      exact (congrArg (fun u => (pack u).isInf) zero).trans underflow
    · exact (congrArg (fun u => (pack u).isInf) finite).trans (isInf_pack_finite _ pos small)

theorem Compass.degrees_step?_eq_none_iff {heading : Float} :
    Compass.degrees.step? heading = none ↔ heading.isInf = true := by
  have same := isInf_mul_radiansPerDegree heading
  unfold Compass.degrees
  dsimp only
  rw [same]
  simp

end LSystems
