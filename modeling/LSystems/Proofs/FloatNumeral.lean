import LSystems.Numeral
import LSystems.Proofs.InfiniteHeading
import LSystems.Proofs.RoundedUp
import LSystems.Proofs.SameSize

open Float.Model

namespace LSystems

section
variable {num den : Nat}

theorem descale_pos (den_pos : 0 < den) (exponent : Int) : 0 < (descale num den exponent).2 := by
  unfold descale
  split_ifs
  · exact Nat.mul_pos den_pos (twoTo_pos _)
  · exact den_pos

/-- A ratio divided by a power of two lies below another power when its bits say so. -/
theorem descale_lt {k : Nat} {exponent : Int} (den_pos : 0 < den)
    (bits : (num.log2 : Int) + 1 ≤ k + den.log2 + exponent) :
    (descale num den exponent).1 < twoTo k * (descale num den exponent).2 := by
  have num_lt : num < twoTo (num.log2 + 1) := Nat.lt_log2_self
  have den_le : twoTo den.log2 ≤ den := Nat.log2_self_le (Nat.ne_of_gt den_pos)
  unfold descale
  split_ifs with up
  · calc
      num < twoTo (num.log2 + 1) := num_lt
      _ ≤ twoTo (k + (den.log2 + exponent.toNat)) := twoTo_le_twoTo (by omega)
      _ = twoTo k * (twoTo den.log2 * twoTo exponent.toNat) := by rw [twoTo_add, twoTo_add]
      _ ≤ twoTo k * (den * twoTo exponent.toNat) :=
        Nat.mul_le_mul_left _ (Nat.mul_le_mul_right _ den_le)
  · calc
      num * twoTo (-exponent).toNat < twoTo (num.log2 + 1) * twoTo (-exponent).toNat :=
        Nat.mul_lt_mul_of_pos_right num_lt (twoTo_pos _)
      _ = twoTo (num.log2 + 1 + (-exponent).toNat) := (twoTo_add _ _).symm
      _ ≤ twoTo (k + den.log2) := twoTo_le_twoTo (by omega)
      _ = twoTo k * twoTo den.log2 := twoTo_add _ _
      _ ≤ twoTo k * den := Nat.mul_le_mul_left _ den_le

namespace Magnitude

theorem leastExponent_le_lastBit (num den : Nat) : leastExponent ≤ lastBit num den := by
  unfold lastBit
  split_ifs
  · exact Int.le_refl _
  · dsimp only
    split <;> omega

/-- What stands above the last bit has at most 53 bits. -/
theorem descale_lastBit_lt (den_pos : 0 < den) :
    (descale num den (lastBit num den)).1 < twoTo 53 * (descale num den (lastBit num den)).2 := by
  by_cases zero : num = 0
  · have last : lastBit num den = -1074 := if_pos zero
    have scaled : descale num den (-1074) = (num * twoTo 1074, den) := if_neg (by decide)
    rw [last, scaled, zero, Nat.zero_mul]
    exact Nat.mul_pos (twoTo_pos 53) den_pos
  · unfold lastBit leastExponent
    rw [if_neg zero]
    dsimp only
    generalize estimated : max (-1074 : Int) ((num.log2 : Int) - den.log2 - 53) = estimate
    split
    next short => exact (Nat.div_lt_iff_lt_mul (descale_pos den_pos estimate)).mp short
    next => exact descale_lt den_pos (by omega)

/-- The bits of a magnitude that a ratio is rounded to are those of a finite number. -/
theorem toBits_lt_of_nearest {m : Magnitude} (den_pos : 0 < den)
    (nearest : nearest? num den = some m) : m.toBits < (twoTo 11 - 1) * twoTo 52 := by
  have least := leastExponent_le_lastBit num den
  have rounded : roundHalfEven (descale num den (lastBit num den)).1
      (descale num den (lastBit num den)).2 ≤ twoTo 53 :=
    roundHalfEven_le (descale_pos den_pos _) (Nat.le_of_lt (descale_lastBit_lt den_pos))
  have power : twoTo 53 = 2 * twoTo 52 := twoTo_add 1 52
  have field : twoTo 11 - 1 = 2045 + 2 := rfl
  have sum : (2045 + 2) * twoTo 52 = 2045 * twoTo 52 + twoTo 53 := by rw [Nat.add_mul, power]
  have normal := twoTo_pos 52
  unfold leastExponent at least
  unfold nearest? at nearest
  dsimp only at nearest
  generalize roundHalfEven (descale num den (lastBit num den)).1
    (descale num den (lastBit num den)).2 = mantissa at nearest rounded
  generalize lastBit num den = last at nearest least
  unfold toBits leastExponent
  rw [field, sum]
  -- Rounding up may carry into a new bit, which the next exponent takes up.
  by_cases carries : mantissa = twoTo 53
  · rw [if_pos carries] at nearest
    dsimp only at nearest
    split at nearest
    next high =>
      obtain rfl := Option.some.inj nearest
      have place : (last + 1 - -1074).toNat * twoTo 52 ≤ 2045 * twoTo 52 :=
        Nat.mul_le_mul_right _ (by omega)
      dsimp only
      omega
    next => cases nearest
  · rw [if_neg carries] at nearest
    dsimp only at nearest
    split at nearest
    next high =>
      obtain rfl := Option.some.inj nearest
      have place : (last - -1074).toNat * twoTo 52 ≤ 2045 * twoTo 52 :=
        Nat.mul_le_mul_right _ (by omega)
      dsimp only
      omega
    next => cases nearest

end Magnitude

end

theorem isNaN_unpack {b : BitVec 64}
    (proper : @UnpackedFloat.unpackExponent Format.binary64 b ≠ -1#_) :
    (UnpackedFloat.unpack Format.binary64 b).isNaN = false := by
  unfold UnpackedFloat.unpack
  dsimp only
  rw [if_neg proper]
  by_cases subnormal : @UnpackedFloat.unpackExponent Format.binary64 b = 0#_
  · rw [if_pos subnormal]
    by_cases empty : @UnpackedFloat.unpackMantissa Format.binary64 b = 0#_
    · rw [dif_pos empty]
      rfl
    · rw [dif_neg empty]
      rfl
  · rw [if_neg subnormal]
    rfl

/-- Bits whose exponent field is not full stand for a number. -/
theorem isNaN_ofBits {u : UInt64} (finite : u.toNat / twoTo 52 % twoTo 11 ≠ twoTo 11 - 1) :
    (Float.ofBits u).isNaN = false := by
  have self : (Float.ofBits u).isNaN
      = (pack (UnpackedFloat.unpack Format.binary64 u.toBitVec)).isNaN := rfl
  obtain ⟨sign, -, ⟨-, shape⟩ | ⟨mantissa, exponent, pos, -, shape⟩⟩ :=
    unpack_finite u.toBitVec finite
  · rw [self, shape]
    cases sign <;> decide
  · obtain ⟨-, small⟩ := unpack_finite_bounds shape
    rw [self, shape]
    exact isNaN_unpack (unpackExponent_pack_finite sign pos small)

theorem Magnitude.isNaN_toFloat {m : Magnitude} (small : m.toBits < (twoTo 11 - 1) * twoTo 52)
    (negative : Bool) : (m.toFloat negative).isNaN = false := by
  have unit : twoTo 52 = 4503599627370496 := rfl
  have field : twoTo 11 = 2048 := rfl
  have sign : twoTo 63 = 9223372036854775808 := rfl
  have size : UInt64.size = 18446744073709551616 := rfl
  apply isNaN_ofBits
  rw [unit, field] at small ⊢
  rw [sign]
  cases negative with
  | true =>
    rw [if_pos rfl, UInt64.toNat_ofNat_of_lt' (by omega)]
    omega
  | false =>
    rw [if_neg Bool.false_ne_true, UInt64.toNat_ofNat_of_lt' (by omega)]
    omega

theorem isNaN_infinite (negative : Bool) : (infinite negative).isNaN = false := by
  cases negative <;> decide +kernel

theorem isNaN_floatOfDecimal (negative : Bool) (digits : Nat) (exponent : Int) :
    (floatOfDecimal negative digits exponent).isNaN = false := by
  unfold floatOfDecimal
  dsimp only
  split_ifs
  · exact Magnitude.isNaN_toFloat (by decide +kernel) negative
  · exact isNaN_infinite negative
  · split
    next m nearest =>
      have small := Magnitude.toBits_lt_of_nearest Nat.one_pos nearest
      exact Magnitude.isNaN_toFloat small negative
    next => exact isNaN_infinite negative
  · split
    next m nearest =>
      have den_pos : 0 < tenTo (-exponent).toNat := Nat.pow_pos (by decide)
      have small := Magnitude.toBits_lt_of_nearest den_pos nearest
      exact Magnitude.isNaN_toFloat small negative
    next => exact isNaN_infinite negative

/-- A text that names what is no number: its letters in any case, with a sign or none, and blanks
around it. -/
def NamesNaN (text : String) : Prop :=
  String.ofList ((splitSign (stripWhere isNumeralBlank text.toList)).2.map Char.toLower) = "nan"

instance (text : String) : Decidable (NamesNaN text) :=
  inferInstanceAs (Decidable (_ = _))

/-- What is read from a text is a number unless the text names what is none. -/
theorem isNaN_readFloat?_iff {text : String} {x : Float} (read : readFloat? text = some x) :
    x.isNaN = true ↔ NamesNaN text := by
  unfold NamesNaN
  unfold readFloat? readSignedFloat? at read
  generalize splitSign (stripWhere isNumeralBlank text.toList) = parts at read ⊢
  obtain ⟨negative, body⟩ := parts
  dsimp only at read ⊢
  generalize String.ofList (body.map Char.toLower) = word at read ⊢
  by_cases endless : word = "inf" ∨ word = "infinity"
  · rw [if_pos endless] at read
    cases read
    have other : word ≠ "nan" := by
      rintro rfl
      obtain same | same := endless
      · cases (by decide : ¬"nan" = "inf") same
      · cases (by decide : ¬"nan" = "infinity") same
    rw [isNaN_infinite]
    exact iff_of_false Bool.false_ne_true other
  · rw [if_neg endless] at read
    by_cases named : word = "nan"
    · rw [if_pos named] at read
      cases read
      exact iff_of_true (by decide +kernel) named
    · rw [if_neg named] at read
      obtain ⟨⟨digits, exponent⟩, -, rfl⟩ := Option.map_eq_some_iff.mp read
      rw [isNaN_floatOfDecimal]
      exact iff_of_false Bool.false_ne_true named

theorem exists_readFloat?_of_namesNaN {text : String} (named : NamesNaN text) :
    ∃ x, readFloat? text = some x ∧ x.isNaN = true := by
  unfold NamesNaN at named
  unfold readFloat? readSignedFloat?
  generalize splitSign (stripWhere isNumeralBlank text.toList) = parts at named ⊢
  obtain ⟨negative, body⟩ := parts
  dsimp only at named ⊢
  rw [named, if_neg (by decide), if_pos rfl]
  exact ⟨_, rfl, by decide +kernel⟩

end LSystems
