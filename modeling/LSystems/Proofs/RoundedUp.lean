import LSystems.Proofs.LargestFloat
import Mathlib.Algebra.Order.Floor.Div
import Mathlib.GroupTheory.GroupAction.Ring

namespace LSystems

variable {num den c : Nat}

theorem roundHalfEven_le (den_pos : 0 < den) (most : num ≤ c * den) :
    roundHalfEven num den ≤ c := by
  have parts : num % den + num / den * den = num := Nat.mod_add_div' _ _
  have quotient : num / den ≤ c := by
    apply Nat.div_le_of_le_mul
    rw [Nat.mul_comm]
    exact most
  unfold roundHalfEven
  dsimp only
  rcases Nat.lt_or_eq_of_le quotient with less | equal
  · split <;> omega
  · rw [equal] at parts ⊢
    have even : num % den = 0 := by omega
    rw [even, if_neg (by omega)]

theorem lt_roundHalfEven (den_pos : 0 < den) (more : 2 * (c * den) + den < 2 * num) :
    c < roundHalfEven num den := by
  have parts : num % den + num / den * den = num := Nat.mod_add_div' _ _
  have quotient : c ≤ num / den := by
    by_contra less
    have short : (num / den + 1) * den ≤ c * den := Nat.mul_le_mul_right den (by omega)
    have rest : num % den < den := Nat.mod_lt _ den_pos
    rw [Nat.succ_mul] at short
    omega
  unfold roundHalfEven
  dsimp only
  rcases Nat.lt_or_eq_of_le quotient with less | equal
  · split <;> omega
  · rw [← equal] at parts ⊢
    rw [if_pos (by omega)]
    exact Nat.lt_succ_self c

/-- A unit fine enough to part a ratio from the integers next to it. -/
theorem roundHalfEven_scaled_le_iff {unit : Nat} (den_pos : 0 < den) (fine : den < 2 * unit) :
    roundHalfEven (num * unit) den ≤ c * unit ↔ num ≤ den * c := by
  have scaled : c * unit * den = den * c * unit := by
    rw [Nat.mul_comm, Nat.mul_assoc]
  constructor
  · intro rounded
    by_contra above
    have past : den * c * unit + unit ≤ num * unit := by
      rw [← Nat.succ_mul]
      exact Nat.mul_le_mul_right unit (by omega)
    have rounded' : c * unit < roundHalfEven (num * unit) den := lt_roundHalfEven den_pos (by omega)
    omega
  · intro below
    apply roundHalfEven_le den_pos
    rw [scaled]
    exact Nat.mul_le_mul_right unit below

namespace Magnitude

theorem ceil_le_iff {m : Magnitude} (fraction : m.exponent < 0) :
    m.ceil ≤ c ↔ m.mantissa ≤ c * twoTo (-m.exponent).toNat := by
  have unit_pos := twoTo_pos (-m.exponent).toNat
  unfold ceil
  rw [if_neg (by omega), Nat.div_le_iff_le_mul_add_pred unit_pos, Nat.mul_comm c]
  omega

theorem lastBit_le (num den : Nat) :
    lastBit num den ≤ max leastExponent ((num.log2 : Int) - den.log2 - 53) + 1 := by
  unfold lastBit
  split_ifs
  · omega
  · dsimp only
    split <;> omega

/-- Where the last bit of a ratio stands well below the unit, rounding does not carry the ratio
past an integer. -/
theorem ceil_le_iff_of_nearest {m : Magnitude} (den_pos : 0 < den)
    (low : lastBit num den < -1) (fine : den < 2 * twoTo (-lastBit num den).toNat)
    (nearest : nearest? num den = some m) : m.ceil ≤ c ↔ num ≤ den * c := by
  rw [← roundHalfEven_scaled_le_iff den_pos fine]
  unfold nearest? at nearest
  generalize lastBit num den = last at low nearest ⊢
  have scaled : descale num den last = (num * twoTo (-last).toNat, den) := if_neg (by omega)
  dsimp only at nearest
  rw [scaled] at nearest
  dsimp only at nearest
  generalize roundHalfEven (num * twoTo (-last).toNat) den = mantissa at nearest ⊢
  by_cases carries : mantissa = twoTo 53
  · rw [if_pos carries, if_pos (by dsimp only; omega)] at nearest
    obtain rfl := Option.some.inj nearest
    have unit : twoTo (-last).toNat = twoTo 1 * twoTo (-(last + 1)).toNat := by
      rw [← twoTo_add]
      congr 1
      omega
    -- A carry writes the same size with another exponent.
    rw [ceil_le_iff (by dsimp only; omega), carries, unit]
    show twoTo 52 ≤ c * twoTo (-(last + 1)).toNat ↔ twoTo (1 + 52) ≤ _
    rw [twoTo_add, Nat.mul_left_comm]
    exact (Nat.mul_le_mul_left_iff (twoTo_pos 1)).symm
  · rw [if_neg carries, if_pos (by dsimp only; omega)] at nearest
    obtain rfl := Option.some.inj nearest
    exact ceil_le_iff (by dsimp only; omega)

/-- Below 2 ^ 53 a hundredth rounded up is the same whether or not it is read from a binary64
number. -/
theorem ceil_hundredth {m : Magnitude} (small : num < twoTo 53)
    (nearest : nearest? num 100 = some m) : m.ceil = num ⌈/⌉ 100 := by
  have bits : num.log2 < 53 := by
    by_cases zero : num = 0
    · rw [zero]
      decide
    · exact (Nat.log2_lt zero).mpr small
  have seven : Nat.log2 100 = 6 := by decide
  have last := lastBit_le num 100
  unfold leastExponent at last
  have fine : twoTo 6 ≤ twoTo (-lastBit num 100).toNat := twoTo_le_twoTo (by omega)
  have power : twoTo 6 = 64 := rfl
  apply eq_of_forall_ge_iff
  intro c
  rw [ceilDiv_le_iff_le_mul (by decide)]
  exact ceil_le_iff_of_nearest (by decide) (by omega) (by omega) nearest

end Magnitude

end LSystems
