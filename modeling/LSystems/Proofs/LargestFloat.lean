import LSystems.Rounding
import Mathlib.Tactic.SplitIfs

namespace LSystems

namespace Magnitude

/-- The last bit of a ratio stands no higher than a power of two when the ratio lies below the
power 53 bits further up. -/
theorem lastBit_le_iff {num den k : Nat} (den_pos : 0 < den) :
    lastBit num den ≤ k ↔ num < den * twoTo (53 + k) := by
  by_cases zero : num = 0
  · rw [zero]
    exact iff_of_true (by unfold lastBit leastExponent; rw [if_pos rfl]; omega)
      (Nat.mul_pos den_pos (twoTo_pos _))
  have num_le : twoTo num.log2 ≤ num := Nat.log2_self_le zero
  have num_lt : num < twoTo (num.log2 + 1) := Nat.lt_log2_self
  have den_le : twoTo den.log2 ≤ den := Nat.log2_self_le (Nat.ne_of_gt den_pos)
  have den_lt : den < twoTo (den.log2 + 1) := Nat.lt_log2_self
  unfold lastBit leastExponent
  rw [if_neg zero]
  dsimp only
  generalize estimated : max (-1074 : Int) ((num.log2 : Int) - den.log2 - 53) = estimate
  rcases Int.lt_trichotomy estimate k with low | rfl | high
  · -- The estimate is at most one bit too low.
    have small : num < den * twoTo (53 + k) := by
      calc
        num < twoTo (num.log2 + 1) := num_lt
        _ ≤ twoTo (den.log2 + (53 + k)) := twoTo_le_twoTo (by omega)
        _ = twoTo den.log2 * twoTo (53 + k) := twoTo_add _ _
        _ ≤ den * twoTo (53 + k) := Nat.mul_le_mul_right _ den_le
    refine iff_of_true ?_ small
    split <;> omega
  · have scaled : descale num den k = (num, den * twoTo k) := if_pos (Int.natCast_nonneg k)
    have split : den * twoTo (53 + k) = twoTo 53 * (den * twoTo k) := by
      rw [twoTo_add, Nat.mul_left_comm]
    have unit_pos : 0 < den * twoTo k := Nat.mul_pos den_pos (twoTo_pos k)
    rw [scaled, split, ← Nat.div_lt_iff_lt_mul unit_pos]
    dsimp only
    split_ifs with short
    · exact iff_of_true (Int.le_refl _) short
    · exact iff_of_false (by omega) short
  · have large : den * twoTo (53 + k) ≤ num := by
      calc
        den * twoTo (53 + k) ≤ twoTo (den.log2 + 1) * twoTo (53 + k) :=
          Nat.mul_le_mul_right _ (Nat.le_of_lt den_lt)
        _ = twoTo (den.log2 + 1 + (53 + k)) := (twoTo_add _ _).symm
        _ ≤ twoTo num.log2 := twoTo_le_twoTo (by omega)
        _ ≤ num := num_le
    refine iff_of_false ?_ (Nat.not_lt.mpr large)
    split <;> omega

theorem roundHalfEven_eq_succ_iff {num half q : Nat} (odd : q % 2 = 1)
    (below : num < (q + 1) * (2 * half)) :
    roundHalfEven num (2 * half) = q + 1 ↔ q * (2 * half) + half ≤ num := by
  have parts : num % (2 * half) + num / (2 * half) * (2 * half) = num := Nat.mod_add_div' _ _
  have quotient : num / (2 * half) < q + 1 := Nat.div_lt_of_lt_mul (Nat.mul_comm _ _ ▸ below)
  have pos : 0 < 2 * half := by
    apply Nat.pos_of_ne_zero
    intro zero
    rw [zero] at below
    exact Nat.not_lt_zero _ below
  have rest : num % (2 * half) < 2 * half := Nat.mod_lt _ pos
  unfold roundHalfEven
  dsimp only
  rcases Nat.lt_or_eq_of_le (Nat.le_of_lt_succ quotient) with less | equal
  · have short : (num / (2 * half) + 1) * (2 * half) ≤ q * (2 * half) := Nat.mul_le_mul_right _ less
    rw [Nat.succ_mul] at short
    split <;> omega
  · rw [equal] at parts ⊢
    split <;> omega

/-- A ratio has no nearest number when its last bit stands too high, be it only by a carry. -/
theorem nearest?_eq_none_iff_lastBit {num den : Nat} :
    nearest? num den = none ↔ 971 < lastBit num den ∨
      lastBit num den = 971 ∧ roundHalfEven num (den * twoTo 971) = twoTo 53 := by
  obtain ⟨unit, coarse⟩ : ∃ unit, den * twoTo 971 = unit := ⟨_, rfl⟩
  have shifted : descale num den 971 = (num, unit) := by
    rw [← coarse]
    rfl
  rw [coarse]
  unfold nearest?
  generalize lastBit num den = last
  obtain low | middle | high : last < 971 ∨ last = 971 ∨ 971 < last := by omega
  · dsimp only
    split
    · rw [if_pos (by dsimp only; omega)]
      exact iff_of_false nofun (by omega)
    · rw [if_pos (by dsimp only; omega)]
      exact iff_of_false nofun (by omega)
  · rw [← middle] at shifted
    dsimp only
    rw [shifted]
    dsimp only
    split
    next up =>
      rw [if_neg (by dsimp only; omega)]
      exact iff_of_true rfl (.inr ⟨middle, up⟩)
    next down =>
      rw [if_pos (by dsimp only; omega)]
      exact iff_of_false nofun (by omega)
  · dsimp only
    split
    · rw [if_neg (by dsimp only; omega)]
      exact iff_of_true rfl (.inl high)
    · rw [if_neg (by dsimp only; omega)]
      exact iff_of_true rfl (.inl high)

/-- Halfway between the largest binary64 number and the next power of two begins what has no
nearest one. -/
theorem nearest?_eq_none_iff {num den : Nat} (den_pos : 0 < den) :
    nearest? num den = none ↔ den * (twoTo 1024 - twoTo 970) ≤ num := by
  obtain ⟨half, unit⟩ : ∃ half, den * twoTo 970 = half := ⟨_, rfl⟩
  have limit : den * (twoTo 1024 - twoTo 970) = (2 ^ 53 - 1) * (2 * half) + half := by
    have parts : twoTo 1024 - twoTo 970 = (2 ^ 54 - 1) * twoTo 970 := by decide +kernel
    rw [parts, Nat.mul_left_comm, unit]
    omega
  have within : lastBit num den ≤ (970 : Nat) ↔ num < 2 ^ 53 * half := by
    have power : twoTo (53 + 970) = 2 ^ 53 * twoTo 970 := by decide +kernel
    rw [lastBit_le_iff den_pos, power, Nat.mul_left_comm, unit]
  have reached : lastBit num den ≤ (971 : Nat) ↔ num < 2 ^ 54 * half := by
    have power : twoTo (53 + 971) = 2 ^ 54 * twoTo 970 := by decide +kernel
    rw [lastBit_le_iff den_pos, power, Nat.mul_left_comm, unit]
  have coarse : den * twoTo 971 = 2 * half := by
    have power : twoTo 971 = 2 * twoTo 970 := by decide +kernel
    rw [power, Nat.mul_left_comm, unit]
  rw [nearest?_eq_none_iff_lastBit, limit, coarse]
  by_cases below : num < 2 ^ 54 * half
  · have carries : roundHalfEven num (2 * half) = twoTo 53 ↔
        (2 ^ 53 - 1) * (2 * half) + half ≤ num := by
      have next : twoTo 53 = (2 ^ 53 - 1) + 1 := by decide +kernel
      rw [next]
      exact roundHalfEven_eq_succ_iff (by decide) (by omega)
    rw [carries]
    omega
  · omega

theorem exists_nearest?_iff {num den : Nat} (den_pos : 0 < den) :
    (∃ m, nearest? num den = some m) ↔ num < den * (twoTo 1024 - twoTo 970) := by
  rw [← Option.ne_none_iff_exists', ne_eq, nearest?_eq_none_iff den_pos, Nat.not_le]

/-- A number well below the largest one has a nearest binary64 number, whatever divides it. -/
theorem exists_nearest {num den k : Nat} (den_pos : 0 < den) (hk : k ≤ 1020) (h : num < twoTo k) :
    ∃ m, nearest? num den = some m := by
  apply (exists_nearest?_iff den_pos).mpr
  calc
    num < twoTo k := h
    _ ≤ twoTo 1020 := twoTo_le_twoTo hk
    _ ≤ twoTo 1024 - twoTo 970 := by decide +kernel
    _ ≤ den * (twoTo 1024 - twoTo 970) := Nat.le_mul_of_pos_left _ den_pos

end Magnitude

theorem floatOfInt?_eq_none_iff {n : Int} :
    floatOfInt? n = none ↔ twoTo 1024 - twoTo 970 ≤ n.natAbs := by
  unfold floatOfInt?
  rw [Option.map_eq_none_iff, Magnitude.nearest?_eq_none_iff Nat.one_pos, Nat.one_mul]

end LSystems
