import Mathlib.Algebra.Order.Field.Basic
import Mathlib.Algebra.Order.Field.Power
import Mathlib.Algebra.Ring.Int.Parity
import Mathlib.Data.Rat.Cast.Order
import Mathlib.Tactic.FieldSimp
import Mathlib.Tactic.Linarith
import Mathlib.Tactic.NormNum
import Mathlib.Tactic.Positivity
import Mathlib.Tactic.Ring
import Lanes.Number.Binary64

/-!
# Exact values

The rational number that a bit pattern stands for is read off its sign, exponent and fraction, and
a rational number is rounded to the nearest integer, of two that are equally near to the even one.
Decoding to a mantissa and an exponent keeps the value, and rounding a quotient of natural numbers
finds this integer.
-/
namespace Lanes

/-! ### Rounding -/

namespace Rounding
variable {q : ℚ} {n m : ℤ}

/-- No integer is nearer to `q` than `n`, and if another one is as near, `n` is even. -/
structure NearestEven (q : ℚ) (n : ℤ) : Prop where
  nearest : ∀ k : ℤ, |q - n| ≤ |q - k|
  even : ∀ k : ℤ, k ≠ n → |q - k| = |q - n| → Even n

/-- Of two different integers one is at least half a unit away. -/
theorem one_le_add_of_ne {k : ℤ} (apart : k ≠ n) (q : ℚ) : 1 ≤ |q - k| + |q - n| := by
  have whole : (1 : ℚ) ≤ |(k : ℚ) - n| := by
    exact_mod_cast Int.one_le_abs (sub_ne_zero.mpr apart)
  calc (1 : ℚ) ≤ |(k : ℚ) - n| := whole
    _ ≤ |(k : ℚ) - q| + |q - n| := abs_sub_le ..
    _ = |q - k| + |q - n| := by rw [abs_sub_comm]

theorem NearestEven.of_error (near : |q - n| ≤ 1 / 2) (tie : |q - n| = 1 / 2 → Even n) :
    NearestEven q n := by
  constructor
  · intro k
    by_cases same : k = n
    · rw [same]
    · have apart := one_le_add_of_ne same q
      linarith
  · intro k other equal
    have apart := one_le_add_of_ne other q
    exact tie (by linarith)

/-- By parity: the middle between two even integers is an integer, and it is nearer than both. -/
theorem NearestEven.unique (h : NearestEven q n) (k : NearestEven q m) : n = m := by
  by_contra apart
  have equal : |q - n| = |q - m| := le_antisymm (h.nearest m) (k.nearest n)
  obtain ⟨middle, sum⟩ := (h.even m (Ne.symm apart) equal.symm).add (k.even n apart equal)
  have center : q = middle := by
    have total : (n : ℚ) + m = middle + middle := by exact_mod_cast sum
    rcases abs_eq_abs.mp equal with same | mirrored
    · exact absurd (by exact_mod_cast sub_right_injective same) apart
    · linarith
  have exact_ := h.nearest middle
  rw [center, sub_self, abs_zero, abs_nonpos_iff, sub_eq_zero] at exact_
  have exact' := k.nearest middle
  rw [center, sub_self, abs_zero, abs_nonpos_iff, sub_eq_zero] at exact'
  exact apart (by exact_mod_cast exact_.symm.trans exact')

theorem nearestEven_intCast (n : ℤ) : NearestEven n n :=
  .of_error (by simp) (by simp)

theorem nearestEven_halfEven (num : ℕ) {den : ℕ} (pos : 0 < den) :
    NearestEven (num / den) (halfEven num den : ℕ) := by
  have posQ : (0 : ℚ) < den := by exact_mod_cast pos
  have split : (num : ℚ) / den = (num / den : ℕ) + (num % den : ℕ) / den := by
    have whole : (num : ℚ) = den * (num / den : ℕ) + (num % den : ℕ) := by
      exact_mod_cast (Nat.div_add_mod num den).symm
    field_simp
    exact whole
  generalize rest : ((num % den : ℕ) : ℚ) / den = r at split
  have nonneg : 0 ≤ r := rest ▸ by positivity
  have proper : r < 1 := by
    rw [← rest, div_lt_one posQ]
    exact_mod_cast Nat.mod_lt num pos
  -- twice the rest is compared with the divisor, so the rest with a half
  have short : 2 * (num % den) < den ↔ r < 1 / 2 := by
    rw [← rest, div_lt_div_iff₀ posQ two_pos, one_mul, mul_comm]
    exact_mod_cast Iff.rfl
  have long : den < 2 * (num % den) ↔ 1 / 2 < r := by
    rw [← rest, div_lt_div_iff₀ two_pos posQ, one_mul, mul_comm]
    exact_mod_cast Iff.rfl
  have down : |(num : ℚ) / den - (num / den : ℕ)| = r := by
    rw [split, add_sub_cancel_left, abs_of_nonneg nonneg]
  have up : |(num : ℚ) / den - (num / den + 1 : ℕ)| = 1 - r := by
    rw [split, Nat.cast_add, Nat.cast_one, add_sub_add_left_eq_sub, abs_sub_comm,
      abs_of_pos (by linarith)]
  unfold halfEven
  dsimp only
  split_ifs with less more even
  all_goals refine .of_error ?_ ?_
  all_goals rw [Int.cast_natCast]
  · rw [down]
    exact (short.mp less).le
  · rw [down]
    exact fun half => absurd half (short.mp less).ne
  · rw [up]
    linarith [long.mp more]
  · rw [up]
    intro half
    linarith [long.mp more]
  · rw [down]
    linarith [mt long.mpr more]
  · exact fun _ => Int.even_coe_nat _ |>.mpr (Nat.even_iff.mpr even)
  · rw [up]
    linarith [mt short.mpr less]
  · intro _
    rw [Int.even_coe_nat]
    exact Nat.even_add_one.mpr (mt Nat.even_iff.mp even)

end Rounding

/-! ### Bit patterns -/

namespace Binary64

/-- The rational number that a pattern of a sign bit, eleven bits of an exponent and fifty-two of a
fraction stands for. The greatest exponent is that of the patterns that are no number. -/
def rational? (x : Binary64) : Option ℚ :=
  let word := x.bits.toBitVec
  let sign : ℚ := if word.msb then -1 else 1
  let exponent := (word.extractLsb' 52 11).toNat
  let fraction : ℚ := (word.extractLsb' 0 52).toNat / 2 ^ 52
  if exponent = 2047 then none
  else if exponent = 0 then some (sign * fraction * 2 ^ (-1022 : ℤ))
  else some (sign * (1 + fraction) * 2 ^ ((exponent : ℤ) - 1023))

/-- The number that a decoded pattern stands for. -/
def Value.rational? : Value → Option ℚ
  | nan | infinite _ => none
  | finite negative mantissa exponent =>
    some ((if negative then -1 else 1) * mantissa * 2 ^ exponent)

theorem rational?_value (x : Binary64) : x.value.rational? = x.rational? := by
  have sign : x.bits.toBitVec.msb = decide (0x8000000000000000 ≤ x.bits.toNat) := by
    rw [BitVec.msb_eq_decide]
    rfl
  have exponent : (x.bits.toBitVec.extractLsb' 52 11).toNat = x.bits.toNat / hiddenBit % 2048 := by
    rw [BitVec.extractLsb'_toNat, Nat.shiftRight_eq_div_pow]
    rfl
  have fraction : (x.bits.toBitVec.extractLsb' 0 52).toNat = x.bits.toNat % hiddenBit := by
    rw [BitVec.extractLsb'_toNat]
    rfl
  have scaled (least most : ℤ) (shift : least = most - 52) :
      (2 : ℚ) ^ least = 2 ^ most / 2 ^ 52 := by
    rw [shift, zpow_sub₀ two_ne_zero]
    rfl
  unfold rational? value
  simp only [sign, exponent, fraction]
  generalize x.bits.toNat % hiddenBit = f
  generalize x.bits.toNat / hiddenBit % 2048 = e
  by_cases special : e = 2047
  · by_cases infinite : f = 0 <;> simp [special, infinite, Value.rational?]
  · by_cases subnormal : e = 0
    · have power : (2 : ℚ) ^ leastExponent = 2 ^ (-1022 : ℤ) / 2 ^ 52 := scaled _ _ (by decide)
      simp only [subnormal, Value.rational?, if_true]
      refine congrArg some ?_
      rw [power]
      ring
    · have power : (2 : ℚ) ^ (leastExponent + (e - 1 : ℕ)) = 2 ^ ((e : ℤ) - 1023) / 2 ^ 52 :=
        scaled _ _ (by rw [leastExponent]; omega)
      simp only [if_neg special, if_neg subnormal, Value.rational?, hiddenBit, Nat.cast_add]
      refine congrArg some ?_
      rw [power]
      ring

/-! ### The unit interval -/

theorem mul_zpow_le_one_iff {mantissa : ℕ} (pos : 0 < mantissa) (exponent : ℤ) :
    (mantissa : ℚ) * 2 ^ exponent ≤ 1 ↔ exponent ≤ 0 ∧ mantissa ≤ 1 <<< (-exponent).toNat := by
  by_cases small : exponent ≤ 0
  · obtain ⟨k, rfl⟩ : ∃ k : ℕ, exponent = -k := ⟨(-exponent).toNat, by omega⟩
    rw [zpow_neg, zpow_natCast, mul_inv_le_iff₀ (by positivity), one_mul, Int.neg_neg,
      Int.toNat_natCast, Nat.one_shiftLeft]
    exact_mod_cast (and_iff_right small).symm
  · have whole : (1 : ℚ) ≤ mantissa := by exact_mod_cast pos
    have large : (1 : ℚ) < 2 ^ exponent := one_lt_zpow₀ one_lt_two (lt_of_not_ge small)
    refine iff_of_false (not_le_of_gt ?_) fun fits => small fits.1
    calc (1 : ℚ) < 2 ^ exponent := large
      _ ≤ mantissa * 2 ^ exponent := le_mul_of_one_le_left (by positivity) whole

/-- The members of the interval are the patterns that stand for the numbers in it. -/
theorem inUnitInterval_iff {x : Binary64} :
    x.inUnitInterval = true ↔ ∃ q, x.rational? = some q ∧ 0 ≤ q ∧ q ≤ 1 := by
  rw [← rational?_value, inUnitInterval]
  cases x.value with
  | nan => simp [Value.rational?]
  | infinite negative => simp [Value.rational?]
  | finite negative mantissa exponent =>
    simp only [Value.rational?, Option.some.injEq, exists_eq_left', decide_eq_true_iff]
    rcases Nat.eq_zero_or_pos mantissa with rfl | pos
    · simp
    have positive : (0 : ℚ) < mantissa * 2 ^ exponent := by positivity
    cases negative with
    | true => simp [pos.ne', positive.not_ge]
    | false => simp [pos.ne', positive.le, mul_zpow_le_one_iff pos]

end Binary64
end Lanes
