/-!
# Rounding a quotient

`halfEven n d` is the integer nearest to `n / d`, an exact half going to the even neighbour. All
conversions between decimal and binary fractions round once, with this function.
-/
namespace Lanes.Rounding

/-- The integer nearest to `num / den`, ties to even. -/
def halfEven (num den : Nat) : Nat :=
  let floor := num / den
  let rest := 2 * (num % den)
  if rest < den then floor
  else if den < rest then floor + 1
  else if floor % 2 = 0 then floor else floor + 1

theorem floor_le_halfEven (num den : Nat) : num / den ≤ halfEven num den := by
  grind [halfEven]

theorem halfEven_le (num den : Nat) : halfEven num den ≤ num / den + 1 := by
  grind [halfEven]

/-- A quotient that is an integer is its own rounding. -/
theorem halfEven_mul {den : Nat} (h : 0 < den) (n : Nat) : halfEven (n * den) den = n := by
  simp [halfEven, h]

end Lanes.Rounding
