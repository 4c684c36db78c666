import Lanes.Random.ChaCha
import Lanes.Random.Key

/-!
# Drawing numbers

A generator is an infinite stream of words together with the number of words used so far. Draws
below a bound take the high half of the product of a word and the bound, and consult a second word
only where the low half leaves the result in doubt.
-/
namespace Lanes

/-- A stream of words, some of which are used up. -/
structure Generator where
  stream : Nat → UInt32
  used : Nat

namespace Generator

/-- The generator that a seed starts. -/
def seeded (seed : UInt64) : Generator :=
  let key := Random.key seed
  ⟨fun n => ChaCha.word key n, 0⟩

/-- The next word. -/
def next (g : Generator) : UInt32 × Generator :=
  (g.stream g.used, { g with used := g.used + 1 })

/-- A number below `bound`, which is at most `2 ^ 32`. -/
def below (g : Generator) (bound : Nat) : Nat × Generator :=
  let first := g.next
  let product := first.1.toNat * bound
  let high := product / 0x100000000
  let low := product % 0x100000000
  if 0x100000000 - bound < low then
    let second := first.2.next
    let carry := low + second.1.toNat * bound / 0x100000000
    (if 0x100000000 ≤ carry then high + 1 else high, second.2)
  else (high, first.2)

/-! ### Bounds -/

/-- With the greatest result the low part is never in doubt, so the carry stays in range. -/
theorem high_add_one_lt {size product bound : Nat} (top : product ≤ (size - 1) * bound)
    (doubt : size - bound < product % size) : product / size + 1 < bound := by
  have split := Nat.div_add_mod product size
  have scaled : bound ≤ product / size + 1 → size * bound ≤ size * (product / size) + size :=
    Nat.mul_le_mul_left size
  rw [Nat.sub_one_mul] at top
  omega

theorem high_lt {size product bound : Nat} (some : 0 < size) (pos : 0 < bound)
    (top : product ≤ (size - 1) * bound) : product / size < bound := by
  refine Nat.div_lt_of_lt_mul (Nat.lt_of_le_of_lt top ?_)
  exact Nat.mul_lt_mul_of_pos_right (Nat.sub_lt some Nat.one_pos) pos

/-- A word below `size`, scaled down to a bound, stays below it, whatever is carried. -/
theorem scaled_lt {size word bound : Nat} (small : word < size) (pos : 0 < bound) (carried : Nat) :
    (if size - bound < word * bound % size then
      if size ≤ carried then word * bound / size + 1 else word * bound / size
    else word * bound / size) < bound := by
  have top : word * bound ≤ (size - 1) * bound := Nat.mul_le_mul_right _ (Nat.le_pred_of_lt small)
  have high : word * bound / size < bound := high_lt (Nat.zero_lt_of_lt small) pos top
  split
  · next doubt =>
    split
    · exact high_add_one_lt top doubt
    · exact high
  · exact high

/-- A draw stays below its bound. -/
theorem below_lt (g : Generator) {bound : Nat} (pos : 0 < bound) :
    (g.below bound).1 < bound := by
  unfold below
  rw [apply_ite Prod.fst]
  exact scaled_lt (g.stream g.used).toNat_lt pos _

end Generator
end Lanes
