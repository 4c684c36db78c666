import Lanes.Number.Binary64
import Lanes.Random.Generator

/-!
# Wide draws

Draws from words of 64 bits, each made of two words of the stream, the low half first: a number
below a bound, and an event of a given probability.
-/
namespace Lanes.Generator

/-- The next word of 64 bits. -/
def nextWide (g : Generator) : Nat × Generator :=
  let low := g.next
  let high := low.2.next
  (high.1.toNat * 0x100000000 + low.1.toNat, high.2)

/-- A number below `bound`, which is at most `2 ^ 64`. -/
def belowWide (g : Generator) (bound : Nat) : Nat × Generator :=
  let first := g.nextWide
  let product := first.1 * bound
  let high := product / 0x10000000000000000
  let low := product % 0x10000000000000000
  if 0x10000000000000000 - bound < low then
    let second := first.2.nextWide
    let carry := low + second.1 * bound / 0x10000000000000000
    (if 0x10000000000000000 ≤ carry then high + 1 else high, second.2)
  else (high, first.2)

/-- Whether an event happens that has the given probability. What is certain is not drawn. -/
def chance (g : Generator) (probability : Binary64) : Bool × Generator :=
  let threshold := probability.scaledDown 64
  if 0x10000000000000000 ≤ threshold then (true, g)
  else
    let drawn := g.nextWide
    (drawn.1 < threshold, drawn.2)

theorem nextWide_lt (g : Generator) : g.nextWide.1 < 0x10000000000000000 := by
  have low : g.next.1.toNat < 0x100000000 := UInt32.toNat_lt _
  have high : g.next.2.next.1.toNat < 0x100000000 := UInt32.toNat_lt _
  simp only [nextWide]
  omega

/-- A wide draw stays below its bound. -/
theorem belowWide_lt (g : Generator) {bound : Nat} (pos : 0 < bound) :
    (g.belowWide bound).1 < bound := by
  have scaled := scaled_lt g.nextWide_lt pos
  simp only [belowWide, apply_ite Prod.fst]
  exact scaled _

end Lanes.Generator
