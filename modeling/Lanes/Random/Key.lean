/-!
# Keys from seeds

A seed of 64 bits is stretched to the eight words of a key by a permuted congruential generator:
each step of the generator gives one word, a rotation of some of its high bits.
-/
namespace Lanes.Random

/-- One step of the congruential generator. -/
def advance (state : UInt64) : UInt64 :=
  state * 6364136223846793005 + 11634580027462260723

/-- The bits of `x` turned right by `n` places. -/
def rotateRight (x n : UInt32) : UInt32 :=
  (x >>> n) ||| (x <<< ((32 - n) % 32))

/-- The word that a state gives. -/
def wordOf (state : UInt64) : UInt32 :=
  rotateRight (((state >>> 18) ^^^ state) >>> 27).toUInt32 (state >>> 59).toUInt32

def stretch : Nat → UInt64 → List UInt32
  | 0, _ => []
  | n + 1, state =>
    let next := advance state
    wordOf next :: stretch n next

/-- The key of a seed. -/
def key (seed : UInt64) : List UInt32 := stretch 8 seed

end Lanes.Random
