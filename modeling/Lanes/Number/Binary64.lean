import Lanes.Number.Rounding

/-!
# Binary floating-point numbers of 64 bits

A number is its bit pattern. `Binary64.value` reads the pattern as an exact value, a natural
mantissa times a power of two, and `Binary64.nearest` goes the other way, from a quotient of
natural numbers to the nearest pattern, ties to the even mantissa. All arithmetic is exact.
-/
namespace Lanes

/-- A floating-point number, given by its 64 bits. -/
structure Binary64 where
  bits : UInt64
  deriving DecidableEq, Repr

namespace Binary64

/-- What a bit pattern stands for: `finite s m e` is `m * 2 ^ e`, negated if `s` is set. -/
inductive Value where
  | nan
  | infinite (negative : Bool)
  | finite (negative : Bool) (mantissa : Nat) (exponent : Int)
  deriving DecidableEq, Repr

/-- Number of the fraction bits, `2 ^ 52` being the least normal mantissa. -/
def hiddenBit : Nat := 0x10000000000000

/-- The exponent that the subnormal numbers share. -/
def leastExponent : Int := -1074

def value (x : Binary64) : Value :=
  let raw := x.bits.toNat
  let negative := decide (0x8000000000000000 ≤ raw)
  let fraction := raw % hiddenBit
  let biased := raw / hiddenBit % 2048
  if biased = 2047 then
    if fraction = 0 then .infinite negative else .nan
  else if biased = 0 then .finite negative fraction leastExponent
  else .finite negative (hiddenBit + fraction) (leastExponent + (biased - 1 : Nat))

/-- Bits of the positive number with a mantissa of at most `2 ^ 53`; too large ones are infinite.
A mantissa of `2 ^ 53` carries into the exponent. -/
def magnitude (mantissa : Nat) (exponent : Int) : Nat :=
  if mantissa < hiddenBit then mantissa
  else min (2047 * hiddenBit) ((exponent - leastExponent).toNat * hiddenBit + mantissa)

/-- The exponent of two at which `num / den` has a mantissa of 53 bits, or the least exponent. -/
def exponentOf (num den : Nat) : Int :=
  let guess : Int := (num.log2 : Int) - den.log2
  let reached := if 0 ≤ guess then den <<< guess.toNat ≤ num else den ≤ num <<< (-guess).toNat
  max leastExponent ((if reached then guess else guess - 1) - 52)

/-- The number nearest to `num / den`, with the given sign. -/
def nearest (negative : Bool) (num den : Nat) : Binary64 :=
  let exponent := exponentOf num den
  let mantissa :=
    if 0 ≤ exponent then Rounding.halfEven num (den <<< exponent.toNat)
    else Rounding.halfEven (num <<< (-exponent).toNat) den
  let sign := if negative then 0x8000000000000000 else 0
  ⟨.ofNat (sign + if num = 0 then 0 else magnitude mantissa exponent)⟩

def infinity (negative : Bool) : Binary64 :=
  ⟨if negative then 0xfff0000000000000 else 0x7ff0000000000000⟩

def notANumber (negative : Bool) : Binary64 :=
  ⟨if negative then 0xfff8000000000000 else 0x7ff8000000000000⟩

/-- The magnitude of a number times `2 ^ places`, rounded down. -/
def scaledDown (x : Binary64) (places : Nat) : Nat :=
  match x.value with
  | .nan | .infinite _ => 0
  | .finite _ mantissa exponent =>
    let shift := exponent + places
    if 0 ≤ shift then mantissa <<< shift.toNat else mantissa >>> (-shift).toNat

/-- Membership in the closed interval from zero to one; both zeros belong to it. -/
def inUnitInterval (x : Binary64) : Bool :=
  match x.value with
  | .nan | .infinite _ => false
  | .finite negative mantissa exponent =>
    mantissa = 0 ∨ (!negative ∧ exponent ≤ 0 ∧ mantissa ≤ 1 <<< (-exponent).toNat)

end Binary64
end Lanes
