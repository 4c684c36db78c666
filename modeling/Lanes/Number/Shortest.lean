import Lanes.Number.Binary64
import Lanes.Number.Decimal

/-!
# Shortest decimal texts of floating-point numbers

A number is written with the fewest significant digits that read back as the same number, and of
those with the nearest. `Shortest.digits` finds them on the decimal grids with 1 to 17 places, in
exact arithmetic; `Binary64.text` lays them out in positional notation.
-/
namespace Lanes

namespace Shortest

/-- A positive number as a quotient, with the ends of the interval of reals that round to it over
the same denominator. The ends belong to the interval if the mantissa is even. -/
structure Target where
  den : Nat
  value : Nat
  low : Nat
  high : Nat
  closed : Bool

/-- The rounding interval reaches half a unit to each side, but only a quarter downwards from a
power of two, where the spacing below is finer. -/
def Target.ofParts (mantissa : Nat) (exponent : Int) : Target :=
  let below :=
    if mantissa = Binary64.hiddenBit ∧ Binary64.leastExponent < exponent then 1 else 2
  let scale := if 0 ≤ exponent then 1 <<< exponent.toNat else 1
  ⟨4 * (if 0 ≤ exponent then 1 else 1 <<< (-exponent).toNat),
    4 * mantissa * scale, (4 * mantissa - below) * scale, (4 * mantissa + 2) * scale,
    mantissa % 2 = 0⟩

/-- Whether the quotient `num / den` rounds to the target. -/
def Target.holds (t : Target) (num den : Nat) : Bool :=
  let low := t.low * den
  let high := t.high * den
  let point := num * t.den
  if t.closed then low ≤ point ∧ point ≤ high else low < point ∧ point < high

/-- The point `n * 10 ^ k` as a quotient. -/
def gridPoint (n : Nat) (k : Int) : Nat × Nat :=
  if 0 ≤ k then (n * Decimal.tenTo k.toNat, 1) else (n, Decimal.tenTo (-k).toNat)

/-- The least `x` with the target below `10 ^ x`, sought upwards from `x`. -/
def decimalExponent (t : Target) : Nat → Int → Int
  | 0, x => x
  | fuel + 1, x =>
    let p := gridPoint 1 x
    if t.value * p.2 < p.1 * t.den then x else decimalExponent t fuel (x + 1)

/-- The target's neighbour on the grid of step `10 ^ k` that rounds to it, the nearer of the two
if both do, and the upper one if it lies half-way between them. -/
def onGrid (t : Target) (k : Int) : Option Nat :=
  let unit := gridPoint 1 k
  let floor := t.value * unit.2 / (t.den * unit.1)
  let lower := gridPoint floor k
  let upper := gridPoint (floor + 1) k
  let nearer := 2 * (t.value * unit.2) < (2 * floor + 1) * (t.den * unit.1)
  match t.holds lower.1 lower.2, t.holds upper.1 upper.2 with
  | true, true => some (if nearer then floor else floor + 1)
  | true, false => some floor
  | false, true => some (floor + 1)
  | false, false => none

/-- The first grid with a hit, from one significant place on: its point and its step. -/
def search (t : Target) (x : Int) : List Nat → Nat × Int
  | [] => (0, 0)
  | places :: rest =>
    let k := x - places
    match onGrid t k with
    | some n => (n, k)
    | none => search t x rest

/-- Digits `n` and a step `k` with `n * 10 ^ k` the shortest text of the number. Numbers lie
between `10 ^ -324` and `10 ^ 309`, and 17 places always tell two of them apart. -/
def digits (mantissa : Nat) (exponent : Int) : Nat × Int :=
  let t := Target.ofParts mantissa exponent
  search t (decimalExponent t 640 (-324)) (List.range' 1 17)

end Shortest

/-- The number `n * 10 ^ k` in positional notation, without a point if it is whole. -/
def Decimal.positional (n : Nat) (k : Int) : String :=
  if 0 ≤ k then toString (n * Decimal.tenTo k.toNat)
  else
    let unit := Decimal.tenTo (-k).toNat
    toString (n / unit) ++ Decimal.fraction (-k).toNat (n % unit)

/-- The text of a number: shortest digits, positional notation, the sign of zero kept. -/
def Binary64.text (x : Binary64) : String :=
  match x.value with
  | .nan => "NaN"
  | .infinite negative => if negative then "-inf" else "inf"
  | .finite negative mantissa exponent =>
    let sign := if negative then "-" else ""
    if mantissa = 0 then sign ++ "0"
    else
      let shortest := Shortest.digits mantissa exponent
      sign ++ Decimal.positional shortest.1 shortest.2

end Lanes
