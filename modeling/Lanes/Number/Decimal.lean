/-!
# Decimal texts

Writing and reading of decimal digits. `fraction` writes the digits behind the point, without
trailing zeros; `natural?` and `integer?` read digits with an optional sign and nothing else.
-/
namespace Lanes.Decimal

/-- The power of ten with so many zeros. -/
def tenTo (places : Nat) : Nat := Nat.pow 10 places

/-- The digits of `n`, filled up with zeros on the left to at least `width` places. -/
def padded (width n : Nat) : List Char :=
  let digits := (toString n).toList
  List.replicate (width - digits.length) '0' ++ digits

def dropTrailingZeros (digits : List Char) : List Char :=
  (digits.reverse.dropWhile (· = '0')).reverse

/-- The text behind a whole number for `n` units of `10 ^ -width`: nothing for zero, otherwise a
point and the digits up to the last one that counts. -/
def fraction (width n : Nat) : String :=
  if n = 0 then "" else String.ofList ('.' :: dropTrailingZeros (padded width n))

/-- The value of a digit. -/
def digit? (c : Char) : Option Nat :=
  if '0' ≤ c ∧ c ≤ '9' then some (c.toNat - '0'.toNat) else none

/-- Reads digits on behind the value read so far. -/
def digitsFrom? : Nat → List Char → Option Nat
  | value, [] => some value
  | value, c :: rest =>
    match digit? c with
    | some d => digitsFrom? (10 * value + d) rest
    | none => none

/-- One or more digits. -/
def digits? : List Char → Option Nat
  | [] => none
  | cs => digitsFrom? 0 cs

/-- One or more digits, possibly behind a plus sign. -/
def natural? : List Char → Option Nat
  | '+' :: rest => digits? rest
  | cs => digits? cs

/-- One or more digits, possibly behind one sign. -/
def integer? : List Char → Option Int
  | '-' :: rest => (digits? rest).map (fun n => -(n : Int))
  | cs => (natural? cs).map Int.ofNat

/-- A natural number below `bound`. -/
def naturalBelow? (bound : Nat) (cs : List Char) : Option Nat :=
  (natural? cs).filter (· < bound)

/-- An integer that fits into 64 bits with sign. -/
def int64? (cs : List Char) : Option Int :=
  (integer? cs).filter (fun n => -0x8000000000000000 ≤ n ∧ n < 0x8000000000000000)

end Lanes.Decimal
