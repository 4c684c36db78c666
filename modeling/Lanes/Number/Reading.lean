import Lanes.Number.Binary64
import Lanes.Number.Decimal

/-!
# Reading floating-point numbers

The accepted texts are an optional sign followed by a number or by one of the words `inf`,
`infinity` and `nan` in any mixture of cases. A number has digits before or behind an optional
point, at least one in all, and an optional exponent. Its exact value is rounded once.
-/
namespace Lanes.Reading

/-- The words for values that are no finite number. -/
def word? (negative : Bool) (cs : List Char) : Option Binary64 :=
  match String.ofList (cs.map Char.toLower) with
  | "inf" | "infinity" => some (.infinity negative)
  | "nan" => some (.notANumber negative)
  | _ => none

/-- The exponent mark and its digits; no text at all is the exponent zero. -/
def exponent? : List Char → Option Int
  | [] => some 0
  | mark :: rest => if mark = 'e' ∨ mark = 'E' then Decimal.integer? rest else none

/-- The number `n * 10 ^ e` rounded. Exponents beyond the range of all numbers are decided by the
position of the first digit, so that no huge power is computed. -/
def scaled (negative : Bool) (n places : Nat) (e : Int) : Binary64 :=
  if n = 0 then .nearest negative 0 1
  else if 310 < places + e then .infinity negative
  else if places + e < -330 then .nearest negative 0 1
  else if 0 ≤ e then .nearest negative (n * Decimal.tenTo e.toNat) 1
  else .nearest negative n (Decimal.tenTo (-e).toNat)

def number? (negative : Bool) (cs : List Char) : Option Binary64 :=
  let whole := cs.takeWhile Char.isDigit
  let behind := cs.dropWhile Char.isDigit
  let pointed := behind.head? = some '.'
  let behindPoint := if pointed then behind.tail else behind
  let part := if pointed then behindPoint.takeWhile Char.isDigit else []
  let mark := if pointed then behindPoint.dropWhile Char.isDigit else behind
  match Decimal.digits? (whole ++ part), exponent? mark with
  | some n, some e => some (scaled negative n (toString n).length (e - part.length))
  | _, _ => none

def magnitude? (negative : Bool) (cs : List Char) : Option Binary64 :=
  (word? negative cs).or (number? negative cs)

/-- The number that a text stands for. -/
def float? : List Char → Option Binary64
  | '-' :: rest => magnitude? true rest
  | '+' :: rest => magnitude? false rest
  | cs => magnitude? false cs

end Lanes.Reading
