import Lanes.Number.Binary64
import Lanes.Number.Decimal

/-!
# Durations

A duration is a whole number of nanoseconds. Its text uses the largest of the units `s`, `ms`,
`µs` and `ns` that it reaches, with as many decimals as it takes and no more. Seconds given as a
floating-point number are rounded once to the nearest nanosecond.
-/
namespace Lanes

/-- A span of time in nanoseconds. -/
structure Duration where
  nanos : Nat
  deriving DecidableEq, Repr

namespace Duration

/-- Nanoseconds of a second, a millisecond and a microsecond. -/
def perSecond : Nat := 1000000000

def perMilli : Nat := 1000000

def perMicro : Nat := 1000

def ofParts (seconds nanos : Nat) : Duration := ⟨seconds * perSecond + nanos⟩

def ofSeconds (seconds : Nat) : Duration := ⟨seconds * perSecond⟩

def ofMillis (millis : Nat) : Duration := ⟨millis * perMilli⟩

/-- Whole seconds. -/
def seconds (d : Duration) : Nat := d.nanos / perSecond

/-- Nanoseconds beyond the whole seconds. -/
def subsecond (d : Duration) : Nat := d.nanos % perSecond

def isZero (d : Duration) : Bool := d.nanos = 0

/-- The duration, or `fallback` in place of zero. -/
def orDefault (d fallback : Duration) : Duration :=
  if d.isZero then fallback else d

theorem orDefault_pos {d fallback : Duration} (h : 0 < fallback.nanos) :
    0 < (d.orDefault fallback).nanos := by
  unfold orDefault isZero
  split
  · exact h
  · next positive => exact Nat.pos_of_ne_zero (by simpa using positive)

/-- The text in a unit of `10 ^ places` nanoseconds. -/
def textIn (places : Nat) (unit : String) (nanos : Nat) : String :=
  toString (nanos / Decimal.tenTo places) ++
    Decimal.fraction places (nanos % Decimal.tenTo places) ++ unit

/-- The exact text of a duration. -/
def text (d : Duration) : String :=
  if perSecond ≤ d.nanos then textIn 9 "s" d.nanos
  else if perMilli ≤ d.nanos then textIn 6 "ms" d.nanos
  else if perMicro ≤ d.nanos then textIn 3 "µs" d.nanos
  else textIn 0 "ns" d.nanos

/-- The text with two decimals in a unit of `10 ^ places` nanoseconds, ties to even. -/
def roundedIn (places : Nat) (unit : String) (nanos : Nat) : String :=
  let hundredths := Rounding.halfEven (nanos * 100) (Decimal.tenTo places)
  toString (hundredths / 100) ++ "." ++ String.ofList (Decimal.padded 2 (hundredths % 100)) ++ unit

/-- The text of a duration with two decimals. -/
def roundedText (d : Duration) : String :=
  if perSecond ≤ d.nanos then roundedIn 9 "s" d.nanos
  else if perMilli ≤ d.nanos then roundedIn 6 "ms" d.nanos
  else if perMicro ≤ d.nanos then roundedIn 3 "µs" d.nanos
  else roundedIn 0 "ns" d.nanos

/-- The text of a duration that may be absent. -/
def optionText : Option Duration → String
  | none => "None"
  | some d => "Some(" ++ d.text ++ ")"

/-- Durations stay below this number of seconds. -/
def secondsBound : Nat := 0x10000000000000000

/-- The nanoseconds nearest to `mantissa * 2 ^ exponent` seconds, ties to even. -/
def nanosOfSeconds (mantissa : Nat) (exponent : Int) : Nat :=
  if 0 ≤ exponent then mantissa <<< exponent.toNat * perSecond
  else Rounding.halfEven (mantissa * perSecond) (1 <<< (-exponent).toNat)

/-- Why a number of seconds is no period. -/
inductive PeriodFault where
  | notPositive
  | tooLong
  | tooShort
  deriving DecidableEq, Repr

/-- The period of so many seconds: finite, positive, within the range of durations and not rounded
down to nothing. -/
def period? (seconds : Binary64) : Except PeriodFault Duration :=
  match seconds.value with
  | .nan | .infinite _ => .error .notPositive
  | .finite negative mantissa exponent =>
    if negative ∨ mantissa = 0 then .error .notPositive
    else
      let nanos := nanosOfSeconds mantissa exponent
      if secondsBound * perSecond ≤ nanos then .error .tooLong
      else if nanos = 0 then .error .tooShort
      else .ok ⟨nanos⟩

theorem period?_pos {seconds : Binary64} {d : Duration} (h : period? seconds = .ok d) :
    0 < d.nanos := by
  unfold period? at h
  split at h
  · cases h
  · cases h
  · split at h
    · cases h
    · simp only at h
      split at h
      · cases h
      · split at h
        · cases h
        · next positive =>
          obtain rfl := Except.ok.inj h
          exact Nat.pos_of_ne_zero positive

end Duration
end Lanes
