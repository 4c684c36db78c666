import Lanes.Duration

/-!
# Moments

A moment counts the nanoseconds since a common start. Sleepers are woken by a clock that ticks once
in a millisecond, so a sleep ends with the first tick that is not before its end. No sleep is longer
than thirty years.
-/
namespace Lanes

abbrev Moment := Nat

namespace Moment

/-- Nanoseconds between two ticks of the clock. -/
def resolution : Nat := Duration.perMilli

/-- The longest sleep: thirty years of 365 days. -/
def longestSleep : Duration := .ofSeconds 946080000

/-- When a sleep that starts now ends. -/
def after (now : Moment) (d : Duration) : Moment :=
  (now + min d.nanos longestSleep.nanos + (resolution - 1)) / resolution * resolution

/-- Whole milliseconds since the start. -/
def millis (now : Moment) : Nat := now / resolution

theorem lt_after (now : Moment) {d : Duration} (positive : 0 < d.nanos) : now < after now d := by
  have span : 0 < min d.nanos longestSleep.nanos := Nat.lt_min.mpr ⟨positive, by decide⟩
  have tick (n : Nat) : n ≤ (n + (resolution - 1)) / resolution * resolution := by
    simp only [resolution, Duration.perMilli]
    omega
  exact Nat.lt_of_lt_of_le (Nat.lt_add_of_pos_right span) (tick _)

/-- Every sleep ends on a whole millisecond. -/
theorem resolution_dvd_after (now : Moment) (d : Duration) : resolution ∣ after now d :=
  Nat.dvd_mul_left ..

/-- From whole milliseconds to whole milliseconds nothing is rounded. -/
theorem after_whole {now : Moment} {d : Duration} (start : resolution ∣ now)
    (span : resolution ∣ d.nanos) : after now d = now + min d.nanos longestSleep.nanos := by
  have whole : resolution ∣ min d.nanos longestSleep.nanos := by
    rcases Nat.le_total d.nanos longestSleep.nanos with short | long
    · rwa [Nat.min_eq_left short]
    · rw [Nat.min_eq_right long]
      decide
  obtain ⟨a, sum⟩ := Nat.dvd_add start whole
  rw [after, sum, Nat.mul_add_div (by decide), Nat.div_eq_of_lt (by decide), Nat.add_zero,
    Nat.mul_comm]

end Moment
end Lanes
