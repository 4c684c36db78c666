import Lanes.Proofs.Number.Exact
import Lanes.Proofs.Ticker.Clock

/-!
# Periods

A period is given as a number of seconds. The numbers that are granted are those that are positive
and finite and come to at least one nanosecond, and to less than the longest duration, when they are
rounded to the nearest nanosecond, of two that are equally near to the even one; the period is then
this number of nanoseconds. All other numbers are refused and leave the period as it is. So no
ticker ever has the period zero, and a task that has beaten is not due again before time has passed,
unless its ticker was told to end.
-/
namespace Lanes

/-! ### Numbers of seconds -/

namespace Duration
variable {seconds : Binary64} {mantissa nanos : ℕ} {exponent : ℤ} {d : Duration}

/-- A number of seconds stands for a period of so many nanoseconds. -/
def IsPeriod (seconds : Binary64) (nanos : ℕ) : Prop :=
  ∃ value, seconds.rational? = some value ∧ 0 < value ∧
    Rounding.NearestEven (value * 10 ^ 9) nanos ∧ 1 ≤ nanos ∧ nanos < 2 ^ 64 * 10 ^ 9

theorem IsPeriod.unique {other : ℕ} (h : IsPeriod seconds nanos) (k : IsPeriod seconds other) :
    nanos = other := by
  obtain ⟨value, is, -, nearest, -⟩ := h
  obtain ⟨value', is', -, nearest', -⟩ := k
  obtain rfl := Option.some.inj (is.symm.trans is')
  exact_mod_cast nearest.unique nearest'

theorem nearestEven_nanosOfSeconds (mantissa : ℕ) (exponent : ℤ) :
    Rounding.NearestEven (mantissa * 2 ^ exponent * 10 ^ 9)
      (nanosOfSeconds mantissa exponent : ℕ) := by
  unfold nanosOfSeconds
  split
  · next whole =>
    obtain ⟨places, rfl⟩ := Int.eq_ofNat_of_zero_le whole
    have exact_ : (mantissa : ℚ) * 2 ^ (places : ℤ) * 10 ^ 9 =
        ((mantissa <<< (places : ℤ).toNat * perSecond : ℕ) : ℤ) := by
      simp only [zpow_natCast, Int.toNat_natCast, Nat.shiftLeft_eq, perSecond]
      push_cast
      ring
    rw [exact_]
    exact Rounding.nearestEven_intCast _
  · next fractional =>
    obtain ⟨places, rfl⟩ : ∃ places : ℕ, exponent = -places :=
      ⟨(-exponent).toNat, by omega⟩
    have pos : 0 < 1 <<< (-(-(places : ℤ))).toNat := by simp [Nat.shiftLeft_eq]
    have quotient : (mantissa : ℚ) * (2 : ℚ) ^ (-(places : ℤ)) * (10 : ℚ) ^ 9 =
        ((mantissa * perSecond : ℕ) : ℚ) / ((1 <<< (-(-(places : ℤ))).toNat : ℕ) : ℚ) := by
      simp only [zpow_neg, zpow_natCast, neg_neg, Int.toNat_natCast, Nat.shiftLeft_eq, perSecond]
      push_cast
      ring
    rw [quotient]
    exact Rounding.nearestEven_halfEven _ pos

theorem rational?_of_positive (is : seconds.value = .finite false mantissa exponent) :
    seconds.rational? = some ((mantissa : ℚ) * 2 ^ exponent) := by
  rw [← Binary64.rational?_value, is]
  simp [Binary64.Value.rational?]

/-- A positive number is decoded to a positive mantissa. -/
theorem value_of_rational?_pos {value : ℚ} (is : seconds.rational? = some value)
    (pos : 0 < value) :
    ∃ mantissa exponent, seconds.value = .finite false mantissa exponent ∧ mantissa ≠ 0 := by
  rw [← Binary64.rational?_value] at is
  cases decoded : seconds.value with
  | nan => simp [decoded, Binary64.Value.rational?] at is
  | infinite => simp [decoded, Binary64.Value.rational?] at is
  | finite negative mantissa exponent =>
    rw [decoded, Binary64.Value.rational?] at is
    obtain rfl := Option.some.inj is
    have power : (0 : ℚ) < 2 ^ exponent := by positivity
    cases negative with
    | false =>
      refine ⟨mantissa, exponent, rfl, ?_⟩
      rintro rfl
      simp at pos
    | true =>
      have magnitude : (0 : ℚ) ≤ mantissa * 2 ^ exponent := by positivity
      simp only [if_true] at pos
      linarith

/-- Only positive numbers are granted. -/
theorem value_of_period? (granted : period? seconds = .ok d) :
    ∃ mantissa exponent, seconds.value = .finite false mantissa exponent ∧ mantissa ≠ 0 := by
  unfold period? at granted
  cases decoded : seconds.value with
  | nan => simp [decoded] at granted
  | infinite => simp [decoded] at granted
  | finite negative mantissa exponent =>
    rw [decoded] at granted
    by_cases refused : negative = true ∨ mantissa = 0
    · simp [refused] at granted
    · obtain ⟨positive, nonzero⟩ := not_or.mp refused
      rw [Bool.not_eq_true] at positive
      exact ⟨mantissa, exponent, by rw [positive], nonzero⟩

theorem secondsBound_eq : secondsBound * perSecond = 2 ^ 64 * 10 ^ 9 := by
  norm_num [secondsBound, perSecond]

/-- A positive number is rounded once, and granted if it does not become too large or nothing. -/
theorem period?_of_positive (is : seconds.value = .finite false mantissa exponent)
    (pos : mantissa ≠ 0) :
    period? seconds = .ok d ↔ d.nanos = nanosOfSeconds mantissa exponent ∧
      1 ≤ d.nanos ∧ d.nanos < 2 ^ 64 * 10 ^ 9 := by
  obtain ⟨nanos⟩ := d
  simp only [period?, is, pos, Bool.false_eq_true, or_self, if_false]
  rw [secondsBound_eq]
  split_ifs with long none
  · simp
    omega
  · simp
    omega
  · simp
    omega

theorem period?_eq_ok_iff : period? seconds = .ok d ↔ IsPeriod seconds d.nanos := by
  constructor
  · intro granted
    obtain ⟨mantissa, exponent, is, pos⟩ := value_of_period? granted
    obtain ⟨same, bounds⟩ := (period?_of_positive is pos).mp granted
    refine ⟨_, rational?_of_positive is, by positivity, ?_, bounds⟩
    rw [same]
    exact nearestEven_nanosOfSeconds mantissa exponent
  · rintro ⟨value, is, pos, nearest, bounds⟩
    obtain ⟨mantissa, exponent, decoded, nonzero⟩ := value_of_rational?_pos is pos
    refine (period?_of_positive decoded nonzero).mpr ⟨?_, bounds⟩
    obtain rfl := Option.some.inj (is.symm.trans (rational?_of_positive decoded))
    exact_mod_cast nearest.unique (nearestEven_nanosOfSeconds mantissa exponent)

end Duration

open Duration (IsPeriod)

/-! ### Metronomes -/

namespace Metronome

theorem retime_cases (m : Metronome) (seconds : Binary64) :
    (∃ nanos, IsPeriod seconds nanos ∧ m.retime seconds = .ok { m with period := ⟨nanos⟩ }) ∨
    (∀ nanos, ¬ IsPeriod seconds nanos) ∧
      ∃ reason, m.retime seconds = .error (.invalidArgument reason) := by
  unfold retime
  cases told : Duration.period? seconds with
  | ok period => exact .inl ⟨period.nanos, Duration.period?_eq_ok_iff.mp told, rfl⟩
  | error fault =>
    refine .inr ⟨fun nanos is => ?_, ?_⟩
    · have granted : Duration.period? seconds = .ok ⟨nanos⟩ := Duration.period?_eq_ok_iff.mpr is
      cases told.symm.trans granted
    · cases fault <;> exact ⟨_, rfl⟩

/-- A metronome that has fallen asleep is not due at once. -/
theorem due_rest {m : Metronome} (positive : 0 < m.period.nanos) (now : Moment)
    (due : (m.rest now).due now = true) : m.cancelled = true := by
  rcases Bool.or_eq_true_iff.mp due with told | late
  · exact told
  · exact absurd (Moment.lt_after now positive) (Nat.not_lt.mpr (of_decide_eq_true late))

end Metronome

/-! ### Tickers -/

namespace Ticker
variable {σ : Type} {t : Ticker σ}

theorem Paced.look (paced : t.Paced) (now : Moment) : (t.look now).Paced := by
  obtain ⟨-, eq⟩ | ⟨-, ⟨-, eq⟩ | ⟨-, eq⟩⟩ := t.look_cases now
  · rwa [eq]
  · rw [eq]
    exact paced.start
  · have fired := paced.start.fire now
    rw [eq, bidFarewell]
    split <;> exact fired

theorem Paced.beat (paced : t.Paced) (now : Moment) : (t.beat now).Paced := by
  obtain ⟨-, eq⟩ | ⟨-, eq⟩ := t.beat_cases now
  · rwa [eq]
  · have steady : { t with poised := false }.Paced := paced
    rw [eq, Paced, rest_metronome]
    exact steady.fire now

theorem Paced.apply (paced : t.Paced) (step : Step σ) : (t.apply step).Paced := by
  obtain owned | ⟨now, rfl⟩ | ⟨now, rfl⟩ | rfl := step.kind
  · unfold Ticker.apply
    split
    · exact paced
    · by_cases acknowledging : step = .acknowledge
      · subst acknowledging
        obtain eq | ⟨-, eq | eq⟩ := t.acknowledge_cases <;> rw [perform, eq] <;> exact paced
      · exact (t.perform_meddles owned acknowledging).paced paced
  · rw [apply_look]
    exact paced.look now
  · rw [apply_beat]
    exact paced.beat now
  · simp only [Ticker.apply, perform, Ticker.abort, Metronome.abort, Step.needsOwner, Bool.and_false,
      Bool.false_eq_true, if_false]
    split
    · exact paced
    · split <;> exact paced

/-- A task that has beaten is due again at the same moment only if it was told to end meanwhile. -/
theorem Paced.due_wake (paced : t.Paced) (now : Moment)
    (due : (t.wake now).metronome.due now = true) : (t.wake now).metronome.cancelled = true := by
  rw [wake] at due ⊢
  obtain ⟨clear, eq⟩ | ⟨-, eq⟩ := (t.look now).beat_cases now
  · rw [eq] at due ⊢
    obtain ⟨idle, same⟩ | ⟨-, ⟨-, other⟩ | ⟨-, ends⟩⟩ := t.look_cases now
    · rw [same] at clear due
      simp [clear, due] at idle
    · simp [other] at clear
    · rw [ends] at due
      cases due
  · have steady : { t.look now with poised := false }.Paced := paced.look now
    rw [eq, rest_metronome] at due ⊢
    exact Metronome.due_rest (steady.fire now) now due

/-- The states of a ticker, also those that a checker passes through while it runs. -/
inductive Reachable : Ticker σ → Prop
  | new (period : Duration) (checker : Option (Checker σ)) (memory : σ) :
      Reachable (new period checker memory)
  | step {t : Ticker σ} (step : Step σ) (before : Reachable t) : Reachable (t.apply step)
  | start {t : Ticker σ} (before : Reachable t) : Reachable t.start
  | meddle {t t' : Ticker σ} (meddles : Meddles t t') (before : Reachable t) : Reachable t'

theorem Reachable.paced (reachable : Reachable t) : t.Paced := by
  induction reachable with
  | new period checker memory => exact .new period checker memory
  | step step _ ih => exact ih.apply step
  | start _ ih => exact ih.start
  | meddle meddles _ ih => exact meddles.paced ih

end Ticker

end Lanes
