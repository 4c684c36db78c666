import Lanes.Callback
import Lanes.Moment
import Lanes.Number.Shortest

/-!
# Metronomes

A metronome beats at once when its task first runs, then sleeps for the period in force and beats
again. Once it is closed or abandoned it is cancelled: it wakes up, beats one last time and stops.
What a beat does is up to the owner.
-/
namespace Lanes

/-- The period of a metronome, where none is asked for. -/
def defaultTickPeriod : Duration := .ofSeconds 1

/-- How far the task of a metronome has come. -/
inductive MetronomePhase where
  | spawned
  | sleeping (wakeAt : Moment)
  | stopped
  | aborted
  deriving DecidableEq, Repr

def MetronomePhase.ended : MetronomePhase → Bool
  | stopped | aborted => true
  | spawned | sleeping _ => false

structure Metronome where
  period : Duration
  /-- Whether it was told to quit. -/
  closed : Bool
  /-- Whether its owner abandoned it. -/
  dropped : Bool
  phase : MetronomePhase

namespace Metronome

/-- A metronome whose task has yet to run; the period zero means the default. -/
def new (period : Duration) : Metronome :=
  ⟨period.orDefault defaultTickPeriod, false, false, .spawned⟩

def cancelled (m : Metronome) : Bool := m.closed || m.dropped

/-- Whether the task has something to do: its sleep is over or cut short. -/
def due (m : Metronome) (now : Moment) : Bool :=
  match m.phase with
  | .spawned => true
  | .sleeping wakeAt => m.cancelled || wakeAt ≤ now
  | .stopped | .aborted => false

/-- The refusal of a number of seconds as a period. -/
def periodRefused (seconds : Binary64) : Duration.PeriodFault → Error
  | .notPositive => .invalidArgument ("tick duration must be positive, got " ++ seconds.text)
  | .tooLong =>
    .invalidArgument ("tick duration " ++ seconds.text ++
      ": cannot convert float seconds to Duration: value is either too big or NaN")
  | .tooShort => .invalidArgument ("tick duration " ++ seconds.text ++ " rounds down to zero")

/-- Changes the period, from the next sleep on. -/
def retime (m : Metronome) (seconds : Binary64) : Except Error Metronome :=
  match Duration.period? seconds with
  | .error fault => .error (periodRefused seconds fault)
  | .ok period => .ok { m with period }

theorem retime_ok {m m' : Metronome} {seconds : Binary64} (ok : m.retime seconds = .ok m') :
    ∃ period : Duration, 0 < period.nanos ∧ m' = { m with period } := by
  unfold retime at ok
  split at ok
  · cases ok
  · next period granted =>
    exact ⟨period, Duration.period?_pos granted, (Except.ok.inj ok).symm⟩

/-- Closes the metronome, which can be done once. -/
def close? (m : Metronome) : Except Error Metronome :=
  if m.closed then .error .alreadyClosed else .ok { m with closed := true }

def drop (m : Metronome) : Metronome := { m with dropped := true }

/-- Falls asleep for the period in force. -/
def rest (m : Metronome) (now : Moment) : Metronome :=
  { m with phase := .sleeping (now.after m.period) }

def stop (m : Metronome) : Metronome := { m with phase := .stopped }

/-- The host of the task goes down. -/
def abort (m : Metronome) : Metronome :=
  if m.phase.ended then m else { m with phase := .aborted }

/-! ### Events -/

/-- What happens to a metronome. -/
inductive Event where
  | cancelled
  | started (period : Duration)
  /-- It beat, and the beat ended so. -/
  | fired (outcome : Outcome Unit)
  | resting (wakeAt : Moment)
  /-- The quit callback ran. -/
  | farewell (outcome : Outcome Unit)
  | stopped
  | aborted
  /-- Who waited for the task found it aborted. -/
  | foundAborted

namespace Event

/-- A beat that failed or panicked is worth a warning. -/
def complaint (outcome : Outcome Unit) : List LogLine :=
  match outcome.contain .ticker with
  | .ok _ => []
  | .error cause => [⟨.warn, .ticker, "Ticker checker failed: " ++ cause.message⟩]

def lines : Event → List LogLine
  | cancelled | resting _ | aborted => []
  | started period => [⟨.trace, .ticker, "Ticker started (" ++ period.text ++ ")"⟩]
  | fired outcome => outcome.alarm .ticker ++ complaint outcome
  | farewell outcome => outcome.alarm .tickerQuit
  | stopped => [⟨.trace, .ticker, "Ticker stopped"⟩]
  | foundAborted => [⟨.error, .ticker, "Ticker task terminated abnormally"⟩]

/-- Whether a caller may have been waiting for the event. -/
def rousesCaller : Event → Bool
  | stopped | aborted => true
  | _ => false

end Event
end Metronome
end Lanes
