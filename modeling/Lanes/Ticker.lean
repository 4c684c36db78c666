import Lanes.Metronome

/-!
# Tickers

A ticker is a metronome that calls its current checker on every beat and, after the last one, its
quit callback. While a checker runs it, or somebody else at the same time, may retime the ticker,
put another checker in its place, set the quit callback, begin to quit or abandon the ticker; a
`Reaction` is one run of a checker, written as the tree of what is done meanwhile.

In each turn the task first looks whether it was cancelled (`Ticker.look`) and then beats
(`Ticker.beat`). Between the two it is poised, and what others do then comes too late for the look.
-/
namespace Lanes

/-- Called once after the last beat. -/
abbrev TickerFarewell (σ : Type) := Moment → σ → Outcome Unit × σ

/-- One run of a checker. Requests to a ticker that was abandoned are answered by nothing. -/
inductive Reaction (σ : Type) where
  | done (outcome : Outcome Unit) (memory : σ)
  | retime (seconds : Binary64) (resume : Option (Except Error Unit) → Reaction σ)
  | replace (checker : Moment → σ → Reaction σ) (resume : Option Unit → Reaction σ)
  | register (farewell : TickerFarewell σ) (resume : Option Bool → Reaction σ)
  | close (resume : Option (Except Error Unit) → Reaction σ)
  | abandon (next : Reaction σ)

/-- Called on every beat with the present moment and what the callbacks remember. -/
abbrev Checker (σ : Type) := Moment → σ → Reaction σ

/-- A metronome with its callbacks, what they remember, and the journal of what happened, the
latest event first. -/
structure Ticker (σ : Type) where
  metronome : Metronome
  /-- Whether the task has found itself not cancelled and is about to beat. -/
  poised : Bool
  /-- Whether the quit that closed it has returned. -/
  returned : Bool
  checker : Option (Checker σ)
  farewell : Option (TickerFarewell σ)
  memory : σ
  journal : List Metronome.Event

namespace Ticker
variable {σ : Type}

def new (period : Duration) (checker : Option (Checker σ)) (memory : σ) : Ticker σ :=
  ⟨.new period, false, false, checker, none, memory, []⟩

def note (t : Ticker σ) (event : Metronome.Event) : Ticker σ :=
  { t with journal := event :: t.journal }

/-! ### Owners -/

/-- Installs a checker in place of the present one. -/
def setChecker (t : Ticker σ) (checker : Checker σ) : Ticker σ :=
  { t with checker := some checker }

/-- Sets the quit callback, and says whether it is the first. -/
def setFarewell (t : Ticker σ) (farewell : TickerFarewell σ) : Bool × Ticker σ :=
  match t.farewell with
  | some _ => (false, t)
  | none => (true, { t with farewell := some farewell })

def retime (t : Ticker σ) (seconds : Binary64) : Except Error Unit × Ticker σ :=
  match t.metronome.retime seconds with
  | .error cause => (.error cause, t)
  | .ok metronome => (.ok (), { t with metronome })

/-- Tells the ticker to quit; who does so first waits for its task to end. -/
def close (t : Ticker σ) : Except Error Unit × Ticker σ :=
  match t.metronome.close? with
  | .error cause => (.error cause, t)
  | .ok metronome => (.ok (), { t with metronome }.note .cancelled)

def drop (t : Ticker σ) : Ticker σ :=
  { t with metronome := t.metronome.drop }.note .cancelled

/-- The host of the task goes down, which has no effect in the middle of a turn. -/
def abort (t : Ticker σ) : Ticker σ :=
  if t.poised || t.metronome.phase.ended then t
  else { t with metronome := t.metronome.abort }.note .aborted

def ended (t : Ticker σ) : Bool := t.metronome.phase.ended

/-- Whether who closed the ticker can go on: its task has ended. -/
def released (t : Ticker σ) : Bool := t.metronome.closed && t.ended && !t.returned

/-- Who closed the ticker and waited for the end of its task goes on. -/
def acknowledge (t : Ticker σ) : Ticker σ :=
  if t.released then
    let found := if t.metronome.phase = .aborted then t.note .foundAborted else t
    { found with returned := true }
  else t

/-! ### The task -/

/-- Runs a checker to its end. -/
def react : Reaction σ → Ticker σ → Outcome Unit × Ticker σ
  | .done outcome memory, t => (outcome, { t with memory })
  | .retime seconds resume, t =>
    if t.metronome.dropped then react (resume none) t
    else
      let retimed := t.retime seconds
      react (resume (some retimed.1)) retimed.2
  | .replace checker resume, t =>
    if t.metronome.dropped then react (resume none) t
    else react (resume (some ())) (t.setChecker checker)
  | .register farewell resume, t =>
    if t.metronome.dropped then react (resume none) t
    else
      let set := t.setFarewell farewell
      react (resume (some set.1)) set.2
  | .close resume, t =>
    if t.metronome.dropped then react (resume none) t
    else
      let closed := t.close
      react (resume (some closed.1)) closed.2
  | .abandon next, t => if t.metronome.dropped then react next t else react next t.drop

/-- One beat: the checker of the moment runs, if there is one. -/
def fire (t : Ticker σ) (now : Moment) : Ticker σ :=
  match t.checker with
  | none => t
  | some checker =>
    let ran := react (checker now t.memory) t
    ran.2.note (.fired ran.1)

def bidFarewell (t : Ticker σ) (now : Moment) : Ticker σ :=
  match t.farewell with
  | none => t
  | some farewell =>
    let ran := farewell now t.memory
    { t with memory := ran.2 }.note (.farewell ran.1)

/-- Sleeps for the period in force after the beat, unless it was cancelled meanwhile. -/
def rest (t : Ticker σ) (now : Moment) : Ticker σ :=
  let metronome := t.metronome.rest now
  let rested := { t with metronome }
  if metronome.cancelled then rested else rested.note (.resting (now.after t.metronome.period))

def stop (t : Ticker σ) : Ticker σ :=
  { t with metronome := t.metronome.stop }.note .stopped

/-- The first run of the task leaves a line in the log. -/
def start (t : Ticker σ) : Ticker σ :=
  if t.metronome.phase = .spawned then t.note (.started t.metronome.period) else t

/-- The task wakes up and looks whether it was cancelled: if so it beats one last time and ends,
otherwise it is about to beat. -/
def look (t : Ticker σ) (now : Moment) : Ticker σ :=
  if !t.poised && t.metronome.due now then
    let started := t.start
    if started.metronome.cancelled then ((started.fire now).bidFarewell now).stop
    else { started with poised := true }
  else t

/-- The task beats and goes to sleep, whatever it was told since it looked. -/
def beat (t : Ticker σ) (now : Moment) : Ticker σ :=
  if t.poised then ({ t with poised := false }.fire now).rest now else t

/-- A whole turn of the task, with nothing in between. -/
def wake (t : Ticker σ) (now : Moment) : Ticker σ := (t.look now).beat now

end Ticker
end Lanes
