import Lanes.Proofs.Ticker.Run

/-!
# Chronicles of a ticker

The clock of a ticker moves on in whole milliseconds, and never past a moment at which the task has
something to do. A chronicle follows the ticker and writes down which checkers were installed, from
outside or during a beat, and when the ticker beat. Every beat calls the checker that was installed
last before it.
-/
namespace Lanes
namespace Ticker
variable {σ : Type}

/-- A beat: its moment, and the ticker as it was when the beat began. -/
structure Beat (σ : Type) where
  moment : Moment
  ticker : Ticker σ

namespace Beat

/-- The checker that is called, if there is one. -/
def checker (b : Beat σ) : Option (Checker σ) := b.ticker.checker

/-- How the checker ends. -/
def outcome (b : Beat σ) : Option (Outcome Unit) := b.ticker.check b.moment

/-- The period in force when the checker has come to its end. -/
def period (b : Beat σ) : Duration := (b.ticker.fire b.moment).metronome.period

end Beat

/-- What is written down about a ticker. -/
inductive Entry (σ : Type) where
  | installed (checker : Checker σ)
  | beat (beat : Beat σ)

def Entry.checker? : Entry σ → Option (Checker σ)
  | .installed checker => some checker
  | .beat _ => none

def Entry.beat? : Entry σ → Option (Beat σ)
  | .installed _ => none
  | .beat b => some b

/-- The checker that was installed last; the latest entry comes first. -/
def lastInstalled (entries : List (Entry σ)) : Option (Checker σ) :=
  entries.findSome? Entry.checker?

theorem lastInstalled_append (checkers : List (Checker σ)) (entries : List (Entry σ)) :
    lastInstalled (checkers.map .installed ++ entries) =
      checkers.head?.or (lastInstalled entries) := by
  cases checkers <;> simp [lastInstalled, Entry.checker?, List.findSome?_cons]

/-! ### Checkers that are installed during a beat -/

/-- The checkers that are put in place on a beat, the last one first. -/
def replaced (t : Ticker σ) (now : Moment) : List (Checker σ) := (checkers (t.meanwhile now)).reverse

theorem fire_checker (t : Ticker σ) (now : Moment) :
    (t.fire now).checker = (t.replaced now).head?.or t.checker := by
  rw [replaced, List.head?_reverse]
  exact (t.fire_leads now).checker

theorem wake_checker {t : Ticker σ} {now : Moment} (clear : t.poised = false)
    (due : t.metronome.due now = true) :
    (t.wake now).checker = (t.start.replaced now).head?.or t.checker := by
  rw [← t.start_checker, ← fire_checker]
  obtain ⟨idle, -⟩ | ⟨-, -, eq⟩ | ⟨-, -, eq⟩ := wake_cases clear now
  · simp [due] at idle
  · obtain ⟨journal, rested⟩ := (t.start.fire now).rest_eq now
    rw [eq, rested]
  · rw [eq, stop, bidFarewell]
    cases (t.start.fire now).farewell <;> rfl

/-- A whole turn leaves the task asleep or at its end. -/
theorem wake_clear {t : Ticker σ} (clear : t.poised = false) (now : Moment) :
    (t.wake now).poised = false := by
  have begun : t.start.poised = false := t.start_leads.poised.trans clear
  obtain ⟨-, eq⟩ | ⟨-, -, eq⟩ | ⟨-, -, eq⟩ := wake_cases clear now
  · rwa [eq]
  · obtain ⟨journal, rested⟩ := (t.start.fire now).rest_eq now
    rw [eq, rested]
    exact (t.start.fire_leads now).poised.trans begun
  · rw [eq]
    exact (t.final_leads now).poised.trans clear

/-! ### Chronicles -/

/-- A ticker on the clock, and what was written down so far, the latest entry first. -/
structure Chronicle (σ : Type) where
  ticker : Ticker σ
  now : Moment
  entries : List (Entry σ)

/-- What happens to a ticker on the clock. -/
inductive ClockStep (σ : Type) where
  | setChecker (checker : Checker σ)
  | setFarewell (farewell : TickerFarewell σ)
  | retime (seconds : Binary64)
  /-- The task is woken up. -/
  | wake
  /-- So many milliseconds pass, or fewer. -/
  | pass (millis : Nat)

namespace Chronicle

/-- A new ticker, so many milliseconds after the start of the clock. -/
def new (period : Duration) (checker : Option (Checker σ)) (memory : σ) (millis : Nat) :
    Chronicle σ :=
  ⟨.new period checker memory, millis * Moment.resolution, checker.toList.map .installed⟩

/-- Whether the task has something to do. -/
def due (c : Chronicle σ) : Bool := c.ticker.metronome.due c.now

/-- The beats so far, the latest one first. -/
def beats (c : Chronicle σ) : List (Beat σ) := c.entries.filterMap Entry.beat?

/-- The task runs. The checkers that are put in place meanwhile are written down after the beat. -/
def wake (c : Chronicle σ) : Chronicle σ :=
  { c with
    ticker := c.ticker.wake c.now
    entries := (c.ticker.start.replaced c.now).map .installed ++
      .beat ⟨c.now, c.ticker.start⟩ :: c.entries }

/-- Time passes, but no more than the task sleeps. -/
def pass (c : Chronicle σ) (millis : Nat) : Chronicle σ :=
  let target := c.now + millis * Moment.resolution
  match c.ticker.metronome.phase with
  | .sleeping wakeAt => { c with now := min target wakeAt }
  | _ => { c with now := target }

/-- The task runs when it has something to do, and time passes when it has not. -/
def apply (c : Chronicle σ) : ClockStep σ → Chronicle σ
  | .setChecker checker =>
    { c with ticker := c.ticker.setChecker checker, entries := .installed checker :: c.entries }
  | .setFarewell farewell => { c with ticker := (c.ticker.setFarewell farewell).2 }
  | .retime seconds => { c with ticker := (c.ticker.retime seconds).2 }
  | .wake => if c.due then c.wake else c
  | .pass millis => if c.due then c else c.pass millis

def run (steps : List (ClockStep σ)) (c : Chronicle σ) : Chronicle σ := steps.foldl apply c

variable {c : Chronicle σ}

@[simp] theorem run_nil (c : Chronicle σ) : run [] c = c := rfl

@[simp] theorem run_cons (step : ClockStep σ) (steps : List (ClockStep σ)) (c : Chronicle σ) :
    run (step :: steps) c = run steps (c.apply step) := rfl

@[simp] theorem run_append (steps later : List (ClockStep σ)) (c : Chronicle σ) :
    run (steps ++ later) c = run later (run steps c) := List.foldl_append ..

@[simp] theorem beats_wake (c : Chronicle σ) :
    c.wake.beats = ⟨c.now, c.ticker.start⟩ :: c.beats := by
  have none (checkers : List (Checker σ)) :
      (checkers.map Entry.installed).filterMap Entry.beat? = [] := by
    simp [List.filterMap_map, Function.comp_def, Entry.beat?]
  simp [beats, wake, none, Entry.beat?]

theorem pass_ticker (c : Chronicle σ) (millis : Nat) : (c.pass millis).ticker = c.ticker := by
  simp only [pass]
  split <;> rfl

theorem pass_entries (c : Chronicle σ) (millis : Nat) : (c.pass millis).entries = c.entries := by
  simp only [pass]
  split <;> rfl

/-! ### Which checker is called -/

/-- The checker that a beat calls is the one installed last before it. -/
def Faithful : Entry σ → List (Entry σ) → Prop
  | .installed _, _ => True
  | .beat b, older => b.checker = lastInstalled older

/-- The ticker has the checker that was installed last, and so it was on every beat. Its task is not
in the middle of a turn. -/
structure Recorded (c : Chronicle σ) : Prop where
  clear : c.ticker.poised = false
  current : c.ticker.checker = lastInstalled c.entries
  faithful : ∀ newer entry older, c.entries = newer ++ entry :: older → Faithful entry older

theorem Recorded.new (period : Duration) (checker : Option (Checker σ)) (memory : σ)
    (millis : Nat) : Recorded (new period checker memory millis) := by
  constructor
  · rfl
  · cases checker <;> rfl
  · cases checker with
    | none => simp [Chronicle.new]
    | some checker => exact forall_split_cons.mpr ⟨trivial, by simp⟩

theorem faithful_installed (checkers : List (Checker σ)) {entries : List (Entry σ)}
    (faithful : ∀ newer entry older, entries = newer ++ entry :: older → Faithful entry older) :
    ∀ newer entry older, checkers.map Entry.installed ++ entries = newer ++ entry :: older →
      Faithful entry older := by
  induction checkers with
  | nil => exact faithful
  | cons checker checkers ih => exact forall_split_cons.mpr ⟨trivial, ih⟩

theorem Recorded.apply (recorded : Recorded c) (step : ClockStep σ) :
    Recorded (c.apply step) := by
  obtain ⟨clear, current, faithful⟩ := recorded
  cases step with
  | setChecker checker => exact ⟨clear, rfl, forall_split_cons.mpr ⟨trivial, faithful⟩⟩
  | setFarewell farewell =>
    have leads := c.ticker.perform_leads (.setFarewell farewell) rfl
    exact ⟨leads.poised.trans clear, leads.checker.trans current, faithful⟩
  | retime seconds =>
    have leads := c.ticker.perform_leads (.retime seconds) rfl
    exact ⟨leads.poised.trans clear, leads.checker.trans current, faithful⟩
  | wake =>
    rw [Chronicle.apply]
    split
    · next due =>
      have called : Faithful (.beat ⟨c.now, c.ticker.start⟩) c.entries :=
        c.ticker.start_checker.trans current
      refine ⟨wake_clear clear c.now, ?_,
        faithful_installed _ (forall_split_cons.mpr ⟨called, faithful⟩)⟩
      calc c.wake.ticker.checker
          = (c.ticker.start.replaced c.now).head?.or c.ticker.checker := wake_checker clear due
        _ = lastInstalled c.wake.entries := by
          rw [Chronicle.wake, lastInstalled_append, current]
          rfl
    · exact ⟨clear, current, faithful⟩
  | pass millis =>
    rw [Chronicle.apply]
    split
    · exact ⟨clear, current, faithful⟩
    · exact ⟨by rw [pass_ticker, clear], by rw [pass_ticker, pass_entries, current],
        by rwa [pass_entries]⟩

theorem Recorded.run (recorded : Recorded c) (steps : List (ClockStep σ)) :
    Recorded (run steps c) := by
  induction steps generalizing c with
  | nil => exact recorded
  | cons step steps ih => exact ih (recorded.apply step)

end Chronicle
end Ticker
end Lanes
