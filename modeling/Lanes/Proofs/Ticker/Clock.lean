import Lanes.Proofs.Ticker.Chronicle

/-!
# The beats of a ticker on the clock

Until it is told to end a ticker beats at once when its task first runs, and then whenever the
period is over that was in force at the end of the beat before, or thirty years are. What a checker
makes of a beat has no influence on the moment of the next one, unless it changes the period.
-/
namespace Lanes
namespace Ticker
variable {σ : Type} {t t' : Ticker σ}

/-! ### Periods -/

/-- No period is zero. -/
def Paced (t : Ticker σ) : Prop := 0 < t.metronome.period.nanos

theorem Paced.new (period : Duration) (checker : Option (Checker σ)) (memory : σ) :
    (new period checker memory).Paced :=
  Duration.orDefault_pos (by decide)

theorem Meddles.paced (h : Meddles t t') (paced : t.Paced) : t'.Paced := by
  cases h with
  | remember => exact paced
  | retime seconds =>
    unfold Ticker.retime
    cases ok : t.metronome.retime seconds with
    | error => exact paced
    | ok retimed =>
      obtain ⟨period, positive, rfl⟩ := Metronome.retime_ok ok
      exact positive
  | replace => exact paced
  | register farewell =>
    unfold setFarewell
    cases t.farewell <;> exact paced
  | close =>
    rw [close_eq]
    split <;> exact paced
  | abandon => exact paced

theorem Paced.start (paced : t.Paced) : t.start.Paced := by
  rwa [Paced, start_metronome]

theorem Paced.fire (paced : t.Paced) (now : Moment) : (t.fire now).Paced := by
  unfold Ticker.fire
  cases t.checker with
  | none => exact paced
  | some checker => exact react_keeps (P := Paced) Meddles.paced (checker now t.memory) paced

namespace Chronicle
variable {c : Chronicle σ} {steps : List (ClockStep σ)} {step : ClockStep σ} {start : Moment}

/-! ### The moments of the beats -/

/-- When the next beat is due, with the latest beat first. -/
def nextBeat (start : Moment) : List (Beat σ) → Moment
  | [] => start
  | b :: _ => b.moment.after b.period

/-- What the task waits for. -/
def phaseAfter : List (Beat σ) → MetronomePhase
  | [] => .spawned
  | b :: _ => .sleeping (b.moment.after b.period)

/-- A ticker that was not told to end has beaten whenever a beat was due, and it waits for the next
one. -/
structure Punctual (start : Moment) (c : Chronicle σ) : Prop where
  clear : c.ticker.poised = false
  untold : c.ticker.metronome.cancelled = false
  paced : c.ticker.Paced
  whole : Moment.resolution ∣ c.now
  phase : c.ticker.metronome.phase = phaseAfter c.beats
  begun : start ≤ c.now
  past : ∀ b ∈ c.beats, b.moment ≤ c.now
  within : c.now ≤ nextBeat start c.beats
  spaced : ∀ later b earlier, c.beats = later ++ b :: earlier → b.moment = nextBeat start earlier
  calls : c.ticker.calls = (c.beats.reverse.filterMap Beat.outcome).map .check

theorem Punctual.new (period : Duration) (checker : Option (Checker σ)) (memory : σ)
    (millis : Nat) : Punctual (millis * Moment.resolution) (new period checker memory millis) := by
  have none : (Chronicle.new period checker memory millis).beats = [] := by
    cases checker <;> rfl
  constructor
  case clear => rfl
  case untold => rfl
  case paced => exact Paced.new period checker memory
  case whole => exact Nat.dvd_mul_left ..
  case phase =>
    rw [none]
    rfl
  case begun => exact Nat.le_refl _
  case past => simp [none]
  case within =>
    rw [none]
    exact Nat.le_refl _
  case spaced => simp [none]
  case calls =>
    rw [none]
    rfl

/-- The task has something to do when the next beat is due. -/
theorem Punctual.due_iff (punctual : Punctual start c) :
    c.due = true ↔ c.now = nextBeat start c.beats := by
  have within := punctual.within
  unfold due Metronome.due
  rw [punctual.phase]
  cases beats : c.beats with
  | nil =>
    rw [beats] at within
    simpa [phaseAfter, nextBeat] using Nat.le_antisymm within punctual.begun
  | cons b earlier =>
    rw [beats] at within
    simp only [phaseAfter, punctual.untold, Bool.false_or, decide_eq_true_eq]
    exact ⟨fun late => Nat.le_antisymm within late, fun onTime => Nat.le_of_eq onTime.symm⟩

theorem Punctual.idle_iff (punctual : Punctual start c) :
    c.due = false ↔ c.now < nextBeat start c.beats := by
  rw [← Bool.not_eq_true, punctual.due_iff, Nat.lt_iff_le_and_ne]
  exact ⟨fun early => ⟨punctual.within, early⟩, fun ahead => ahead.2⟩

/-- What the owner does moves no beat. -/
theorem Punctual.meddle {t : Ticker σ} {entries : List (Entry σ)} (punctual : Punctual start c)
    (meddles : Meddles c.ticker t) (untold : t.metronome.cancelled = false)
    (same : entries.filterMap Entry.beat? = c.beats) :
    Punctual start { c with ticker := t, entries } := by
  obtain ⟨asks, leads⟩ := meddles.leads
  have beats : ({ c with ticker := t, entries } : Chronicle σ).beats = c.beats := same
  constructor
  case clear => exact leads.poised.trans punctual.clear
  case untold => exact untold
  case paced => exact meddles.paced punctual.paced
  case whole => exact punctual.whole
  case phase => rw [beats, ← punctual.phase, ← leads.phase]
  case begun => exact punctual.begun
  case past => exact beats ▸ punctual.past
  case within => exact beats ▸ punctual.within
  case spaced => exact beats ▸ punctual.spaced
  case calls => rw [beats, ← punctual.calls, leads.calls, List.append_nil]

theorem Punctual.paced_fire (punctual : Punctual start c) :
    (c.ticker.start.fire c.now).Paced :=
  punctual.paced.start.fire c.now

/-- After a beat the next one is still to come. -/
theorem Punctual.ahead (punctual : Punctual start c) : c.now < nextBeat start c.wake.beats := by
  rw [beats_wake]
  exact Moment.lt_after c.now punctual.paced_fire

theorem Punctual.wake (punctual : Punctual start c) (due : c.due = true)
    (untold : c.wake.ticker.metronome.cancelled = false) : Punctual start c.wake := by
  have onTime := punctual.due_iff.mp due
  let beat : Beat σ := ⟨c.now, c.ticker.start⟩
  have woken : c.wake.ticker = (c.ticker.start.fire c.now).rest c.now := by
    obtain ⟨idle, -⟩ | ⟨-, -, eq⟩ | ⟨-, told, -⟩ := wake_cases punctual.clear c.now
    · exact absurd (due.symm.trans idle) (by simp)
    · exact eq
    · exact absurd (told.symm.trans punctual.untold) (by simp)
  have leads := c.ticker.start_leads.trans (c.ticker.start.fire_leads c.now)
  constructor
  case clear => exact wake_clear punctual.clear c.now
  case untold => exact untold
  case paced =>
    rw [Paced, woken, rest_metronome]
    exact punctual.paced_fire
  case whole => exact punctual.whole
  case phase =>
    rw [woken, rest_metronome, beats_wake]
    rfl
  case begun => exact punctual.begun
  case past =>
    rw [beats_wake]
    exact List.forall_mem_cons.mpr ⟨Nat.le_refl _, punctual.past⟩
  case within => exact Nat.le_of_lt punctual.ahead
  case spaced =>
    rw [beats_wake]
    exact forall_split_cons.mpr ⟨onTime, punctual.spaced⟩
  case calls =>
    have made : beat.outcome = c.ticker.start.check c.now := rfl
    rw [woken, rest_calls, leads.calls, punctual.calls, beats_wake, List.reverse_cons,
      List.filterMap_append, List.map_append, List.nil_append]
    cases h : c.ticker.start.check c.now <;> simp [beat, made.trans h]

theorem Punctual.pass (punctual : Punctual start c) (idle : c.due = false) (millis : Nat) :
    Punctual start (c.pass millis) ∧
      (c.pass millis).now =
        min (c.now + millis * Moment.resolution) (nextBeat start c.beats) := by
  -- Before the first beat the task has something to do.
  obtain ⟨b, earlier, some⟩ : ∃ b earlier, c.beats = b :: earlier := by
    cases none : c.beats with
    | nil => simp [due, Metronome.due, punctual.phase, none, phaseAfter] at idle
    | cons b earlier => exact ⟨b, earlier, rfl⟩
  have asleep : c.ticker.metronome.phase = .sleeping (nextBeat start c.beats) := by
    rw [punctual.phase, some]
    rfl
  have passed : c.pass millis =
      { c with now := min (c.now + millis * Moment.resolution) (nextBeat start c.beats) } := by
    simp [Chronicle.pass, asleep]
  have beats : (c.pass millis).beats = c.beats := by
    rw [Chronicle.beats, pass_entries, Chronicle.beats]
  have ticker := c.pass_ticker millis
  have later : c.now ≤ (c.pass millis).now := by
    rw [passed]
    exact Nat.le_min.mpr ⟨Nat.le_add_right .., punctual.within⟩
  refine ⟨?_, by rw [passed]⟩
  constructor
  case clear => exact ticker ▸ punctual.clear
  case untold => exact ticker ▸ punctual.untold
  case paced => exact ticker ▸ punctual.paced
  case whole =>
    have target : Moment.resolution ∣ c.now + millis * Moment.resolution :=
      Nat.dvd_add punctual.whole (Nat.dvd_mul_left ..)
    have wakeAt : Moment.resolution ∣ nextBeat start c.beats := by
      rw [some]
      exact Moment.resolution_dvd_after ..
    rw [passed]
    rcases Nat.le_total (c.now + millis * Moment.resolution) (nextBeat start c.beats) with h | h
    · rwa [Nat.min_eq_left h]
    · rwa [Nat.min_eq_right h]
  case phase => rw [ticker, beats, punctual.phase]
  case begun => exact Nat.le_trans punctual.begun later
  case past =>
    rw [beats]
    exact fun b mem => Nat.le_trans (punctual.past b mem) later
  case within =>
    rw [beats, passed]
    exact Nat.min_le_right ..
  case spaced => exact beats ▸ punctual.spaced
  case calls => rw [ticker, beats, punctual.calls]

theorem cancelled_apply (told : c.ticker.metronome.cancelled = true) (step : ClockStep σ) :
    (c.apply step).ticker.metronome.cancelled = true := by
  cases step with
  | setChecker checker => exact told
  | setFarewell farewell =>
    exact (c.ticker.perform_leads (.setFarewell farewell) rfl).cancelled told
  | retime seconds => exact (c.ticker.perform_leads (.retime seconds) rfl).cancelled told
  | wake =>
    rw [apply]
    split
    · exact wake_cancelled told c.now
    · exact told
  | pass millis =>
    rw [apply]
    split
    · exact told
    · rwa [pass_ticker]

theorem cancelled_run (told : c.ticker.metronome.cancelled = true) (steps : List (ClockStep σ)) :
    (run steps c).ticker.metronome.cancelled = true := by
  induction steps generalizing c with
  | nil => exact told
  | cons step steps ih => exact ih (cancelled_apply told step)

theorem Punctual.apply (punctual : Punctual start c) (step : ClockStep σ)
    (untold : (c.apply step).ticker.metronome.cancelled = false) :
    Punctual start (c.apply step) := by
  cases step with
  | setChecker checker => exact punctual.meddle (.replace checker) untold rfl
  | setFarewell farewell => exact punctual.meddle (.register farewell) untold rfl
  | retime seconds => exact punctual.meddle (.retime seconds) untold rfl
  | wake =>
    rw [Chronicle.apply] at untold ⊢
    split at untold
    · next due =>
      rw [if_pos due]
      exact punctual.wake due untold
    · next idle =>
      rw [if_neg idle]
      exact punctual
  | pass millis =>
    rw [Chronicle.apply]
    split
    · exact punctual
    · next idle => exact (punctual.pass (by simpa using idle) millis).1

theorem Punctual.run (punctual : Punctual start c)
    (untold : (run steps c).ticker.metronome.cancelled = false) :
    Punctual start (run steps c) := by
  induction steps generalizing c with
  | nil => exact punctual
  | cons step steps ih =>
    cases next : (c.apply step).ticker.metronome.cancelled with
    | false => exact ih (punctual.apply step next) untold
    | true => simp [cancelled_run next steps] at untold

/-! ### A constant period -/

theorem resolution_dvd_nextBeat (whole : Moment.resolution ∣ start) (beats : List (Beat σ)) :
    Moment.resolution ∣ nextBeat start beats := by
  cases beats with
  | nil => exact whole
  | cons b earlier => exact Moment.resolution_dvd_after ..

/-- With a constant period the beats are evenly spaced. -/
theorem nextBeat_of_constant {beats : List (Beat σ)} {period : Duration}
    (whole : Moment.resolution ∣ start) (span : Moment.resolution ∣ period.nanos)
    (constant : ∀ b ∈ beats, b.period = period)
    (spaced : ∀ later b earlier, beats = later ++ b :: earlier → b.moment = nextBeat start earlier) :
    nextBeat start beats =
      start + beats.length * min period.nanos Moment.longestSleep.nanos := by
  induction beats with
  | nil => simp [nextBeat]
  | cons b earlier ih =>
    obtain ⟨here, behind⟩ := forall_split_cons.mp spaced
    have before := ih (fun b mem => constant b (List.mem_cons_of_mem _ mem)) behind
    calc nextBeat start (b :: earlier)
        = (nextBeat start earlier).after period := by
          rw [nextBeat, here, constant b List.mem_cons_self]
      _ = nextBeat start earlier + min period.nanos Moment.longestSleep.nanos :=
          Moment.after_whole (resolution_dvd_nextBeat whole earlier) span
      _ = start + (b :: earlier).length * min period.nanos Moment.longestSleep.nanos := by
          rw [before, List.length_cons, Nat.succ_mul, Nat.add_assoc]

/-- As many beats follow the first one as periods have passed since. -/
theorem Punctual.count (punctual : Punctual start c) {period : Duration}
    (whole : Moment.resolution ∣ start) (span : Moment.resolution ∣ period.nanos)
    (constant : ∀ b ∈ c.beats, b.period = period) (idle : c.due = false) :
    c.beats.length = (c.now - start) / min period.nanos Moment.longestSleep.nanos + 1 := by
  have next := nextBeat_of_constant whole span constant punctual.spaced
  have ahead := punctual.idle_iff.mp idle
  cases beats : c.beats with
  | nil =>
    rw [beats, nextBeat] at ahead
    exact absurd punctual.begun (Nat.not_le.mpr ahead)
  | cons b earlier =>
    have last : b.moment =
        start + earlier.length * min period.nanos Moment.longestSleep.nanos := by
      obtain ⟨here, behind⟩ := forall_split_cons.mp (beats ▸ punctual.spaced)
      rw [here, nextBeat_of_constant whole span (fun b mem => ?_) behind]
      exact constant b (beats ▸ List.mem_cons_of_mem _ mem)
    have past : b.moment ≤ c.now := punctual.past b (beats ▸ List.mem_cons_self)
    rw [next, beats, List.length_cons] at ahead
    rw [List.length_cons, Nat.add_right_cancel_iff, eq_comm]
    rw [last] at past
    exact Nat.div_eq_of_lt_le (Nat.le_sub_of_add_le' past)
      (Nat.sub_lt_left_of_lt_add punctual.begun ahead)

/-! ### Going on -/

/-- Whether the step needs nobody but the task and the clock. -/
def alone : ClockStep σ → Bool
  | .wake | .pass _ => true
  | _ => false

/-- The ticker comes, by itself, to a moment at which its task has nothing left to do, unless it is
told to end before. -/
def Comes (c : Chronicle σ) (moment : Moment) : Prop :=
  ∃ steps, (∀ step ∈ steps, alone step = true) ∧
    ((run steps c).ticker.metronome.cancelled = true ∨
      (run steps c).now = moment ∧ (run steps c).due = false)

theorem Comes.of_cancelled {moment : Moment} (told : c.ticker.metronome.cancelled = true) :
    Comes c moment := ⟨[], by simp, .inl told⟩

theorem Comes.of_idle (idle : c.due = false) : Comes c c.now := ⟨[], by simp, .inr ⟨rfl, idle⟩⟩

theorem Comes.before {moment : Moment} (steps : List (ClockStep σ))
    (by_itself : ∀ step ∈ steps, alone step = true) (h : Comes (run steps c) moment) :
    Comes c moment := by
  obtain ⟨more, all, comes⟩ := h
  refine ⟨steps ++ more, ?_, ?_⟩
  · exact fun step mem => (List.mem_append.mp mem).elim (by_itself step) (all step)
  · rwa [run_append]

/-- When a beat is due the task makes it and has nothing left to do, unless the ticker is told to
end meanwhile. -/
theorem Punctual.beat (punctual : Punctual start c) (due : c.due = true) :
    (c.apply .wake).now = c.now ∧ ((c.apply .wake).ticker.metronome.cancelled = true ∨
      Punctual start (c.apply .wake) ∧ (c.apply .wake).due = false) := by
  have woken : c.apply .wake = c.wake := if_pos due
  rw [woken]
  refine ⟨rfl, ?_⟩
  cases told : c.wake.ticker.metronome.cancelled with
  | true => exact .inl rfl
  | false =>
    have after := punctual.wake due told
    exact .inr ⟨after, after.idle_iff.mpr punctual.ahead⟩

/-- Time passes up to the next beat, unless the time is over before, and then goes on from there. -/
theorem Punctual.comes_of_idle (punctual : Punctual start c) (whole : Moment.resolution ∣ start)
    (idle : c.due = false) (millis : Nat) : Comes c (c.now + millis * Moment.resolution) := by
  induction millis using Nat.strongRecOn generalizing c with
  | ind millis ih =>
    have passed (n : Nat) : c.apply (.pass n) = c.pass n := by simp [Chronicle.apply, idle]
    have beats (n : Nat) : (c.pass n).beats = c.beats := by
      rw [Chronicle.beats, pass_entries, Chronicle.beats]
    rcases Nat.lt_or_ge (c.now + millis * Moment.resolution) (nextBeat start c.beats) with
      early | late
    · obtain ⟨after, now⟩ := punctual.pass idle millis
      rw [Nat.min_eq_left (Nat.le_of_lt early)] at now
      refine .before [.pass millis] (by simp [alone]) ?_
      rw [run_cons, run_nil, passed, ← now]
      exact .of_idle (after.idle_iff.mpr (by rwa [now, beats]))
    · have ahead := punctual.idle_iff.mp idle
      obtain ⟨n, span⟩ : Moment.resolution ∣ nextBeat start c.beats - c.now :=
        Nat.dvd_sub (resolution_dvd_nextBeat whole c.beats) punctual.whole
      have next : nextBeat start c.beats = c.now + n * Moment.resolution := by
        rw [Nat.mul_comm, ← span, Nat.add_sub_cancel' punctual.within]
      have forward : 0 < n := by
        refine Nat.pos_of_ne_zero ?_
        rintro rfl
        rw [next, Nat.zero_mul, Nat.add_zero] at ahead
        exact Nat.lt_irrefl _ ahead
      have enough : n ≤ millis := by
        rw [next] at late
        exact Nat.le_of_mul_le_mul_right (Nat.le_of_add_le_add_left late) (by decide)
      obtain ⟨onTime, now⟩ := punctual.pass idle n
      rw [next, Nat.min_self] at now
      have due : (c.pass n).due = true := onTime.due_iff.mpr (by rw [now, beats, next])
      refine .before [.pass n, .wake] (by simp [alone]) ?_
      rw [run_cons, run_cons, run_nil, passed]
      obtain ⟨same, told | ⟨after, beaten⟩⟩ := onTime.beat due
      · exact .of_cancelled told
      · have rest := ih (millis - n) (by omega) after beaten
        rwa [same, now, Nat.add_assoc, ← Nat.add_mul, Nat.add_sub_cancel' enough] at rest

theorem Punctual.comes (punctual : Punctual start c) (whole : Moment.resolution ∣ start)
    (millis : Nat) : Comes c (c.now + millis * Moment.resolution) := by
  cases due : c.due with
  | false => exact punctual.comes_of_idle whole due millis
  | true =>
    refine .before [.wake] (by simp [alone]) ?_
    rw [run_cons, run_nil]
    obtain ⟨same, told | ⟨after, beaten⟩⟩ := punctual.beat due
    · exact .of_cancelled told
    · exact same ▸ after.comes_of_idle whole beaten millis

/-! ### Keeping time -/

/-- How a ticker keeps time that began at some moment and was not told to end. -/
structure KeepsTime (start : Moment) (c : Chronicle σ) : Prop where
  /-- The first beat is at the beginning. -/
  first : c.beats = [] ∧ c.now = start ∨ ∃ b, c.beats.getLast? = some b ∧ b.moment = start
  /-- Any other beat is when the period is over that was in force at the end of the one before, or,
  for a period of whole milliseconds, exactly so much later, but no more than thirty years. -/
  next : ∀ later b a earlier, c.beats = later ++ b :: a :: earlier →
    b.moment = a.moment.after a.period ∧
    (Moment.resolution ∣ a.period.nanos →
      b.moment = a.moment + min a.period.nanos Moment.longestSleep.nanos)
  /-- Whatever happened since the latest beat, the next one is still when it was to be. -/
  waits : ∀ b earlier, c.beats = b :: earlier →
    c.ticker.metronome.phase = .sleeping (b.moment.after b.period)
  /-- A beat calls the checker that was installed last, if any was. -/
  checker : ∀ newer b older, c.entries = newer ++ .beat b :: older →
    b.checker = lastInstalled older
  /-- Each beat makes one call, if it has a checker, and nothing else does. -/
  calls : c.ticker.calls = (c.beats.reverse.filterMap Beat.outcome).map .check
  /-- With a constant period of whole milliseconds as many beats follow the first one as periods fit
  into the time since, or spans of thirty years if these are shorter. -/
  count : ∀ period, Moment.resolution ∣ period.nanos → (∀ b ∈ c.beats, b.period = period) →
    c.due = false →
    c.beats.length = (c.now - start) / min period.nanos Moment.longestSleep.nanos + 1
  /-- Any time later the task has made all its beats, or the ticker was told to end before. -/
  comes : ∀ millis, Comes c (c.now + millis * Moment.resolution)

theorem Punctual.keepsTime (punctual : Punctual start c) (recorded : Recorded c)
    (whole : Moment.resolution ∣ start) : KeepsTime start c where
  first := by
    cases some : c.beats.getLast? with
    | none =>
      have none : c.beats = [] := List.getLast?_eq_none_iff.mp some
      have within := punctual.within
      rw [none] at within
      exact .inl ⟨none, Nat.le_antisymm within punctual.begun⟩
    | some b =>
      obtain ⟨later, split⟩ := List.getLast?_eq_some_iff.mp some
      exact .inr ⟨b, rfl, punctual.spaced later b [] split⟩
  next := by
    intro later b a earlier split
    have onTime := punctual.spaced later b (a :: earlier) split
    refine ⟨onTime, fun span => onTime.trans (Moment.after_whole ?_ span)⟩
    rw [punctual.spaced (later ++ [b]) a earlier (by simp [split])]
    exact resolution_dvd_nextBeat whole earlier
  waits := by
    intro b earlier latest
    rw [punctual.phase, latest]
    rfl
  checker newer b older split := recorded.faithful newer (.beat b) older split
  calls := punctual.calls
  count period span constant idle := punctual.count whole span constant idle
  comes := punctual.comes whole

/-- A ticker keeps time until it is told to end, whatever its checkers make of the beats, and
whatever its owner and its checkers change meanwhile. -/
theorem beats_when_the_period_is_over (period : Duration) (checker : Option (Checker σ))
    (memory : σ) (millis : Nat) (steps : List (ClockStep σ))
    (untold : (run steps (new period checker memory millis)).ticker.metronome.cancelled = false) :
    KeepsTime (millis * Moment.resolution) (run steps (new period checker memory millis)) :=
  ((Punctual.new period checker memory millis).run untold).keepsTime
    ((Recorded.new period checker memory millis).run steps) (Nat.dvd_mul_left ..)

/-- Does nothing. -/
def content : Checker Unit := fun _ _ => .done (.returned ()) ()

/-- Puts another checker in its place and panics. -/
def leaving : Checker Unit := fun _ _ => .replace content (fun _ => .done (.panicked .other) ())

/-- Half a second becomes the period while the task sleeps for a whole one. -/
def hastened : List (ClockStep Unit) :=
  [.wake, .pass 3, .retime ⟨0x3fe0000000000000⟩, .pass 5000, .wake, .pass 500, .wake]

theorem hastened_keepsTime :
    let c := run hastened (new (.ofSeconds 1) (some leaving) () 0)
    c.ticker.metronome.cancelled = false ∧
      c.beats.map Beat.moment = [1500000000, 1000000000, 0] ∧
      c.ticker.calls = (c.beats.reverse.filterMap Beat.outcome).map .check :=
  have untold : (run hastened (new (.ofSeconds 1) (some leaving) () 0)).ticker.metronome.cancelled =
      false := by decide +kernel
  ⟨untold, by decide +kernel,
    (beats_when_the_period_is_over (.ofSeconds 1) (some leaving) () 0 hastened untold).calls⟩

/-- With a period of sixty years the second beat comes after thirty. -/
theorem beats_after_thirty_years :
    let c := run [.wake, .pass 946080000000, .wake]
      (new (.ofSeconds 1892160000) (some content) () 0)
    c.ticker.metronome.cancelled = false ∧
      ∃ b a, c.beats = [b, a] ∧ a.period = .ofSeconds 1892160000 ∧
        b.moment ≠ a.moment + a.period.nanos := by
  refine ⟨by decide +kernel, _, _, rfl, by decide +kernel, by decide +kernel⟩

end Chronicle
end Ticker
end Lanes
