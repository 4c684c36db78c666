import Lanes.Proofs.Lane.Moves

/-!
# Shutdown of a lane

A lane is told to stop in two stages. First its ticker is cancelled, which beats a last time, so
that a last tick waits in the mailbox unless there is no room for it. Only when the ticker has ended
the mailbox is closed, and its consumer drains it, says farewell and stops. All this is read off the
moves of a lane whose host stays up.
-/
namespace Lanes

namespace LaneEvent
variable {α β : Type}

@[simp] def fire? : LaneEvent α β → Option (Outcome Unit)
  | ticker (.fired outcome) => some outcome
  | _ => none

end LaneEvent

theorem Metronome.close?_eq_ok_iff {m m' : Metronome} :
    m.close? = .ok m' ↔ m.closed = false ∧ m' = { m with closed := true } := by
  unfold close?
  cases m.closed <;> simp [eq_comm]

namespace Lane
variable {α β γ σ : Type}

/-- How the beats of the ticker ended, in order. -/
def fires (events : List (LaneEvent α β)) : List (Outcome Unit) :=
  events.filterMap LaneEvent.fire?

section Projection
variable (events more : List (LaneEvent α β))

@[simp] theorem fires_append : fires (events ++ more) = fires events ++ fires more :=
  List.filterMap_append ..

@[simp] theorem fires_mailbox (event : Mailbox.Event (LaneMessage α) (Option β)) :
    fires (.mailbox event :: events) = fires events := rfl

@[simp] theorem fires_accepted (envelopes : List (Envelope (LaneMessage α))) :
    fires (envelopes.map (fun e => (.mailbox (.accepted e) : LaneEvent α β))) = [] := by
  induction envelopes with
  | nil => rfl
  | cons envelope rest ih => simpa using ih

theorem fires_startEvents (metronome : Metronome) :
    fires (startEvents metronome : List (LaneEvent α β)) = [] := by
  unfold startEvents
  split <;> rfl

theorem fires_beatEvents (lane : Lane α β γ) : fires lane.beatEvents = [lane.beat.1] := by
  unfold beatEvents
  cases lane.beat.2.1 <;> rfl

end Projection

variable {h : Handler α β γ σ} {outer : Influence α γ} {lane lane' : Lane α β γ}
  {events : List (LaneEvent α β)}

/-! ### Lanes whose host is up -/

/-- What holds of a lane that nobody abandons and whose host stays up. -/
structure Kept (lane : Lane α β γ) : Prop where
  dropped : lane.dropped = false
  orphaned : lane.mailbox.orphaned = false
  /-- The mailbox is not closed before the ticker has ended. -/
  guarded : lane.tickerEnded = false → lane.mailbox.closed = false
  admits : lane.mailbox.closed = false → lane.mailbox.phase.admits = true
  hosted : lane.mailbox.phase ≠ .aborted
  /-- A tick that is marked as waiting does wait. -/
  tick : lane.tickPending = true → ∃ e ∈ lane.mailbox.buffer, e.payload = .tick
  fits : lane.mailbox.size ≤ lane.mailbox.capacity

theorem Kept.new (id : LaneId) (capacity : Nat) (tick : Option Duration) :
    (new id capacity tick : Lane α β γ).Kept := by
  constructor <;> simp [Lane.new, Mailbox.new, Mailbox.size, ConsumerPhase.admits]

/-- More in the buffer does no harm, if there is room. -/
theorem Kept.intake {mailbox : Mailbox (LaneMessage α) (Option β)}
    {envelopes : List (Envelope (LaneMessage α))} (kept : lane.Kept)
    (intake : Mailbox.Intake lane.mailbox envelopes mailbox) :
    ({ lane with mailbox } : Lane α β γ).Kept := by
  have fits := intake.sendings.sent.fits kept.fits
  obtain rfl := intake.eq
  refine ⟨kept.dropped, kept.orphaned, kept.guarded, kept.admits, kept.hosted, ?_, fits⟩
  intro pending
  obtain ⟨e, waits, is⟩ := kept.tick pending
  exact ⟨e, List.mem_append_left _ waits, is⟩

/-- A beat happens before the ticker has ended, while the mailbox is open. -/
theorem Kept.beat (kept : lane.Kept) (running : lane.tickerEnded = false)
    (metronome : Option Metronome) :
    ({ lane.beat.2.2 with metronome } : Lane α β γ).Kept := by
  have opened := kept.guarded running
  rcases lane.beat_cases with ⟨-, eq⟩ | ⟨-, envelope, mailbox, ok, eq⟩ | ⟨-, -, eq⟩ | ⟨-, -, eq⟩
  case inr.inl =>
    have after := kept.intake (.single ok)
    obtain ⟨-, rfl, rfl⟩ := Mailbox.accept?_eq_ok_iff.mp ok
    rw [eq]
    exact ⟨after.dropped, after.orphaned, fun _ => opened, after.admits, after.hosted,
      fun _ => ⟨_, List.mem_append_right _ (List.mem_singleton_self _), rfl⟩, after.fits⟩
  all_goals
    rw [eq]
    exact ⟨kept.dropped, kept.orphaned, fun _ => opened, kept.admits, kept.hosted, kept.tick,
      kept.fits⟩

theorem tickerEnded_of_due {metronome : Metronome} {now : Moment}
    (has : lane.metronome = some metronome) (due : metronome.due now = true) :
    lane.tickerEnded = false := by
  unfold tickerEnded
  rw [has]
  unfold Metronome.due at due
  cases phase : metronome.phase <;> simp [phase, MetronomePhase.ended] at due ⊢

theorem tickerEnded_take (lane : Lane α β γ) (message : LaneMessage α) :
    (lane.take message).tickerEnded = lane.tickerEnded := by
  cases message <;> rfl

/-- A consumer whose host is up ends where its drain is over. -/
theorem Kept.stopped (kept : lane.Kept) (past : lane.mailbox.phase.ended = true) :
    lane.mailbox.phase = .stopped := by
  have hosted := kept.hosted
  cases phase : lane.mailbox.phase <;> simp [phase, ConsumerPhase.ended] at past hosted ⊢

theorem Kept.enter (kept : lane.Kept) {phase : ConsumerPhase}
    (admits : lane.mailbox.closed = false → phase.admits = true) (hosted : phase ≠ .aborted) :
    ({ lane with mailbox := lane.mailbox.enter phase } : Lane α β γ).Kept :=
  ⟨kept.dropped, kept.orphaned, kept.guarded, admits, hosted, kept.tick, kept.fits⟩

/-- A mailbox that nobody orphans is drained only when it is closed. -/
theorem Kept.closed_of_drain (kept : lane.Kept) (turn : lane.mailbox.turn = .drain) :
    lane.mailbox.closed = true := by
  have receiving := Mailbox.phase_of_turn_drain turn
  cases closed : lane.mailbox.closed with
  | true => rfl
  | false =>
    unfold Mailbox.turn at turn
    rw [receiving] at turn
    cases waits : lane.mailbox.buffer <;> simp [closed, waits, kept.orphaned] at turn

/-- A consumer that admits nothing any more has found its mailbox closed. -/
theorem Kept.closed_of_late (kept : lane.Kept) (late : lane.mailbox.phase.admits = false) :
    lane.mailbox.closed = true := by
  cases closed : lane.mailbox.closed with
  | true => rfl
  | false =>
    have admits := kept.admits closed
    rw [late] at admits
    cases admits

theorem Kept.closed_of_finish (kept : lane.Kept) (turn : lane.mailbox.turn = .finish) :
    lane.mailbox.closed = true := by
  have draining := (Mailbox.buffer_of_turn_finish turn).1
  exact kept.closed_of_late (by rw [draining]; rfl)

theorem Kept.ended_of_closed (kept : lane.Kept) (closed : lane.mailbox.closed = true) :
    lane.tickerEnded = true := by
  cases ended : lane.tickerEnded with
  | true => rfl
  | false =>
    have opened := kept.guarded ended
    rw [closed] at opened
    cases opened

theorem Kept.dispatch (kept : lane.Kept) {envelope : Envelope (LaneMessage α)}
    {during : List (Envelope (LaneMessage α))} {mailbox : Mailbox (LaneMessage α) (Option β)}
    (turn : lane.mailbox.turn = .dispatch envelope)
    (meanwhile : Mailbox.Intake lane.mailbox.take during mailbox)
    (result : Except Error (Option β)) (table : Table γ) :
    ({ lane.take envelope.payload with mailbox := mailbox.answer envelope result, table } :
      Lane α β γ).Kept := by
  have first := (Mailbox.buffer_of_turn_dispatch turn).1
  have room : lane.mailbox.take.size ≤ lane.mailbox.take.capacity := by
    have shorter := congrArg List.length first
    have fits : lane.mailbox.buffer.length ≤ lane.mailbox.capacity := kept.fits
    rw [List.length_cons] at shorter
    change lane.mailbox.take.buffer.length ≤ lane.mailbox.capacity
    omega
  have fits := meanwhile.sendings.sent.fits room
  obtain rfl := meanwhile.eq
  constructor
  · cases envelope.payload <;> exact kept.dropped
  · simpa [Mailbox.take] using kept.orphaned
  · intro running
    have before : lane.tickerEnded = false := (lane.tickerEnded_take _).symm.trans running
    simpa [Mailbox.take] using kept.guarded before
  · simpa [Mailbox.take] using kept.admits
  · simpa [Mailbox.take] using kept.hosted
  · intro pending
    cases is : envelope.payload with
    | tick => simp [Lane.take, is] at pending
    | request payload =>
      obtain ⟨e, waits, tick⟩ := kept.tick (by simpa [Lane.take, is] using pending)
      rw [first] at waits
      rcases List.mem_cons.mp waits with rfl | later
      · rw [is] at tick
        cases tick
      · exact ⟨e, by simp [later], tick⟩
  · simpa [Mailbox.size] using fits

theorem Move.kept (m : Move h outer lane events lane') (up : ¬ outer.aborts) (kept : lane.Kept) :
    lane'.Kept := by
  cases m with
  | accept _ ok => exact kept.intake (.single ok)
  | setTable => exact ⟨kept.dropped, kept.orphaned, kept.guarded, kept.admits, kept.hosted,
      kept.tick, kept.fits⟩
  | retime ok =>
    obtain ⟨metronome, period, has, rfl⟩ := retime_eq ok
    refine ⟨kept.dropped, kept.orphaned, fun running => kept.guarded ?_, kept.admits, kept.hosted,
      kept.tick, kept.fits⟩
    simpa [tickerEnded, has] using running
  | closeTicker _ has ok =>
    refine ⟨kept.dropped, kept.orphaned, fun running => kept.guarded ?_, kept.admits, kept.hosted,
      kept.tick, kept.fits⟩
    obtain ⟨-, rfl⟩ := Metronome.close?_eq_ok_iff.mp ok
    simpa [tickerEnded, has] using running
  | close _ ended ok =>
    obtain ⟨-, rfl⟩ := Mailbox.close?_eq_ok_iff.mp ok
    refine ⟨kept.dropped, kept.orphaned, ?_, ?_, kept.hosted, kept.tick, kept.fits⟩
    · intro running
      exact absurd (running.symm.trans ended) (by simp)
    · intro opened
      cases opened
  | orphan gone => simp [kept.dropped] at gone
  | start turn => exact kept.enter (fun _ => rfl) (by simp)
  | drain turn => exact kept.enter (by simp [kept.closed_of_drain turn]) (by simp)
  | dispatch turn meanwhile _ _ => exact kept.dispatch turn meanwhile _ _
  | finish _ turn => exact kept.enter (by simp [kept.closed_of_finish turn]) (by simp)
  | beat _ has due _ => exact kept.beat (tickerEnded_of_due has due) _
  | lastBeat _ has due _ => exact kept.beat (tickerEnded_of_due has due) _
  | abortTicker down => exact absurd down up
  | abort down => exact absurd down up
  | findTicker => exact kept
  | find => exact kept

theorem Moves.kept (m : Moves h outer lane events lane') (up : ¬ outer.aborts)
    (kept : lane.Kept) : lane'.Kept :=
  m.keeps (fun move => move.kept up) kept

/-! ### Lanes that nobody has told to stop -/

/-- Nobody has told the lane to stop, and its ticker runs if it has one. -/
structure Untold (lane : Lane α β γ) : Prop where
  closed : lane.mailbox.closed = false
  ticker : ∀ metronome, lane.metronome = some metronome →
    metronome.cancelled = false ∧ metronome.phase.ended = false

theorem Untold.new (id : LaneId) (capacity : Nat) (tick : Option Duration) :
    (new id capacity tick : Lane α β γ).Untold := by
  refine ⟨rfl, ?_⟩
  intro metronome has
  obtain ⟨period, -, rfl⟩ := Option.map_eq_some_iff.mp has
  exact ⟨rfl, rfl⟩

theorem Untold.running (untold : lane.Untold) {metronome : Metronome}
    (has : lane.metronome = some metronome) : lane.tickerEnded = false := by
  unfold tickerEnded
  rw [has]
  exact (untold.ticker metronome has).2

theorem Move.untold (m : Move h outer lane events lane') (spared : ¬ outer.stops)
    (up : ¬ outer.aborts) (untold : lane.Untold) : lane'.Untold := by
  cases m with
  | accept _ ok =>
    obtain ⟨-, rfl, rfl⟩ := Mailbox.accept?_eq_ok_iff.mp ok
    exact ⟨untold.closed, untold.ticker⟩
  | setTable => exact ⟨untold.closed, untold.ticker⟩
  | retime ok =>
    obtain ⟨metronome, period, has, rfl⟩ := retime_eq ok
    refine ⟨untold.closed, ?_⟩
    intro metronome' is
    obtain rfl := Option.some.inj is
    exact untold.ticker metronome has
  | closeTicker told => exact absurd told spared
  | close told => exact absurd told spared
  | orphan => exact ⟨untold.closed, untold.ticker⟩
  | start => exact ⟨untold.closed, untold.ticker⟩
  | drain => exact ⟨untold.closed, untold.ticker⟩
  | @dispatch envelope _ _ _ _ _ meanwhile _ _ =>
    obtain rfl := meanwhile.eq
    refine ⟨by simpa [Mailbox.take] using untold.closed, ?_⟩
    cases envelope.payload <;> exact untold.ticker
  | finish => exact ⟨untold.closed, untold.ticker⟩
  | beat now has _ goes =>
    refine ⟨by simpa [lane.beat_mailbox.eq] using untold.closed, ?_⟩
    intro metronome' is
    obtain rfl := Option.some.inj is
    exact ⟨goes, rfl⟩
  | lastBeat _ has _ ends =>
    rw [(untold.ticker _ has).1] at ends
    cases ends
  | abortTicker down => exact absurd down up
  | abort down => exact absurd down up
  | findTicker => exact untold
  | find => exact untold

theorem Moves.untold (m : Moves h outer lane events lane') (spared : ¬ outer.stops)
    (up : ¬ outer.aborts) (untold : lane.Untold) : lane'.Untold :=
  m.keeps (fun move => move.untold spared up) untold

/-! ### The last beat, and the end of the mailbox -/

theorem Move.capacity (m : Move h outer lane events lane') :
    lane'.mailbox.capacity = lane.mailbox.capacity := by
  cases m with
  | accept _ ok =>
    obtain ⟨-, rfl, rfl⟩ := Mailbox.accept?_eq_ok_iff.mp ok
    rfl
  | retime ok =>
    obtain ⟨metronome, period, -, rfl⟩ := retime_eq ok
    rfl
  | close _ _ ok =>
    obtain ⟨-, rfl⟩ := Mailbox.close?_eq_ok_iff.mp ok
    rfl
  | dispatch _ meanwhile _ _ =>
    obtain rfl := meanwhile.eq
    simp [Mailbox.take]
  | beat => simp [lane.beat_mailbox.eq]
  | lastBeat => simp [lane.beat_mailbox.eq]
  | abort _ running => simp [Mailbox.abort, running]
  | _ => rfl

/-- A ticker that has ended does not beat, and does not come back. -/
theorem Move.ticker_over (m : Move h outer lane events lane') (ended : lane.tickerEnded = true) :
    lane'.tickerEnded = true ∧ fires events = [] := by
  cases m with
  | accept => exact ⟨ended, rfl⟩
  | retime ok =>
    obtain ⟨metronome, period, has, rfl⟩ := retime_eq ok
    exact ⟨by simpa [tickerEnded, has] using ended, rfl⟩
  | closeTicker _ has ok =>
    obtain ⟨-, rfl⟩ := Metronome.close?_eq_ok_iff.mp ok
    exact ⟨by simpa [tickerEnded, has] using ended, rfl⟩
  | @dispatch envelope during _ _ _ _ _ _ _ =>
    refine ⟨(lane.tickerEnded_take envelope.payload).trans ended, ?_⟩
    rw [fires_append, fires_accepted]
    rfl
  | beat _ has due =>
    rw [tickerEnded_of_due has due] at ended
    cases ended
  | lastBeat _ has due =>
    rw [tickerEnded_of_due has due] at ended
    cases ended
  | abortTicker _ has running =>
    refine ⟨?_, rfl⟩
    simp [tickerEnded, has, running] at ended
  | _ => exact ⟨ended, rfl⟩

/-- The move with which a ticker ends is its last beat. A tick waits behind it, unless the mailbox
is full. -/
theorem Move.last_beat (m : Move h outer lane events lane') (up : ¬ outer.aborts)
    (kept : lane.Kept) (running : lane.tickerEnded = false) (past : lane'.tickerEnded = true) :
    fires events ≠ [] ∧ ((∃ e ∈ lane'.mailbox.buffer, e.payload = .tick) ∨
      (fires events).getLast? = some (.failed (.queueFull lane.mailbox.capacity))) := by
  cases m with
  | lastBeat now has due ends =>
    simp only [fires_append, fires_startEvents, fires_beatEvents]
    refine ⟨by simp, ?_⟩
    rcases lane.beat_cases with ⟨pending, eq⟩ | ⟨-, envelope, mailbox, ok, eq⟩ | ⟨-, refused, -⟩ |
      ⟨-, -, eq⟩
    · rw [eq]
      exact .inl (kept.tick pending)
    · obtain ⟨-, rfl, rfl⟩ := Mailbox.accept?_eq_ok_iff.mp ok
      rw [eq]
      exact .inl ⟨_, List.mem_append_right _ (List.mem_singleton_self _), rfl⟩
    · -- the mailbox is open as long as the ticker runs
      have opened := kept.guarded running
      have admits := kept.admits opened
      simp [Mailbox.refusal, opened, admits] at refused
    · rw [eq]
      exact .inr rfl
  | retime ok =>
    obtain ⟨metronome, period, has, rfl⟩ := retime_eq ok
    simp [tickerEnded, has] at running past
    simp [running] at past
  | closeTicker _ has ok =>
    obtain ⟨-, rfl⟩ := Metronome.close?_eq_ok_iff.mp ok
    simp [tickerEnded, has] at running past
    simp [running] at past
  | @dispatch envelope =>
    have before := (lane.tickerEnded_take envelope.payload).symm.trans past
    simp [before] at running
  | beat => simp [tickerEnded, Metronome.rest, MetronomePhase.ended] at past
  | abortTicker down => exact absurd down up
  | _ =>
    have before : lane.tickerEnded = true := past
    simp [before] at running

/-- A mailbox is closed by a move of its own, when the ticker has ended. -/
theorem Move.closing (m : Move h outer lane events lane') (opened : lane.mailbox.closed = false)
    (closed : lane'.mailbox.closed = true) :
    events = [.mailbox .closed] ∧ lane.tickerEnded = true := by
  cases m with
  | close _ ended => exact ⟨rfl, ended⟩
  | accept _ ok =>
    obtain ⟨-, rfl, rfl⟩ := Mailbox.accept?_eq_ok_iff.mp ok
    exact absurd (closed.symm.trans opened) (by simp)
  | retime ok =>
    obtain ⟨metronome, period, -, rfl⟩ := retime_eq ok
    exact absurd (closed.symm.trans opened) (by simp)
  | dispatch _ meanwhile _ _ =>
    obtain rfl := meanwhile.eq
    simp [Mailbox.take, opened] at closed
  | beat => simp [lane.beat_mailbox.eq, opened] at closed
  | lastBeat => simp [lane.beat_mailbox.eq, opened] at closed
  | abort _ running => simp [Mailbox.abort, running, opened] at closed
  | _ => exact absurd (closed.symm.trans opened) (by simp)

/-- What has happened to a lane since it was told to stop, on a host that stays up. -/
structure WindsDown (first : Lane α β γ) (events : List (LaneEvent α β)) (lane : Lane α β γ) :
    Prop where
  capacity : lane.mailbox.capacity = first.mailbox.capacity
  /-- The ticker beats before the mailbox is closed, and not after that; from then on nothing is
  accepted. -/
  closing : lane.mailbox.closed = true → ∃ before after,
    events = before ++ .mailbox .closed :: after ∧
    (first.metronome.isSome → fires before ≠ []) ∧ fires after = [] ∧
    Mailbox.acceptances (LaneEvent.inMailbox after) = []
  ended : first.metronome.isSome → lane.tickerEnded = true → fires events ≠ []
  /-- A tick is dispatched or waits, or the last beat found the mailbox full. -/
  tick : first.metronome.isSome → lane.tickerEnded = true →
    (∃ e ∈ Mailbox.dispatches (LaneEvent.inMailbox events) ++ lane.mailbox.buffer,
      e.payload = .tick) ∨
    (fires events).getLast? = some (.failed (.queueFull first.mailbox.capacity))

theorem WindsDown.refl (untold : lane.Untold) : WindsDown lane [] lane := by
  have running (has : lane.metronome.isSome) (past : lane.tickerEnded = true) : False := by
    obtain ⟨metronome, is⟩ := Option.isSome_iff_exists.mp has
    rw [untold.running is] at past
    cases past
  constructor
  · rfl
  · intro closed
    rw [untold.closed] at closed
    cases closed
  · intro has past
    exact (running has past).elim
  · intro has past
    exact (running has past).elim

theorem WindsDown.tail {first lane lane' : Lane α β γ} {events more : List (LaneEvent α β)}
    (winds : WindsDown first events lane) (kept : lane.Kept) (up : ¬ outer.aborts)
    (m : Move h outer lane more lane') : WindsDown first (events ++ more) lane' := by
  have kept' := m.kept up kept
  have flow := m.mailbox.flow_of_up kept'.hosted
  constructor
  · exact m.capacity.trans winds.capacity
  · intro closed
    cases shut : lane.mailbox.closed with
    | true =>
      have ended := kept.ended_of_closed shut
      obtain ⟨before, after, rfl, beat, still, none⟩ := winds.closing shut
      refine ⟨before, after ++ more, by simp, beat, ?_, ?_⟩
      · simp [still, (m.ticker_over ended).2]
      · simp [none, (m.mailbox.closed shut).2.1]
    | false =>
      obtain ⟨rfl, ended⟩ := m.closing shut closed
      exact ⟨events, [], rfl, fun has => winds.ended has ended, rfl, rfl⟩
  · intro has past
    cases ended : lane.tickerEnded with
    | true => simp [winds.ended has ended]
    | false => simp [(m.last_beat up kept ended past).1]
  · intro has past
    cases ended : lane.tickerEnded with
    | true =>
      obtain ⟨e, there, is⟩ | full := winds.tick has ended
      · refine .inl ⟨e, ?_, is⟩
        rw [LaneEvent.inMailbox_append, Mailbox.dispatches_append, List.append_assoc, ← flow]
        rcases List.mem_append.mp there with done | waits
        · exact List.mem_append_left _ done
        · exact List.mem_append_right _ (List.mem_append_left _ waits)
      · exact .inr (by simpa [(m.ticker_over ended).2] using full)
    | false =>
      obtain ⟨beat, ⟨e, waits, is⟩ | full⟩ := m.last_beat up kept ended past
      · exact .inl ⟨e, List.mem_append_right _ waits, is⟩
      · refine .inr ?_
        rw [fires_append, List.getLast?_append, full, winds.capacity]
        rfl

theorem Moves.windsDown (m : Moves h outer lane events lane') (up : ¬ outer.aborts)
    (kept : lane.Kept) (untold : lane.Untold) : WindsDown lane events lane' := by
  induction m with
  | refl => exact .refl untold
  | tail before last ih => exact ih.tail (Moves.kept before up kept) up last

/-! ### Lanes that were told to stop -/

/-- The ticker was told to quit, or there is none. -/
def Cancelled (lane : Lane α β γ) : Prop :=
  ∀ metronome, lane.metronome = some metronome → metronome.cancelled = true

/-- How far a stop has brought its lane: the ticker is cancelled first, then the mailbox is closed,
and the stop finishes after the consumer. -/
structure Told (lane : Lane α β γ) (stage : StopStage) : Prop where
  way : stage = .ticker ∧ lane.Cancelled ∨ lane.mailbox.closed = true
  finished : stage = .finished → lane.mailbox.phase.ended = true

/-- Behind its first stage a stop has closed the mailbox. -/
theorem Told.closed {stage : StopStage} (told : lane.Told stage) (later : stage ≠ .ticker) :
    lane.mailbox.closed = true :=
  told.way.resolve_left fun first => later first.1

theorem Move.cancelled (m : Move h outer lane events lane') (cancelled : lane.Cancelled) :
    lane'.Cancelled := by
  intro metronome' has'
  cases m with
  | retime ok =>
    obtain ⟨metronome, period, has, rfl⟩ := retime_eq ok
    obtain rfl := Option.some.inj has'
    exact cancelled metronome has
  | closeTicker _ has ok =>
    obtain ⟨-, rfl⟩ := Metronome.close?_eq_ok_iff.mp ok
    obtain rfl := Option.some.inj has'
    rfl
  | @dispatch envelope =>
    cases is : envelope.payload <;> exact cancelled metronome' (by simpa [Lane.take, is] using has')
  | beat _ has _ goes =>
    rw [cancelled _ has] at goes
    cases goes
  | lastBeat _ has _ ends =>
    obtain rfl := Option.some.inj has'
    exact ends
  | @abortTicker metronome _ has _ =>
    obtain rfl := Option.some.inj has'
    have was := cancelled metronome has
    unfold Metronome.abort
    split <;> exact was
  | _ => exact cancelled metronome' has'

theorem Moves.capacity (m : Moves h outer lane events lane') :
    lane'.mailbox.capacity = lane.mailbox.capacity :=
  m.keeps (P := fun l => l.mailbox.capacity = lane.mailbox.capacity)
    (fun move same => move.capacity.trans same) rfl

theorem Moves.cancelled (m : Moves h outer lane events lane') (cancelled : lane.Cancelled) :
    lane'.Cancelled :=
  m.keeps (fun move => move.cancelled) cancelled

theorem Moves.ticker_over (m : Moves h outer lane events lane') (ended : lane.tickerEnded = true) :
    lane'.tickerEnded = true :=
  m.keeps (P := fun l => l.tickerEnded = true) (fun move ended => (move.ticker_over ended).1) ended

theorem Moves.closed (m : Moves h outer lane events lane') (closed : lane.mailbox.closed = true) :
    lane'.mailbox.closed = true :=
  (m.mailbox.closed closed).1

theorem Moves.told {stage : StopStage} (m : Moves h outer lane events lane')
    (told : lane.Told stage) : lane'.Told stage where
  way := told.way.imp (And.imp_right m.cancelled) m.closed
  finished last := by
    have past := told.finished last
    rw [(m.mailbox.quiet past).2.1, past]

/-! ### The end -/

/-- A consumer stops with its last call, for the lane's farewell. -/
theorem Move.finishing (m : Move h outer lane events lane')
    (running : lane.mailbox.phase.ended = false) (stopped : lane'.mailbox.phase = .stopped) :
    ∃ outcome, events = [.mailbox (.farewell outcome), .mailbox .stopped] := by
  have apart (same : lane'.mailbox.phase = lane.mailbox.phase) : False := by
    rw [← same, stopped] at running
    cases running
  cases m with
  | finish outcome => exact ⟨outcome, rfl⟩
  | accept _ ok =>
    obtain ⟨-, -, rfl⟩ := Mailbox.accept?_eq_ok_iff.mp ok
    exact (apart rfl).elim
  | retime ok =>
    obtain ⟨metronome, period, -, rfl⟩ := retime_eq ok
    exact (apart rfl).elim
  | close _ _ ok =>
    obtain ⟨-, rfl⟩ := Mailbox.close?_eq_ok_iff.mp ok
    exact (apart rfl).elim
  | start => simp [Mailbox.enter] at stopped
  | drain => simp [Mailbox.enter] at stopped
  | dispatch _ meanwhile _ _ => exact (apart (by simp [meanwhile.eq, Mailbox.take])).elim
  | beat => exact (apart (by simp [lane.beat_mailbox.eq])).elim
  | lastBeat => exact (apart (by simp [lane.beat_mailbox.eq])).elim
  | abort => simp [Mailbox.abort, running] at stopped
  | _ => exact (apart rfl).elim

/-- A lane that has stopped has said farewell once. Nothing was handled from then on. -/
theorem Moves.stopped (m : Moves h outer lane events lane')
    (running : lane.mailbox.phase.ended = false) (stopped : lane'.mailbox.phase = .stopped) :
    ∃ work outcome rest,
      events = work ++ .mailbox (.farewell outcome) :: .mailbox .stopped :: rest ∧
      Mailbox.farewells (LaneEvent.inMailbox work) = [] ∧
      Mailbox.Quiet (LaneEvent.inMailbox rest) := by
  induction m with
  | refl =>
    rw [stopped] at running
    cases running
  | @tail lane₂ lane₃ events more before last ih =>
    cases past : lane₂.mailbox.phase.ended with
    | true =>
      obtain ⟨quiet, same, -⟩ := last.mailbox.quiet past
      obtain ⟨work, outcome, rest, rfl, none, still⟩ := ih (same.symm.trans stopped)
      refine ⟨work, outcome, rest ++ more, by simp, none, ?_⟩
      rw [LaneEvent.inMailbox_append]
      exact still.append quiet
    | false =>
      obtain ⟨outcome, rfl⟩ := last.finishing past stopped
      exact ⟨events, outcome, [], rfl, (Moves.mailbox before).farewells past, .nil⟩

/-- The whole course of a lane that was told to stop, with what happened to it before and since. -/
structure StopsCleanly (first : Lane α β γ) (earlier events : List (LaneEvent α β))
    (lane : Lane α β γ) : Prop extends WindsDown first events lane where
  flow : Mailbox.acceptances (LaneEvent.inMailbox (earlier ++ events)) =
    Mailbox.dispatches (LaneEvent.inMailbox (earlier ++ events)) ++ lane.mailbox.buffer
  distinct : ((Mailbox.acceptances (LaneEvent.inMailbox (earlier ++ events))).map
    Envelope.serial).Nodup
  /-- In the end everything has been handled, and the farewell was the last call. -/
  stopped : lane.mailbox.phase = .stopped →
    lane.mailbox.closed = true ∧ lane.mailbox.buffer = [] ∧
    ∃ work outcome rest,
      earlier ++ events = work ++ .mailbox (.farewell outcome) :: .mailbox .stopped :: rest ∧
      Mailbox.farewells (LaneEvent.inMailbox work) = [] ∧
      Mailbox.Quiet (LaneEvent.inMailbox rest)
  ticked : lane.mailbox.phase = .stopped → first.metronome.isSome →
    (∃ e ∈ Mailbox.dispatches (LaneEvent.inMailbox events), e.payload = .tick) ∨
    (fires events).getLast? = some (.failed (.queueFull first.mailbox.capacity))

theorem Moves.stopsCleanly {first : Lane α β γ} {id : LaneId} {capacity : Nat}
    {tick : Option Duration} {earlier : List (LaneEvent α β)}
    (born : Moves h outer (Lane.new id capacity tick) earlier first) (untold : first.Untold)
    (m : Moves h outer first events lane) (up : ¬ outer.aborts) :
    StopsCleanly first earlier events lane := by
  have kept : first.Kept := born.kept up (.new ..)
  have kept' : lane.Kept := m.kept up kept
  have winds : WindsDown first events lane := m.windsDown up kept untold
  have whole : Moves h outer (Lane.new id capacity tick) (earlier ++ events) lane := born.trans m
  have flow := whole.mailbox.flow_of_up kept'.hosted
  have closed (past : lane.mailbox.phase = .stopped) : lane.mailbox.closed = true :=
    kept'.closed_of_late (by rw [past]; rfl)
  have empty (past : lane.mailbox.phase = .stopped) : lane.mailbox.buffer = [] :=
    whole.mailbox.stopped past fun _ => rfl
  refine ⟨winds, flow, whole.mailbox.distinct, ?_, ?_⟩
  · intro past
    exact ⟨closed past, empty past, Moves.stopped whole rfl past⟩
  · intro past has
    have ended := kept'.ended_of_closed (closed past)
    simpa [empty past] using winds.tick has ended

end Lane
end Lanes
