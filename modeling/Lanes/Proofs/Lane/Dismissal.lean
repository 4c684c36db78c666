import Lanes.Proofs.Lane.Ticks

/-!
# Dismissed lanes

A pool can dismiss a lane in two ways: it tells the lane to stop, or it abandons it. From then on
nobody sends the lane anything. Its consumer takes its turns, its ticker beats a last time, and then
either the caller of quit closes the mailbox, or the mailbox loses its last sender. Whichever way it
was, and in whatever order the steps come, the handler is called for what waited, for a last tick if
there was room for one, and for the farewell, and never again.
-/
namespace Lanes

/-! ### Calls -/

/-- A call of the handler for a lane. -/
inductive LaneCall (α : Type) where
  | process (request : α)
  | onTick
  | onQuit
  deriving DecidableEq

section Calls
variable {α β : Type}

/-- What the handler is called for when the message is taken out. -/
def LaneMessage.call : LaneMessage α → LaneCall α
  | request payload => .process payload
  | tick => .onTick

/-- The call that an event tells of. -/
@[simp] def LaneEvent.call? : LaneEvent α β → Option (LaneCall α)
  | mailbox (.dispatched envelope _) => some envelope.payload.call
  | mailbox (.farewell _) => some .onQuit
  | _ => none

/-- The calls that events tell of, in order. -/
def LaneEvent.calls (events : List (LaneEvent α β)) : List (LaneCall α) :=
  events.filterMap LaneEvent.call?

@[simp] theorem LaneEvent.calls_nil : calls ([] : List (LaneEvent α β)) = [] := rfl

@[simp] theorem LaneEvent.calls_cons (event : LaneEvent α β) (events : List (LaneEvent α β)) :
    calls (event :: events) = event.call?.toList ++ calls events := by
  rw [calls, List.filterMap_cons]
  cases event.call? <;> rfl

@[simp] theorem LaneEvent.calls_append (events more : List (LaneEvent α β)) :
    calls (events ++ more) = calls events ++ calls more :=
  List.filterMap_append ..

/-- Where nothing is dispatched and no quit callback runs, no call is made. -/
theorem LaneEvent.calls_of_quiet {events : List (LaneEvent α β)}
    (quiet : Mailbox.Quiet (inMailbox events)) : calls events = [] := by
  rw [calls, List.filterMap_eq_nil_iff]
  intro event mem
  cases event with
  | ticker => rfl
  | mailbox event =>
    have there : event ∈ inMailbox events := List.mem_filterMap.mpr ⟨_, mem, rfl⟩
    cases event with
    | dispatched envelope outcome =>
      have shown : envelope ∈ Mailbox.dispatches (inMailbox events) :=
        List.mem_filterMap.mpr ⟨_, there, rfl⟩
      simp [quiet.dispatches] at shown
    | farewell outcome =>
      have shown : outcome ∈ Mailbox.farewells (inMailbox events) :=
        List.mem_filterMap.mpr ⟨_, there, rfl⟩
      simp [quiet.farewells] at shown
    | _ => rfl

end Calls

/-! ### What is left to happen -/

/-- Whose step it is: the consumer's, the ticker's, or that of anybody else. -/
inductive Actor where
  | consumer
  | ticker
  | caller
  deriving DecidableEq

/-- How many steps the consumer takes before the first one of the ticker. -/
def headway (actors : List Actor) : Nat :=
  (actors.takeWhile (· ≠ .ticker)).count .consumer

@[simp] theorem headway_consumer (actors : List Actor) :
    headway (.consumer :: actors) = headway actors + 1 := by
  simp [headway]

@[simp] theorem headway_ticker (actors : List Actor) : headway (.ticker :: actors) = 0 := by
  simp [headway]

@[simp] theorem headway_caller (actors : List Actor) :
    headway (.caller :: actors) = headway actors := by
  simp [headway]

namespace Lane
variable {α β γ σ : Type}

/-- The lane behind the last beat of its ticker. If nobody holds the lane, its mailbox has lost its
last sender. -/
def lastBeaten (lane : Lane α β γ) (metronome : Metronome) : Lane α β γ :=
  { lane.beat.2.2 with
    metronome := some metronome.stop
    mailbox :=
      if lane.dropped then lane.beat.2.2.mailbox.orphan else lane.beat.2.2.mailbox }

def lastBeatEvents (lane : Lane α β γ) (metronome : Metronome) : List (LaneEvent α β) :=
  startEvents metronome ++ lane.beatEvents ++ [.ticker .stopped] ++
    if lane.dropped then [.mailbox .orphaned] else []

/-- A caller that dismisses a lane, or goes on to stop it, changes neither what waits nor what the
consumer has come to, and before the ticker has ended it leaves the mailbox alone. -/
structure Spares (lane lane' : Lane α β γ) : Prop where
  buffer : lane'.mailbox.buffer = lane.mailbox.buffer
  phase : lane'.mailbox.phase = lane.mailbox.phase
  capacity : lane'.mailbox.capacity = lane.mailbox.capacity
  tickPending : lane'.tickPending = lane.tickPending
  tickerEnded : lane'.tickerEnded = lane.tickerEnded
  mailbox : lane.tickerEnded = false → lane'.mailbox = lane.mailbox

/-- One step of a dismissed lane. -/
inductive Ebb (h : Handler α β γ σ) :
    Actor → Lane α β γ → List (LaneEvent α β) → Lane α β γ → Prop
  | wait {lane : Lane α β γ} (turn : lane.mailbox.turn = .wait) : Ebb h .consumer lane [] lane
  | start {lane : Lane α β γ} (turn : lane.mailbox.turn = .start) :
      Ebb h .consumer lane [.mailbox .started]
        { lane with mailbox := lane.mailbox.enter .receiving }
  | drain {lane : Lane α β γ} (turn : lane.mailbox.turn = .drain) :
      Ebb h .consumer lane [.mailbox (.draining lane.mailbox.size)]
        { lane with mailbox := lane.mailbox.enter .draining }
  | dispatch {lane : Lane α β γ} {envelope : Envelope (LaneMessage α)}
      {outcome : Outcome (Option β)} {table : Table γ}
      (turn : lane.mailbox.turn = .dispatch envelope)
      (handled : h.Handles lane.id lane.table envelope.payload outcome table) :
      Ebb h .consumer lane [.mailbox (.dispatched envelope (some outcome))]
        { lane.take envelope.payload with
          mailbox := lane.mailbox.take.answer envelope (Mailbox.verdict (some outcome))
          table }
  | finish {lane : Lane α β γ} (outcome : Outcome Unit) (turn : lane.mailbox.turn = .finish) :
      Ebb h .consumer lane [.mailbox (.farewell outcome), .mailbox .stopped]
        { lane with mailbox := lane.mailbox.enter .stopped }
  | late {lane : Lane α β γ} (ended : lane.tickerEnded = true) : Ebb h .ticker lane [] lane
  | lastBeat {lane : Lane α β γ} {metronome : Metronome} (has : lane.metronome = some metronome)
      (running : metronome.phase.ended = false) :
      Ebb h .ticker lane (lane.lastBeatEvents metronome) (lane.lastBeaten metronome)
  | aside {lane lane' : Lane α β γ} {events : List (LaneEvent α β)}
      (quiet : Mailbox.Quiet (LaneEvent.inMailbox events)) (spares : lane.Spares lane') :
      Ebb h .caller lane events lane'

/-- Any number of steps of a dismissed lane, with their actors and all their events. -/
inductive Ebbs (h : Handler α β γ σ) :
    List Actor → Lane α β γ → List (LaneEvent α β) → Lane α β γ → Prop
  | nil (lane : Lane α β γ) : Ebbs h [] lane [] lane
  | cons {actor : Actor} {actors : List Actor} {lane lane₁ lane₂ : Lane α β γ}
      {events more : List (LaneEvent α β)} (first : Ebb h actor lane events lane₁)
      (rest : Ebbs h actors lane₁ more lane₂) : Ebbs h (actor :: actors) lane (events ++ more) lane₂

variable {h : Handler α β γ σ} {actor : Actor} {actors : List Actor} {lane lane' : Lane α β γ}
  {events : List (LaneEvent α β)} {metronome : Metronome}

theorem Spares.refl (lane : Lane α β γ) : lane.Spares lane :=
  ⟨rfl, rfl, rfl, rfl, rfl, fun _ => rfl⟩

theorem Spares.trans {lane'' : Lane α β γ} (s : lane.Spares lane') (t : lane'.Spares lane'') :
    lane.Spares lane'' where
  buffer := t.buffer.trans s.buffer
  phase := t.phase.trans s.phase
  capacity := t.capacity.trans s.capacity
  tickPending := t.tickPending.trans s.tickPending
  tickerEnded := t.tickerEnded.trans s.tickerEnded
  mailbox running := (t.mailbox (s.tickerEnded.trans running)).trans (s.mailbox running)

theorem Ebbs.single (ebb : Ebb h actor lane events lane') :
    Ebbs h [actor] lane events lane' := by
  simpa using Ebbs.cons ebb (.nil lane')

theorem Ebbs.trans {more : List (LaneEvent α β)} {others : List Actor} {lane'' : Lane α β γ}
    (ebbs : Ebbs h actors lane events lane') (later : Ebbs h others lane' more lane'') :
    Ebbs h (actors ++ others) lane (events ++ more) lane'' := by
  induction ebbs with
  | nil => exact later
  | cons first _ ih =>
    rw [List.append_assoc]
    exact .cons first (ih later)

theorem Ebbs.split {begun ending : List Actor}
    (ebbs : Ebbs h (begun ++ ending) lane events lane') :
    ∃ middle earlier later, Ebbs h begun lane earlier middle ∧ Ebbs h ending middle later lane' ∧
      events = earlier ++ later := by
  induction begun generalizing lane events with
  | nil => exact ⟨lane, [], events, .nil lane, ebbs, rfl⟩
  | cons actor begun ih =>
    cases ebbs with
    | @cons _ _ _ _ _ here _ first rest =>
      obtain ⟨middle, earlier, later, before, after, rfl⟩ := ih rest
      exact ⟨middle, here ++ earlier, later, .cons first before, after, by simp⟩

/-! ### Last beats -/

@[simp] theorem tickerEnded_lastBeaten (lane : Lane α β γ) (metronome : Metronome) :
    (lane.lastBeaten metronome).tickerEnded = true := rfl

theorem lastBeaten_mailbox (lane : Lane α β γ) (metronome : Metronome) :
    (lane.lastBeaten metronome).mailbox =
      { lane.mailbox with
        buffer := lane.mailbox.buffer ++ lane.beat.2.1.toList
        accepted := lane.mailbox.accepted + lane.beat.2.1.toList.length
        orphaned := lane.mailbox.orphaned || lane.dropped } := by
  have beaten := lane.beat_mailbox.eq
  cases held : lane.dropped <;> simp [lastBeaten, held, beaten, Mailbox.orphan]

theorem acceptances_lastBeatEvents (lane : Lane α β γ) (metronome : Metronome) :
    Mailbox.acceptances (LaneEvent.inMailbox (lane.lastBeatEvents metronome)) =
      lane.beat.2.1.toList := by
  cases held : lane.dropped <;> simp [lastBeatEvents, held]

theorem calls_lastBeatEvents (lane : Lane α β γ) (metronome : Metronome) :
    LaneEvent.calls (lane.lastBeatEvents metronome) = [] := by
  have beaten : LaneEvent.calls lane.beatEvents = [] := by
    unfold beatEvents
    cases lane.beat.2.1 <;> rfl
  have started : LaneEvent.calls (startEvents metronome : List (LaneEvent α β)) = [] := by
    unfold startEvents
    split <;> rfl
  rw [lastBeatEvents]
  simp only [LaneEvent.calls_append, beaten, started, List.nil_append]
  split <;> rfl

/-- A mailbox whose consumer has ended takes no tick. -/
theorem beat_of_ended (past : lane.mailbox.phase.ended = true) : lane.beat.2.1 = none := by
  rcases lane.beat_cases with ⟨-, eq⟩ | ⟨-, envelope, mailbox, ok, -⟩ | ⟨-, -, eq⟩ | ⟨-, -, eq⟩
  case inr.inl =>
    have admits :=
      (Mailbox.refusal_eq_none_iff.mp (Mailbox.accept?_eq_ok_iff.mp ok).1).2.1
    cases phase : lane.mailbox.phase <;>
      simp [phase, ConsumerPhase.admits, ConsumerPhase.ended] at admits past
  all_goals rw [eq]

theorem tickerEnded_eq (has : lane.metronome = some metronome) :
    lane.tickerEnded = metronome.phase.ended := by
  rw [tickerEnded, has]

theorem Ebb.capacity (ebb : Ebb h actor lane events lane') :
    lane'.mailbox.capacity = lane.mailbox.capacity := by
  cases ebb with
  | dispatch => simp [Mailbox.take]
  | lastBeat => rw [lastBeaten_mailbox]
  | aside _ spares => exact spares.capacity
  | _ => rfl

theorem Ebbs.capacity (ebbs : Ebbs h actors lane events lane') :
    lane'.mailbox.capacity = lane.mailbox.capacity := by
  induction ebbs with
  | nil => rfl
  | cons first _ ih => exact ih.trans first.capacity

/-! ### Calls of dismissed lanes -/

/-- What the handler is called for when it is called for all that is in a list. -/
abbrev callsFor (envelopes : List (Envelope (LaneMessage α))) : List (LaneCall α) :=
  envelopes.map (·.payload.call)

/-- As long as the consumer has not ended, calls are made for what waited and what came in. -/
theorem Ebb.calls (ebb : Ebb h actor lane events lane')
    (going : lane'.mailbox.phase.ended = false) :
    callsFor (lane.mailbox.buffer ++ Mailbox.acceptances (LaneEvent.inMailbox events)) =
      LaneEvent.calls events ++ callsFor lane'.mailbox.buffer := by
  cases ebb with
  | dispatch turn _ =>
    have first := (Mailbox.buffer_of_turn_dispatch turn).1
    rw [first]
    simp
  | finish => simp [Mailbox.enter, ConsumerPhase.ended] at going
  | lastBeat =>
    rw [acceptances_lastBeatEvents, calls_lastBeatEvents, lastBeaten_mailbox]
    rfl
  | aside quiet spares =>
    simp [quiet.acceptances, LaneEvent.calls_of_quiet quiet, spares.buffer]
  | start => simp [Mailbox.enter]
  | drain => simp [Mailbox.enter]
  | wait => simp
  | late => simp

/-- The consumer ends with the farewell, when nothing waits. -/
theorem Ebb.finishing (ebb : Ebb h actor lane events lane')
    (running : lane.mailbox.phase.ended = false) (past : lane'.mailbox.phase.ended = true) :
    LaneEvent.calls events = [.onQuit] ∧ lane.mailbox.buffer = [] ∧
      Mailbox.acceptances (LaneEvent.inMailbox events) = [] := by
  have apart (same : lane'.mailbox.phase = lane.mailbox.phase) : False := by
    rw [same, running] at past
    cases past
  cases ebb with
  | finish outcome turn => exact ⟨rfl, (Mailbox.buffer_of_turn_finish turn).2, rfl⟩
  | start => simp [Mailbox.enter, ConsumerPhase.ended] at past
  | drain => simp [Mailbox.enter, ConsumerPhase.ended] at past
  | dispatch => exact (apart (by simp [Mailbox.take])).elim
  | lastBeat => exact (apart (by rw [lastBeaten_mailbox])).elim
  | aside _ spares => exact (apart spares.phase).elim
  | _ => exact (apart rfl).elim

/-- When the consumer has ended no call is made and nothing is accepted. -/
theorem Ebb.quiet (ebb : Ebb h actor lane events lane')
    (past : lane.mailbox.phase.ended = true) :
    LaneEvent.calls events = [] ∧ lane'.mailbox.phase = lane.mailbox.phase ∧
      Mailbox.acceptances (LaneEvent.inMailbox events) = [] := by
  have idle : lane.mailbox.turn = .wait := by
    unfold Mailbox.turn
    cases phase : lane.mailbox.phase <;> simp [phase, ConsumerPhase.ended] at past ⊢
  cases ebb with
  | start turn => simp [idle] at turn
  | drain turn => simp [idle] at turn
  | dispatch turn => simp [idle] at turn
  | finish _ turn => simp [idle] at turn
  | lastBeat =>
    refine ⟨calls_lastBeatEvents .., by rw [lastBeaten_mailbox], ?_⟩
    rw [acceptances_lastBeatEvents, beat_of_ended past]
    rfl
  | aside quiet spares =>
    exact ⟨LaneEvent.calls_of_quiet quiet, spares.phase, quiet.acceptances⟩
  | wait => exact ⟨rfl, rfl, rfl⟩
  | late => exact ⟨rfl, rfl, rfl⟩

theorem Ebbs.quiet (ebbs : Ebbs h actors lane events lane')
    (past : lane.mailbox.phase.ended = true) :
    LaneEvent.calls events = [] ∧ lane'.mailbox.phase = lane.mailbox.phase ∧
      Mailbox.acceptances (LaneEvent.inMailbox events) = [] := by
  induction ebbs with
  | nil => exact ⟨rfl, rfl, rfl⟩
  | cons first rest ih =>
    obtain ⟨none, same, still⟩ := first.quiet past
    obtain ⟨none', same', still'⟩ := ih (same ▸ past)
    exact ⟨by simp [none, none'], same'.trans same, by simp [still, still']⟩

/-- The calls of a dismissed lane that has ended: one for each message that waited or came in, in
this order, and one for the farewell. -/
theorem Ebbs.calls (ebbs : Ebbs h actors lane events lane')
    (running : lane.mailbox.phase.ended = false) (past : lane'.mailbox.phase.ended = true) :
    LaneEvent.calls events =
      callsFor (lane.mailbox.buffer ++ Mailbox.acceptances (LaneEvent.inMailbox events)) ++
        [.onQuit] := by
  induction ebbs with
  | nil => simp [running] at past
  | @cons actor actors lane lane₁ lane₂ events more first rest ih =>
    cases going : lane₁.mailbox.phase.ended with
    | true =>
      obtain ⟨farewell, empty, none⟩ := first.finishing running going
      obtain ⟨silent, -, still⟩ := rest.quiet going
      simp [farewell, empty, none, silent, still]
    | false =>
      have here := first.calls going
      have later := ih going past
      simp only [callsFor, List.map_append] at here later ⊢
      rw [LaneEvent.calls_append, later, LaneEvent.inMailbox_append, Mailbox.acceptances_append,
        List.map_append, ← List.append_assoc, ← List.append_assoc, ← List.append_assoc, here]

/-! ### The last tick -/

/-- A lane that its ticker still reaches, with a mailbox that takes what there is room for. -/
structure Open (lane : Lane α β γ) : Prop where
  closed : lane.mailbox.closed = false
  orphaned : lane.mailbox.orphaned = false
  admits : lane.mailbox.phase.admits = true
  metered : lane.Metered

/-- What waits after some turns of the consumer, the first of which it needs to start. -/
def waiting (lane : Lane α β γ) (turns : Nat) : List (Envelope (LaneMessage α)) :=
  lane.mailbox.buffer.drop (turns - if lane.mailbox.phase = .spawned then 1 else 0)

/-- The call for the last tick, which is queued if the ticker runs, no tick waits, and there is room
after so many turns of the consumer. -/
def lastTick (lane : Lane α β γ) (turns : Nat) : List (LaneCall α) :=
  if lane.tickerEnded = false ∧ (lane.waiting turns).any (·.payload.isTick) = false ∧
      (lane.waiting turns).length < lane.mailbox.capacity then [.onTick]
  else []

/-- The calls that are left to be made for a lane whose ticker beats after so many turns of the
consumer: for what waits, for the last tick, and for the farewell. -/
def lastCalls (lane : Lane α β γ) (turns : Nat) : List (LaneCall α) :=
  if lane.mailbox.phase.ended then []
  else callsFor lane.mailbox.buffer ++ lane.lastTick turns ++ [.onQuit]

theorem Spares.lastTick (spares : lane.Spares lane') (turns : Nat) :
    lane'.lastTick turns = lane.lastTick turns := by
  unfold Lane.lastTick waiting
  rw [spares.tickerEnded, spares.buffer, spares.phase, spares.capacity]

theorem Ebb.ticker_over (ebb : Ebb h actor lane events lane') (ended : lane.tickerEnded = true) :
    lane'.tickerEnded = true ∧ Mailbox.acceptances (LaneEvent.inMailbox events) = [] := by
  cases ebb with
  | @dispatch _ envelope =>
    exact ⟨(lane.tickerEnded_take envelope.payload).trans ended, rfl⟩
  | lastBeat has running => simp [tickerEnded_eq has, running] at ended
  | aside quiet spares => exact ⟨spares.tickerEnded.trans ended, quiet.acceptances⟩
  | _ => exact ⟨ended, rfl⟩

theorem Ebbs.ticker_over (ebbs : Ebbs h actors lane events lane')
    (ended : lane.tickerEnded = true) :
    lane'.tickerEnded = true ∧ Mailbox.acceptances (LaneEvent.inMailbox events) = [] := by
  induction ebbs with
  | nil => exact ⟨ended, rfl⟩
  | cons first rest ih =>
    obtain ⟨past, none⟩ := first.ticker_over ended
    obtain ⟨past', none'⟩ := ih past
    exact ⟨past', by simp [none, none']⟩

/-- A step of the ticker is its last. -/
theorem Ebb.ticked (ebb : Ebb h .ticker lane events lane') : lane'.tickerEnded = true := by
  cases ebb with
  | late ended => exact ended
  | lastBeat => rfl

/-- A turn of the consumer of an open lane starts it, handles what waits first, or finds nothing;
so the next ticks find what they would have found one turn later. -/
theorem Ebb.consumed (ebb : Ebb h .consumer lane events lane') (open_ : lane.Open) :
    lane'.Open ∧ lane'.tickerEnded = lane.tickerEnded ∧
      Mailbox.acceptances (LaneEvent.inMailbox events) = [] ∧
      ∀ turns, lane.lastTick (turns + 1) = lane'.lastTick turns := by
  cases ebb with
  | wait turn =>
    have receiving : lane.mailbox.phase = .receiving ∧ lane.mailbox.buffer = [] := by
      have admits := open_.admits
      unfold Mailbox.turn at turn
      cases phase : lane.mailbox.phase <;> simp [phase, ConsumerPhase.admits] at admits turn
      cases buffer : lane.mailbox.buffer <;> simp [open_.closed, buffer] at turn ⊢
    refine ⟨open_, rfl, rfl, fun turns => ?_⟩
    simp [lastTick, waiting, receiving.1, receiving.2]
  | start turn =>
    have spawned := Mailbox.phase_of_turn_start turn
    refine ⟨⟨open_.closed, open_.orphaned, rfl, open_.metered⟩, rfl, rfl, fun turns => ?_⟩
    simp [lastTick, waiting, spawned, Mailbox.enter, tickerEnded]
  | drain turn =>
    have receiving := Mailbox.phase_of_turn_drain turn
    unfold Mailbox.turn at turn
    rw [receiving] at turn
    cases buffer : lane.mailbox.buffer <;> simp [open_.closed, open_.orphaned, buffer] at turn
  | @dispatch _ envelope outcome table turn handled =>
    obtain ⟨first, busy⟩ := Mailbox.buffer_of_turn_dispatch turn
    have receiving : lane.mailbox.phase = .receiving := busy.resolve_right fun draining => by
      have admits := open_.admits
      simp [draining, ConsumerPhase.admits] at admits
    have alone : Mailbox.Intake lane.mailbox.take [] lane.mailbox.take := .none _
    have move : Move h .hosted lane [.mailbox (.dispatched envelope (some outcome))]
        { lane.take envelope.payload with
          mailbox := lane.mailbox.take.answer envelope (Mailbox.verdict (some outcome))
          table } :=
      .dispatch turn alone (by simp) handled
    refine ⟨⟨?_, ?_, ?_, move.metered (fun down => down) open_.metered⟩,
      lane.tickerEnded_take _, rfl, fun turns => ?_⟩
    · simpa [Mailbox.take] using open_.closed
    · simpa [Mailbox.take] using open_.orphaned
    · simpa [Mailbox.take] using open_.admits
    · have same : ({ lane.take envelope.payload with
          mailbox := lane.mailbox.take.answer envelope (Mailbox.verdict (some outcome))
          table } : Lane α β γ).tickerEnded = lane.tickerEnded := lane.tickerEnded_take _
      simp only [lastTick, same, waiting, receiving, Mailbox.answer_buffer, Mailbox.answer_phase,
        Mailbox.answer_capacity]
      rw [first]
      simp [Mailbox.take, receiving]
  | finish _ turn =>
    have admits := open_.admits
    simp [(Mailbox.buffer_of_turn_finish turn).1, ConsumerPhase.admits] at admits

/-- The last beat of an open lane queues a tick if none waits and there is room. -/
theorem Open.lastBeat (open_ : lane.Open) (running : lane.tickerEnded = false) :
    callsFor lane.beat.2.1.toList = lane.lastTick 0 := by
  have grown := lane.beat_mailbox.eq
  have ready : (lane.waiting 0).any (·.payload.isTick) = false ∧
      (lane.waiting 0).length < lane.mailbox.capacity ↔ lane.Ready := by
    have free : (lane.waiting 0).any (·.payload.isTick) = false ↔
        ∀ e ∈ lane.mailbox.buffer, e.payload ≠ .tick := by
      rw [waiting, Nat.zero_sub, List.drop_zero, List.any_eq_false, ← ticks_eq_zero_iff, ticks,
        List.countP_eq_zero]
    rw [free]
    simp [Ready, open_.closed, waiting, Mailbox.size]
  rcases open_.metered.beat fun _ => open_.admits with ⟨takes, eq⟩ | ⟨refuses, eq⟩
  · have tick : lane.beat.2.1.toList = [⟨lane.mailbox.accepted, .tick, false⟩] := by
      rw [eq] at grown
      have buffers := congrArg Mailbox.buffer grown
      exact (List.append_cancel_left buffers).symm
    rw [tick, lastTick, if_pos ⟨running, ready.mpr takes⟩]
    rfl
  · have none : lane.beat.2.1.toList = [] := by
      rw [eq] at grown
      have buffers := congrArg Mailbox.buffer grown
      simpa using buffers.symm
    rw [none, lastTick, if_neg fun fits => refuses (ready.mp fits.2)]
    rfl

theorem Spares.still_open (spares : lane.Spares lane') (open_ : lane.Open)
    (running : lane.tickerEnded = false) : lane'.Open := by
  have same := spares.mailbox running
  refine ⟨?_, ?_, ?_, ?_⟩
  · rw [same, open_.closed]
  · rw [same, open_.orphaned]
  · rw [same, open_.admits]
  · have metered := open_.metered
    rwa [Metered, ticks, same, spares.tickPending]

/-- A lane stays open as long as its ticker runs. -/
theorem Ebb.still_open (ebb : Ebb h actor lane events lane') (open_ : lane.Open)
    (running : lane'.tickerEnded = false) : lane'.Open := by
  cases actor with
  | consumer => exact (ebb.consumed open_).1
  | ticker => simp [ebb.ticked] at running
  | caller =>
    cases ebb with
    | aside _ spares => exact spares.still_open open_ (spares.tickerEnded.symm.trans running)

theorem Ebbs.still_open (ebbs : Ebbs h actors lane events lane')
    (open_ : lane.tickerEnded = false → lane.Open) (running : lane'.tickerEnded = false) :
    lane'.Open := by
  induction ebbs with
  | nil => exact open_ running
  | @cons actor actors lane lane₁ lane₂ events more first rest ih =>
    refine ih (fun running₁ => ?_) running
    cases ended : lane.tickerEnded with
    | true => simp [(first.ticker_over ended).1] at running₁
    | false => exact first.still_open (open_ ended) running₁

/-- What comes in while a dismissed lane ends is its last tick. -/
theorem Ebbs.lastTick (ebbs : Ebbs h actors lane events lane')
    (open_ : lane.tickerEnded = false → lane.Open) (past : lane'.tickerEnded = true) :
    callsFor (Mailbox.acceptances (LaneEvent.inMailbox events)) =
      lane.lastTick (headway actors) := by
  induction ebbs with
  | nil => simp [Lane.lastTick, past]
  | @cons actor actors lane lane₁ lane₂ events more first rest ih =>
    cases ended : lane.tickerEnded with
    | true =>
      obtain ⟨past₁, none⟩ := first.ticker_over ended
      simp [Lane.lastTick, ended, none, (rest.ticker_over past₁).2]
    | false =>
      have here := open_ ended
      cases actor with
      | consumer =>
        obtain ⟨open₁, -, none, next⟩ := first.consumed here
        rw [headway_consumer, next, ← ih (fun _ => open₁) past]
        simp [none]
      | ticker =>
        have still := (rest.ticker_over first.ticked).2
        cases first with
        | late past₁ => simp [ended] at past₁
        | lastBeat has running =>
          rw [headway_ticker, ← here.lastBeat ended]
          simp [acceptances_lastBeatEvents, still]
      | caller =>
        cases first with
        | aside quiet spares =>
          rw [headway_caller, ← spares.lastTick, ← ih (fun _ => spares.still_open here ended) past]
          simp [quiet.acceptances]

/-- The calls for a dismissed lane from its dismissal to its end. -/
theorem Ebbs.lastCalls (ebbs : Ebbs h actors lane events lane')
    (open_ : lane.tickerEnded = false → lane.Open) (past : lane'.mailbox.phase.ended = true) :
    LaneEvent.calls events = lane.lastCalls (headway actors) := by
  unfold Lane.lastCalls
  cases running : lane.mailbox.phase.ended with
  | true => simp [(ebbs.quiet running).1]
  | false =>
    have beatless : lane'.tickerEnded = true := by
      cases ended : lane'.tickerEnded with
      | true => rfl
      | false =>
        have admits := (ebbs.still_open open_ ended).admits
        cases phase : lane'.mailbox.phase <;>
          simp [phase, ConsumerPhase.ended, ConsumerPhase.admits] at past admits
    rw [ebbs.calls running past, callsFor, List.map_append, ← ebbs.lastTick open_ beatless]
    simp

/-! ### Calls of a whole life -/

theorem calls_of_no_farewell
    (none : Mailbox.farewells (LaneEvent.inMailbox events) = []) :
    LaneEvent.calls events = callsFor (Mailbox.dispatches (LaneEvent.inMailbox events)) := by
  induction events with
  | nil => rfl
  | cons event rest ih =>
    rw [LaneEvent.inMailbox_cons, Mailbox.farewells_append, List.append_eq_nil_iff] at none
    have later := ih none.2
    cases event with
    | ticker event => simpa using later
    | mailbox event =>
      cases event with
      | farewell outcome => simp at none
      | _ => simpa using later

/-- Until its consumer ends, a lane's handler is called for what is dispatched. -/
theorem Moves.calls_running {outer : Influence α γ} (m : Moves h outer lane events lane')
    (running : lane'.mailbox.phase.ended = false) :
    LaneEvent.calls events = callsFor (Mailbox.dispatches (LaneEvent.inMailbox events)) :=
  calls_of_no_farewell (m.mailbox.farewells running)

/-- A lane that has stopped has called its handler for the farewell after all that. -/
theorem Moves.calls_stopped {outer : Influence α γ} (m : Moves h outer lane events lane')
    (running : lane.mailbox.phase.ended = false) (stopped : lane'.mailbox.phase = .stopped) :
    LaneEvent.calls events =
      callsFor (Mailbox.dispatches (LaneEvent.inMailbox events)) ++ [.onQuit] := by
  obtain ⟨work, outcome, rest, rfl, none, quiet⟩ := Moves.stopped m running stopped
  have silent := LaneEvent.calls_of_quiet quiet
  have last : LaneEvent.calls (.mailbox (.farewell outcome) :: .mailbox .stopped :: rest) =
      .onQuit :: LaneEvent.calls rest := rfl
  rw [LaneEvent.calls_append, calls_of_no_farewell none, last, silent]
  simp [quiet.dispatches]

/-- The end of a lane that was dismissed, with what happened to it before and since. -/
structure Departs (first : Lane α β γ) (earlier events : List (LaneEvent α β)) (turns : Nat) :
    Prop where
  last : LaneEvent.calls events = first.lastCalls turns
  /-- In the end the handler was called once for each message that the lane ever accepted, in order
  of acceptance, and then once for the farewell. -/
  life : LaneEvent.calls (earlier ++ events) =
    callsFor (Mailbox.acceptances (LaneEvent.inMailbox (earlier ++ events))) ++ [.onQuit]

theorem Ebbs.departs {outer : Influence α γ} {first : Lane α β γ} {id : LaneId} {capacity : Nat}
    {tick : Option Duration} {earlier : List (LaneEvent α β)}
    (born : Moves h outer (Lane.new id capacity tick) earlier first) (up : ¬ outer.aborts)
    (ebbs : Ebbs h actors first events lane) (open_ : first.tickerEnded = false → first.Open)
    (past : lane.mailbox.phase.ended = true) :
    Departs first earlier events (headway actors) := by
  refine ⟨ebbs.lastCalls open_ past, ?_⟩
  have kept : first.Kept := born.kept up (.new ..)
  have flow := born.mailbox.flow_of_up kept.hosted
  have fresh : (Lane.new id capacity tick : Lane α β γ).mailbox.buffer = [] := rfl
  rw [fresh, List.nil_append] at flow
  cases running : first.mailbox.phase.ended with
  | false =>
    rw [LaneEvent.calls_append, Moves.calls_running born running, ebbs.calls running past,
      LaneEvent.inMailbox_append, Mailbox.acceptances_append, flow]
    simp
  | true =>
    have stopped := kept.stopped running
    have empty := born.mailbox.stopped stopped fun _ => rfl
    obtain ⟨silent, -, none⟩ := ebbs.quiet running
    rw [empty, List.append_nil] at flow
    rw [LaneEvent.calls_append, Moves.calls_stopped born rfl stopped, silent,
      LaneEvent.inMailbox_append, Mailbox.acceptances_append, flow, none]
    simp

/-! ### Lanes that nobody holds -/

/-- A lane that nobody holds any more, on its way to the end: its mailbox is not closed, but it
loses its last sender with the ticker. -/
structure Adrift (lane : Lane α β γ) : Prop where
  dropped : lane.dropped = true
  cancelled : lane.Cancelled
  closed : lane.mailbox.closed = false
  orphaned : lane.mailbox.orphaned = lane.tickerEnded
  admits : lane.mailbox.orphaned = false → lane.mailbox.phase.admits = true
  hosted : lane.mailbox.phase ≠ .aborted
  fits : lane.mailbox.size ≤ lane.mailbox.capacity

/-- A consumer that drains such a lane has found it without senders. -/
theorem Adrift.orphaned_of_drain (adrift : lane.Adrift) (turn : lane.mailbox.turn = .drain) :
    lane.mailbox.orphaned = true := by
  have receiving := Mailbox.phase_of_turn_drain turn
  unfold Mailbox.turn at turn
  rw [receiving] at turn
  cases orphaned : lane.mailbox.orphaned with
  | true => rfl
  | false => cases waits : lane.mailbox.buffer <;> simp [adrift.closed, orphaned, waits] at turn

theorem Adrift.orphaned_of_late (adrift : lane.Adrift)
    (late : lane.mailbox.phase.admits = false) : lane.mailbox.orphaned = true := by
  cases orphaned : lane.mailbox.orphaned with
  | true => rfl
  | false => simp [adrift.admits orphaned] at late

theorem Adrift.stopped (adrift : lane.Adrift) (past : lane.mailbox.phase.ended = true) :
    lane.mailbox.phase = .stopped := by
  have hosted := adrift.hosted
  cases phase : lane.mailbox.phase <;> simp [phase, ConsumerPhase.ended] at past hosted ⊢

theorem Adrift.enter (adrift : lane.Adrift) {phase : ConsumerPhase}
    (admits : lane.mailbox.orphaned = false → phase.admits = true) (hosted : phase ≠ .aborted) :
    ({ lane with mailbox := lane.mailbox.enter phase } : Lane α β γ).Adrift :=
  ⟨adrift.dropped, adrift.cancelled, adrift.closed, adrift.orphaned, admits, hosted, adrift.fits⟩

theorem Adrift.lastBeat (adrift : lane.Adrift) (has : lane.metronome = some metronome) :
    (lane.lastBeaten metronome).Adrift := by
  have mailbox := lane.lastBeaten_mailbox metronome
  refine ⟨lane.beat_keeps.2.2.2.trans adrift.dropped, ?_, ?_, ?_, ?_, ?_, ?_⟩
  · intro stopped is
    obtain rfl := Option.some.inj is
    exact adrift.cancelled metronome has
  · rw [mailbox, adrift.closed]
  · simp [mailbox, adrift.dropped]
  · simp [mailbox, adrift.dropped]
  · rw [mailbox]
    exact adrift.hosted
  · rw [mailbox]
    have fits := lane.beat_mailbox.sendings.sent.fits adrift.fits
    rwa [lane.beat_mailbox.eq] at fits

theorem Ebb.adrift (ebb : Ebb h actor lane events lane') (alone : actor ≠ .caller)
    (adrift : lane.Adrift) : lane'.Adrift := by
  cases ebb with
  | wait => exact adrift
  | late => exact adrift
  | start => exact adrift.enter (fun _ => rfl) (by simp)
  | drain turn => exact adrift.enter (by simp [adrift.orphaned_of_drain turn]) (by simp)
  | finish _ turn =>
    have late : lane.mailbox.phase.admits = false := by
      rw [(Mailbox.buffer_of_turn_finish turn).1]
      rfl
    exact adrift.enter (by simp [adrift.orphaned_of_late late]) (by simp)
  | @dispatch _ envelope _ _ turn _ =>
    have first := congrArg List.length (Mailbox.buffer_of_turn_dispatch turn).1
    have fits : lane.mailbox.buffer.length ≤ lane.mailbox.capacity := adrift.fits
    constructor
    · cases envelope.payload <;> exact adrift.dropped
    · cases envelope.payload <;> exact adrift.cancelled
    · simpa [Mailbox.take] using adrift.closed
    · have same := lane.tickerEnded_take envelope.payload
      refine Eq.trans ?_ (adrift.orphaned.trans same.symm)
      simp [Mailbox.take]
    · simpa [Mailbox.take] using adrift.admits
    · simpa [Mailbox.take] using adrift.hosted
    · simp only [Mailbox.size, Mailbox.answer_buffer, Mailbox.answer_capacity]
      rw [List.length_cons] at first
      change lane.mailbox.take.buffer.length ≤ lane.mailbox.capacity
      omega
  | lastBeat has _ => exact adrift.lastBeat has
  | aside => exact absurd rfl alone

theorem Ebbs.adrift (ebbs : Ebbs h actors lane events lane') (alone : .caller ∉ actors)
    (adrift : lane.Adrift) : lane'.Adrift := by
  induction ebbs with
  | nil => exact adrift
  | cons first _ ih =>
    obtain ⟨here, later⟩ := not_or.mp (mt List.mem_cons.mpr alone)
    exact ih later (first.adrift (Ne.symm here) adrift)

/-- Neither the consumer nor the ticker of such a lane has anything left to do when it has stopped,
and not before. -/
theorem Adrift.over_iff (adrift : lane.Adrift) :
    lane.mailbox.turn = .wait ∧ lane.tickerEnded = true ↔ lane.mailbox.phase = .stopped := by
  constructor
  · rintro ⟨idle, ended⟩
    have shut : lane.mailbox.sealed = true := by simp [Mailbox.sealed, adrift.orphaned, ended]
    exact adrift.stopped
      (Mailbox.remaining_eq_zero_iff.mp (Mailbox.remaining_eq_zero_of_wait shut idle))
  · intro stopped
    have late : lane.mailbox.phase.admits = false := by
      rw [stopped]
      rfl
    exact ⟨by simp [Mailbox.turn, stopped],
      adrift.orphaned.symm.trans (adrift.orphaned_of_late late)⟩

/-- A turn of the consumer is a step of the mailbox, if there is anything to do. -/
theorem Ebb.consumption (ebb : Ebb h .consumer lane events lane') :
    lane.mailbox.turn = .wait ∧ lane' = lane ∨
      Mailbox.acceptances (LaneEvent.inMailbox events) = [] ∧
        Mailbox.Consumption lane.mailbox (LaneEvent.inMailbox events) lane'.mailbox := by
  cases ebb with
  | wait turn => exact .inl ⟨turn, rfl⟩
  | start turn => exact .inr ⟨rfl, .start turn⟩
  | drain turn => exact .inr ⟨rfl, .drain turn⟩
  | @dispatch _ _ outcome _ turn _ =>
    exact .inr ⟨rfl, .dispatch (some outcome) turn (.refl _)⟩
  | finish outcome turn => exact .inr ⟨rfl, .finish (some outcome) turn⟩

/-- Behind the end of the ticker each turn of the consumer brings such a lane nearer to its end. -/
theorem Ebb.nearer (ebb : Ebb h actor lane events lane') (alone : actor ≠ .caller)
    (adrift : lane.Adrift) (ended : lane.tickerEnded = true) :
    lane'.mailbox.remaining ≤ lane.mailbox.remaining - [actor].count .consumer := by
  cases actor with
  | consumer =>
    rcases ebb.consumption with ⟨idle, rfl⟩ | ⟨none, consumed⟩
    · have shut : lane'.mailbox.sealed = true := by
        simp [Mailbox.sealed, adrift.orphaned, ended]
      simp [Mailbox.remaining_eq_zero_of_wait shut idle]
    · have lower := consumed.remaining_lt none
      simp only [List.count_singleton_self]
      omega
  | ticker =>
    cases ebb with
    | late => simp
    | lastBeat has running => simp [tickerEnded_eq has, running] at ended
  | caller => exact absurd rfl alone

theorem Ebbs.nearer (ebbs : Ebbs h actors lane events lane') (alone : .caller ∉ actors)
    (adrift : lane.Adrift) (ended : lane.tickerEnded = true) :
    lane'.mailbox.remaining ≤ lane.mailbox.remaining - actors.count .consumer := by
  induction ebbs with
  | nil => simp
  | @cons actor actors lane lane₁ lane₂ events more first rest ih =>
    obtain ⟨here, later⟩ := not_or.mp (mt List.mem_cons.mpr alone)
    have lower := first.nearer (Ne.symm here) adrift ended
    have least := ih later (first.adrift (Ne.symm here) adrift) (first.ticker_over ended).1
    have counted : ([actor] ++ actors).count .consumer =
        [actor].count .consumer + actors.count .consumer := List.count_append
    rw [List.singleton_append] at counted
    omega

/-- Once its ticker has had its turn, such a lane stops after as many turns of its consumer as it
has room for messages, and three. -/
theorem Ebbs.stops {begun ending : List Actor}
    (ebbs : Ebbs h (begun ++ .ticker :: ending) lane events lane')
    (alone : .caller ∉ begun ++ .ticker :: ending) (adrift : lane.Adrift)
    (enough : lane.mailbox.capacity + 3 ≤ ending.count .consumer) :
    lane'.mailbox.phase = .stopped := by
  obtain ⟨middle, earlier, later, before, after, -⟩ := ebbs.split
  simp only [List.mem_append, List.mem_cons, not_or] at alone
  have drifting := before.adrift alone.1 adrift
  cases after with
  | @cons _ _ _ ticked _ _ _ beat rest =>
    have drifted := beat.adrift (by simp) drifting
    have room : ticked.mailbox.remaining ≤ lane.mailbox.capacity + 3 := by
      calc ticked.mailbox.remaining ≤ ticked.mailbox.size + 3 := ticked.mailbox.remaining_le
        _ ≤ ticked.mailbox.capacity + 3 := Nat.add_le_add_right drifted.fits 3
        _ = lane.mailbox.capacity + 3 := by rw [beat.capacity, before.capacity]
    have none := rest.nearer alone.2.2 drifted beat.ticked
    exact (rest.adrift alone.2.2 drifted).stopped
      (Mailbox.remaining_eq_zero_iff.mp (by omega))

/-- Nobody holds the lane any more, or it has stopped before. -/
def Leaving (lane : Lane α β γ) : Prop :=
  lane.Adrift ∨ lane.mailbox.phase = .stopped ∧ lane.tickerEnded = true

theorem Ebbs.still_stopped (ebbs : Ebbs h actors lane events lane')
    (stopped : lane.mailbox.phase = .stopped) : lane'.mailbox.phase = .stopped :=
  (ebbs.quiet (by rw [stopped]; rfl)).2.1.trans stopped

theorem Ebbs.leaving (ebbs : Ebbs h actors lane events lane') (alone : .caller ∉ actors)
    (leaving : lane.Leaving) : lane'.Leaving :=
  leaving.imp (ebbs.adrift alone) fun ⟨stopped, ended⟩ =>
    ⟨ebbs.still_stopped stopped, (ebbs.ticker_over ended).1⟩

theorem Leaving.over_iff (leaving : lane.Leaving) :
    lane.mailbox.turn = .wait ∧ lane.tickerEnded = true ↔ lane.mailbox.phase = .stopped := by
  rcases leaving with adrift | ⟨stopped, ended⟩
  · exact adrift.over_iff
  · simp [Mailbox.turn, stopped, ended]

theorem Ebbs.leaving_stops {begun ending : List Actor}
    (ebbs : Ebbs h (begun ++ .ticker :: ending) lane events lane')
    (alone : .caller ∉ begun ++ .ticker :: ending) (leaving : lane.Leaving)
    (enough : lane.mailbox.capacity + 3 ≤ ending.count .consumer) :
    lane'.mailbox.phase = .stopped := by
  rcases leaving with adrift | ⟨stopped, -⟩
  · exact ebbs.stops alone adrift enough
  · exact ebbs.still_stopped stopped

end Lane
end Lanes
