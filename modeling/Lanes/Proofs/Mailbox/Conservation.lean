import Lanes.Proofs.Mailbox.Moves

/-!
# Conservation in a mailbox

Along any run of moves what a mailbox has accepted is, in order, what its consumer has dispatched
and then what is still buffered; only an abort takes payloads away. Serial numbers count the
acceptances. A closed or orphaned mailbox takes nothing in, so that each step of its consumer brings
it nearer to its end, and once the consumer has ended nothing happens to payloads any more.
-/
namespace Lanes
namespace Mailbox
variable {α β : Type} {m m' m'' : Mailbox α β} {events more : List (Event α β)}

/-! ### One step of the consumer -/

theorem Consumption.running (h : Consumption m events m') : m.phase.ended = false := by
  cases h with
  | start h => rw [phase_of_turn_start h]; rfl
  | drain h => rw [phase_of_turn_drain h]; rfl
  | dispatch _ h =>
    rcases (buffer_of_turn_dispatch h).2 with hp | hp <;> rw [hp] <;> rfl
  | finish _ h => rw [(buffer_of_turn_finish h).1]; rfl

@[simp] theorem answer_buffer (envelope : Envelope α) (result : Except Error β) :
    (m.answer envelope result).buffer = m.buffer := by
  unfold answer
  split <;> rfl

@[simp] theorem answer_accepted (envelope : Envelope α) (result : Except Error β) :
    (m.answer envelope result).accepted = m.accepted := by
  unfold answer
  split <;> rfl

@[simp] theorem answer_phase (envelope : Envelope α) (result : Except Error β) :
    (m.answer envelope result).phase = m.phase := by
  unfold answer
  split <;> rfl

@[simp] theorem answer_closed (envelope : Envelope α) (result : Except Error β) :
    (m.answer envelope result).closed = m.closed := by
  unfold answer
  split <;> rfl

@[simp] theorem answer_orphaned (envelope : Envelope α) (result : Except Error β) :
    (m.answer envelope result).orphaned = m.orphaned := by
  unfold answer
  split <;> rfl

@[simp] theorem answer_capacity (envelope : Envelope α) (result : Except Error β) :
    (m.answer envelope result).capacity = m.capacity := by
  unfold answer
  split <;> rfl

theorem Consumption.flow (h : Consumption m events m') :
    m.buffer ++ acceptances events = dispatches events ++ m'.buffer := by
  cases h with
  | start => simp [enter]
  | drain => simp [enter]
  | dispatch _ h meanwhile =>
    have first := (buffer_of_turn_dispatch h).1
    rw [first]
    simp [meanwhile.sent.buffer, meanwhile.sent.dispatches]
  | finish farewell _ => cases farewell <;> simp [enter]

/-- A dispatch leaves the reply of its event. -/
theorem Consumption.replies (h : Consumption m events m') :
    m'.replies = m.replies ++ replied events := by
  cases h with
  | start => simp [enter, replied, Event.reply?]
  | drain => simp [enter, replied, Event.reply?]
  | @dispatch m' envelope during outcome _ meanwhile =>
    have same : m'.replies = m.replies := meanwhile.sent.replies
    rw [replied_append, meanwhile.sent.replied, List.nil_append]
    cases wants : envelope.wantsReply <;> simp [answer, replied, Event.reply?, wants, same]
  | finish farewell _ => cases farewell <;> simp [enter, replied, Event.reply?]

theorem Consumption.serials (h : Consumption m events m') :
    (acceptances events).map Envelope.serial =
        List.range' m.accepted (acceptances events).length ∧
      m'.accepted = m.accepted + (acceptances events).length := by
  cases h with
  | start => simp [enter]
  | drain => simp [enter]
  | dispatch _ _ meanwhile =>
    have counted := meanwhile.sent.serials
    simpa [meanwhile.sent.accepted, take] using counted
  | finish farewell _ => cases farewell <;> simp [enter]

/-- A step of the consumer ends it only where the drain is over. -/
theorem Consumption.finish_of_ended (h : Consumption m events m') (past : m'.phase.ended = true) :
    m.turn = .finish := by
  cases h with
  | start => simp [enter, ConsumerPhase.ended] at past
  | drain => simp [enter, ConsumerPhase.ended] at past
  | dispatch _ h meanwhile =>
    rcases (buffer_of_turn_dispatch h).2 with hp | hp <;>
      simp [meanwhile.sent.phase, take, hp, ConsumerPhase.ended] at past
  | finish _ h => exact h

theorem Consumption.not_aborted (h : Consumption m events m') (up : m.phase ≠ .aborted) :
    m'.phase ≠ .aborted := by
  cases h with
  | start => simp [enter]
  | drain => simp [enter]
  | dispatch _ _ meanwhile => simpa [meanwhile.sent.phase, take] using up
  | finish => simp [enter]

/-- What is closed stays closed, and takes nothing in. -/
theorem Consumption.closed (h : Consumption m events m') (closed : m.closed = true) :
    m'.closed = true ∧ acceptances events = [] := by
  cases h with
  | start => exact ⟨closed, rfl⟩
  | drain => exact ⟨closed, rfl⟩
  | dispatch _ _ meanwhile => simpa using meanwhile.sent.closed closed
  | finish farewell _ => cases farewell <;> exact ⟨closed, rfl⟩

theorem Consumption.orphaned (h : Consumption m events m') (orphaned : m.orphaned = true) :
    m'.orphaned = true := by
  cases h with
  | start => exact orphaned
  | drain => exact orphaned
  | dispatch _ _ meanwhile => simpa using meanwhile.sent.orphaned orphaned
  | finish => exact orphaned

/-! ### One move -/

/-- Where payloads and replies go. Payloads leave a mailbox through its consumer, in the order in
which they came in, and those that ask for it leave a reply; what an abort loses is never
dispatched, and its senders are told so. -/
structure Settles (m : Mailbox α β) (events : List (Event α β)) (m' : Mailbox α β)
    (lost : List (Envelope α)) : Prop where
  flow : m.buffer ++ acceptances events = dispatches events ++ lost ++ m'.buffer
  gone : lost ≠ [] → m'.phase = .aborted ∧ m'.buffer = []
  replies : m'.replies = m.replies ++ (replied events ++ droppedReplies lost)

theorem Move.settles (h : Move m events m') : ∃ lost, Settles m events m' lost := by
  cases h with
  | accept h =>
    obtain ⟨-, -, rfl⟩ := accept?_eq_ok_iff.mp h
    exact ⟨[], by simp [put], by simp, by simp [put, replied, droppedReplies, Event.reply?]⟩
  | close h =>
    obtain ⟨-, rfl⟩ := close?_eq_ok_iff.mp h
    exact ⟨[], by simp, by simp, by simp [replied, droppedReplies, Event.reply?]⟩
  | orphan =>
    exact ⟨[], by simp [Mailbox.orphan], by simp,
      by simp [Mailbox.orphan, replied, droppedReplies, Event.reply?]⟩
  | consume h =>
    exact ⟨[], by simpa using h.flow, by simp, by simpa [droppedReplies] using h.replies⟩
  | abort h =>
    refine ⟨m.buffer, by simp [Mailbox.abort, h], by simp [Mailbox.abort, h], ?_⟩
    simp [Mailbox.abort, h, replied, droppedReplies, Event.reply?]
  | find => exact ⟨[], by simp, by simp, by simp [replied, droppedReplies, Event.reply?]⟩

theorem Move.serials (h : Move m events m') :
    (acceptances events).map Envelope.serial =
        List.range' m.accepted (acceptances events).length ∧
      m'.accepted = m.accepted + (acceptances events).length := by
  cases h with
  | accept h =>
    obtain ⟨-, rfl, rfl⟩ := accept?_eq_ok_iff.mp h
    simp [put]
  | close h =>
    obtain ⟨-, rfl⟩ := close?_eq_ok_iff.mp h
    simp
  | orphan => simp [Mailbox.orphan]
  | consume h => exact h.serials
  | abort h => simp [Mailbox.abort, h]
  | find => simp

/-- After its consumer has ended a mailbox stays as it is, but for being told to quit. -/
theorem Move.quiet (h : Move m events m') (past : m.phase.ended = true) :
    Quiet events ∧ m'.phase = m.phase ∧ m'.buffer = m.buffer := by
  cases h with
  | accept h =>
    have admits := (refusal_eq_none_iff.mp (accept?_eq_ok_iff.mp h).1).2.1
    cases hp : m.phase <;> simp [hp, ConsumerPhase.admits, ConsumerPhase.ended] at admits past
  | close h =>
    obtain ⟨-, rfl⟩ := close?_eq_ok_iff.mp h
    exact ⟨⟨rfl, rfl, rfl⟩, rfl, rfl⟩
  | orphan => exact ⟨⟨rfl, rfl, rfl⟩, rfl, rfl⟩
  | consume h => simp [h.running] at past
  | abort h => simp [h] at past
  | find => exact ⟨⟨rfl, rfl, rfl⟩, rfl, rfl⟩

/-- As long as the consumer has not ended, the quit callback has not run. -/
theorem Move.farewells (h : Move m events m') (running : m'.phase.ended = false) :
    farewells events = [] := by
  cases h with
  | accept => rfl
  | close => rfl
  | orphan => rfl
  | consume h =>
    cases h with
    | start => rfl
    | drain => rfl
    | dispatch _ _ meanwhile => simp [meanwhile.sent.farewells]
    | finish => simp [enter, ConsumerPhase.ended] at running
  | abort => rfl
  | find => rfl

/-- A consumer stops when nothing is left, and an aborted one leaves nothing. -/
theorem Move.ended_empty (h : Move m events m') (past : m'.phase.ended = true)
    (before : m.phase.ended = true → m.buffer = []) : m'.buffer = [] := by
  cases was : m.phase.ended with
  | true =>
    obtain ⟨-, -, kept⟩ := h.quiet was
    rw [kept]
    exact before was
  | false =>
    cases h with
    | accept h =>
      obtain ⟨-, -, rfl⟩ := accept?_eq_ok_iff.mp h
      simp [put, was] at past
    | close h =>
      obtain ⟨-, rfl⟩ := close?_eq_ok_iff.mp h
      simp [was] at past
    | orphan => simp [Mailbox.orphan, was] at past
    | consume h =>
      have turn := h.finish_of_ended past
      cases h with
      | finish => simpa [enter] using (buffer_of_turn_finish turn).2
      | start other => cases other.symm.trans turn
      | drain other => cases other.symm.trans turn
      | dispatch _ other => cases other.symm.trans turn
    | abort => simp [Mailbox.abort, was]
    | find => simp [was] at past

/-! ### Any number of moves -/

theorem Moves.quiet (h : Moves m events m') (past : m.phase.ended = true) :
    Quiet events ∧ m'.phase = m.phase ∧ m'.buffer = m.buffer := by
  induction h with
  | refl => exact ⟨Quiet.nil, rfl, rfl⟩
  | tail _ last ih =>
    obtain ⟨still, same, kept⟩ := ih
    obtain ⟨still', same', kept'⟩ := last.quiet (same ▸ past)
    exact ⟨still.append still', same'.trans same, kept'.trans kept⟩

theorem Moves.settles (h : Moves m events m') : ∃ lost, Settles m events m' lost := by
  induction h with
  | refl => exact ⟨[], by simp, by simp, by simp [replied, droppedReplies]⟩
  | @tail m₂ m₃ events more _ last ih =>
    obtain ⟨lost, flow, gone, replies⟩ := ih
    obtain ⟨lost', flow', gone', replies'⟩ := last.settles
    by_cases none : lost = []
    · subst none
      refine ⟨lost', ?_, gone', by simp [replies, replies', droppedReplies]⟩
      calc m.buffer ++ acceptances (events ++ more)
          = (m.buffer ++ acceptances events) ++ acceptances more := by simp
        _ = dispatches events ++ (m₂.buffer ++ acceptances more) := by simp [flow]
        _ = dispatches (events ++ more) ++ lost' ++ m₃.buffer := by simp [flow']
    · -- the consumer was aborted before, so that the last move concerns no payload
      obtain ⟨aborted, empty⟩ := gone none
      obtain ⟨still, same, kept⟩ := last.quiet (by rw [aborted]; rfl)
      have nothing : lost' = [] := by
        simpa [empty, kept, still.acceptances, still.dispatches] using flow'.symm
      refine ⟨lost, ?_, fun _ => ⟨same.trans aborted, kept.trans empty⟩, ?_⟩
      · simp [still.acceptances, still.dispatches, kept, flow]
      · simp [replies, replies', still.replied, nothing, droppedReplies]

theorem Moves.flow (h : Moves m events m') :
    ∃ lost, m.buffer ++ acceptances events = dispatches events ++ lost ++ m'.buffer ∧
      (lost ≠ [] → m'.phase = .aborted ∧ m'.buffer = []) := by
  obtain ⟨lost, settled⟩ := h.settles
  exact ⟨lost, settled.flow, settled.gone⟩

/-- What was accepted is what was dispatched and what is buffered, unless there was an abort. -/
theorem Moves.flow_of_up (h : Moves m events m') (up : m'.phase ≠ .aborted) :
    m.buffer ++ acceptances events = dispatches events ++ m'.buffer := by
  obtain ⟨lost, flow, gone⟩ := h.flow
  by_cases none : lost = []
  · simpa [none] using flow
  · exact absurd (gone none).1 up

theorem Moves.serials (h : Moves m events m') :
    (acceptances events).map Envelope.serial =
        List.range' m.accepted (acceptances events).length ∧
      m'.accepted = m.accepted + (acceptances events).length := by
  induction h with
  | refl => simp
  | tail _ last ih =>
    obtain ⟨counted, total⟩ := ih
    obtain ⟨counted', total'⟩ := last.serials
    constructor
    · simp [counted, counted', total, List.range'_append_1]
    · simp [total, total', Nat.add_assoc]

/-- Each payload has a number of its own. -/
theorem Moves.distinct (h : Moves m events m') :
    ((acceptances events).map Envelope.serial).Nodup := by
  rw [h.serials.1]
  exact List.nodup_range'

theorem Moves.farewells (h : Moves m events m') (running : m'.phase.ended = false) :
    farewells events = [] := by
  induction h with
  | refl => rfl
  | @tail m₂ m₃ events more _ last ih =>
    have before : m₂.phase.ended = false := by
      cases past : m₂.phase.ended with
      | false => rfl
      | true =>
        rw [(last.quiet past).2.1, past] at running
        cases running
    simp [ih before, last.farewells running]

theorem Moves.ended_empty (h : Moves m events m') (past : m'.phase.ended = true)
    (before : m.phase.ended = true → m.buffer = []) : m'.buffer = [] := by
  induction h with
  | refl => exact before past
  | tail _ last ih => exact last.ended_empty past ih

theorem Moves.stopped (h : Moves m events m') (stopped : m'.phase = .stopped)
    (before : m.phase.ended = true → m.buffer = []) : m'.buffer = [] :=
  h.ended_empty (by rw [stopped]; rfl) before

/-! ### The way to the end -/

/-- How many steps the consumer has to take at most, if nothing more is accepted. -/
def remaining (m : Mailbox α β) : Nat :=
  match m.phase with
  | .spawned => m.size + 3
  | .receiving => m.size + 2
  | .draining => m.size + 1
  | .stopped | .aborted => 0

/-- Told to quit, or without senders. -/
def sealed (m : Mailbox α β) : Bool := m.closed || m.orphaned

theorem remaining_eq_zero_iff : m.remaining = 0 ↔ m.phase.ended = true := by
  unfold remaining
  cases m.phase <;> simp [ConsumerPhase.ended]

theorem turn_ne_wait_of_sealed (shut : m.sealed = true) (running : m.phase.ended = false) :
    m.turn ≠ .wait := by
  unfold sealed at shut
  unfold turn
  cases hp : m.phase <;> simp only [hp, ConsumerPhase.ended] at running ⊢
  · simp
  · cases hc : m.closed <;> cases m.buffer <;> simp_all
  · cases m.buffer <;> simp
  · simp at running
  · simp at running

theorem remaining_le (m : Mailbox α β) : m.remaining ≤ m.size + 3 := by
  unfold remaining
  split <;> omega

/-- A sealed mailbox whose consumer has nothing to do is one whose consumer has ended. -/
theorem remaining_eq_zero_of_wait (shut : m.sealed = true) (idle : m.turn = .wait) :
    m.remaining = 0 := by
  cases running : m.phase.ended with
  | true => exact remaining_eq_zero_iff.mpr running
  | false => exact absurd idle (turn_ne_wait_of_sealed shut running)

/-- A step of the consumer that lets nothing in brings it nearer to its end. -/
theorem Consumption.remaining_lt (h : Consumption m events m') (none : acceptances events = []) :
    m'.remaining < m.remaining := by
  cases h with
  | start h =>
    have hp := phase_of_turn_start h
    simp [remaining, enter, hp, size]
  | drain h =>
    have hp := phase_of_turn_drain h
    simp [remaining, enter, hp, size]
  | dispatch _ h meanwhile =>
    obtain ⟨first, busy⟩ := buffer_of_turn_dispatch h
    rw [acceptances_append, List.append_eq_nil_iff] at none
    have same := meanwhile.sent.buffer
    rw [none.1, List.append_nil] at same
    have shorter : m.size = m.take.size + 1 := by simp [size, first]
    rcases busy with hp | hp
    · simp [remaining, same, meanwhile.sent.phase, take, hp, size] at shorter ⊢
      omega
    · simp [remaining, same, meanwhile.sent.phase, take, hp, size] at shorter ⊢
      omega
  | finish _ h =>
    obtain ⟨hp, -⟩ := buffer_of_turn_finish h
    simp [remaining, enter, hp]

theorem Move.remaining_le (h : Move m events m') (none : acceptances events = []) :
    m'.remaining ≤ m.remaining := by
  cases h with
  | accept => simp at none
  | close h =>
    obtain ⟨-, rfl⟩ := close?_eq_ok_iff.mp h
    exact Nat.le_refl _
  | orphan => exact Nat.le_refl _
  | consume h => exact Nat.le_of_lt (h.remaining_lt none)
  | abort h => simp [Mailbox.abort, h, remaining]
  | find => exact Nat.le_refl _

theorem Move.closed (h : Move m events m') (closed : m.closed = true) :
    m'.closed = true ∧ acceptances events = [] := by
  cases h with
  | accept h => simp [(refusal_eq_none_iff.mp (accept?_eq_ok_iff.mp h).1).1] at closed
  | close h => simp [(close?_eq_ok_iff.mp h).1] at closed
  | orphan => exact ⟨closed, rfl⟩
  | consume h => exact h.closed closed
  | abort h => simp [Mailbox.abort, h, closed]
  | find => exact ⟨closed, rfl⟩

/-- A closed mailbox takes nothing in and comes nearer to its end. -/
theorem Moves.closed (h : Moves m events m') (closed : m.closed = true) :
    m'.closed = true ∧ acceptances events = [] ∧ m'.remaining ≤ m.remaining := by
  induction h with
  | refl => exact ⟨closed, rfl, Nat.le_refl _⟩
  | tail _ last ih =>
    obtain ⟨shut, none, le⟩ := ih
    obtain ⟨shut', none'⟩ := last.closed shut
    exact ⟨shut', by simp [none, none'], Nat.le_trans (last.remaining_le none') le⟩

end Mailbox
end Lanes
