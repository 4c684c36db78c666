import Lanes.Proofs.Queue.Run

/-!
# Delivery by a queue

A queue hands every payload that it accepts to its processor once and in order of acceptance,
whatever the processor makes of it. Once it was told to quit, or nobody holds it any more, its
consumer comes to an end after a bounded number of steps; then nothing is left in the buffer, and
the quit callback has run once, behind the last dispatch.
-/
namespace Lanes
namespace Queue
variable {α β σ : Type}

def Step.isConsume : Step α β σ → Bool
  | .consume => true
  | _ => false

/-- What the quit callback leaves in the history that was asked for first along a run, if one was:
it runs with what the callbacks remember by then. -/
def lastWords (steps : List (Step α β σ)) (q : Queue α β σ) : List (Mailbox.Event α β) :=
  ((farewells (along asked steps q)).head?.map fun f => .farewell (f (run steps q).memory).1).toList

/-! ### The phase of the consumer -/

theorem apply_phase (q : Queue α β σ) (step : Step α β σ) (others : step.isConsume = false)
    (hosted : step ≠ .abort) : (q.apply step).mailbox.phase = q.mailbox.phase := by
  obtain ⟨question, is⟩ | ⟨processor, rfl⟩ | rfl | rfl | rfl := step.kind
  · obtain ⟨events, takesIn⟩ := apply_takesIn is q
    exact takesIn.mailbox.sent.phase
  · rw [apply_setProcessor]
  · obtain eq | ⟨-, eq | ⟨-, eq⟩⟩ := q.apply_acknowledge <;> simp [eq, note]
  · simp [Step.isConsume] at others
  · exact absurd rfl hosted

/-- The end of the drain: the quit callback runs, and the consumer stops. -/
theorem consume_of_finish (q : Queue α β σ) (last : q.mailbox.turn = .finish) :
    q.consume.history =
        q.history ++ (q.farewell.map fun f => .farewell (f q.memory).1).toList ++ [.stopped] ∧
      q.consume.mailbox.phase = .stopped := by
  unfold consume
  rw [last]
  cases farewell : q.farewell <;>
    simp [bidFarewell, farewell, stop, note, history, Mailbox.enter]

/-- Only at the end of the drain does a consumer whose host stays up come to its end. -/
theorem apply_ended {q : Queue α β σ} {step : Step α β σ} (hosted : step ≠ .abort)
    (running : q.ended = false) (past : (q.apply step).ended = true) :
    step = .consume ∧ q.mailbox.turn = .finish := by
  unfold ended at running past
  cases consuming : step.isConsume with
  | false =>
    rw [q.apply_phase step consuming hosted, running] at past
    cases past
  | true =>
    cases step with
    | consume =>
      rw [apply_consume] at past
      refine ⟨rfl, ?_⟩
      obtain ⟨-, eq⟩ | ⟨events, consumes⟩ := q.consume_cases
      · rw [eq, running] at past
        cases past
      · exact consumes.mailbox.finish_of_ended past
    | _ => simp [Step.isConsume] at consuming

theorem apply_not_aborted {q : Queue α β σ} {step : Step α β σ} (hosted : step ≠ .abort)
    (up : q.mailbox.phase ≠ .aborted) : (q.apply step).mailbox.phase ≠ .aborted := by
  cases consuming : step.isConsume with
  | false => rwa [q.apply_phase step consuming hosted]
  | true =>
    cases step with
    | consume =>
      rw [apply_consume]
      obtain ⟨-, eq⟩ | ⟨events, consumes⟩ := q.consume_cases
      · rwa [eq]
      · exact consumes.mailbox.not_aborted up
    | _ => simp [Step.isConsume] at consuming

theorem run_not_aborted {q : Queue α β σ} {steps : List (Step α β σ)}
    (hosted : Step.abort ∉ steps) (up : q.mailbox.phase ≠ .aborted) :
    (run steps q).mailbox.phase ≠ .aborted := by
  induction steps generalizing q with
  | nil => exact up
  | cons step steps ih =>
    obtain ⟨here, later⟩ := not_or.mp (mt List.mem_cons.mpr hosted)
    exact ih later (apply_not_aborted (Ne.symm here) up)

/-! ### The end of a run -/

/-- A run in which the consumer ends has a step at which it does. -/
theorem exists_ending {q : Queue α β σ} {steps : List (Step α β σ)} (running : q.ended = false)
    (past : (run steps q).ended = true) :
    ∃ earlier step later, steps = earlier ++ step :: later ∧
      (run earlier q).ended = false ∧ ((run earlier q).apply step).ended = true := by
  induction steps generalizing q with
  | nil => simp [running] at past
  | cons step steps ih =>
    cases next : (q.apply step).ended with
    | true => exact ⟨[], step, steps, rfl, running, next⟩
    | false =>
      obtain ⟨earlier, last, later, rfl, still, ends⟩ := ih next past
      exact ⟨step :: earlier, last, later, rfl, still, ends⟩

/-- How a run brings the consumer to its end: at a step that finds the buffer empty the quit callback
runs that was asked for first up to then, if one was, and none has run before. From there on nothing
is accepted or dispatched any more, and no quit callback runs. -/
structure EndsAt (q : Queue α β σ) (steps earlier later : List (Step α β σ)) : Prop where
  split : steps = earlier ++ .consume :: later
  running : (run earlier q).ended = false
  empty : (run earlier q).mailbox.buffer = []
  history : ∃ rest, (run steps q).history =
    (run earlier q).history ++ lastWords earlier q ++ .stopped :: rest ∧ Mailbox.Quiet rest

theorem run_endsAt {q : Queue α β σ} {steps : List (Step α β σ)} (hosted : Step.abort ∉ steps)
    (bare : q.farewell = none) (running : q.ended = false) (past : (run steps q).ended = true) :
    ∃ earlier later, EndsAt q steps earlier later := by
  obtain ⟨earlier, step, later, rfl, still, ends⟩ := exists_ending running past
  obtain ⟨rfl, last⟩ := apply_ended (fun is => hosted (by simp [is])) still ends
  obtain ⟨rest, grown, moves⟩ := run_leads later ((run earlier q).apply .consume)
  obtain ⟨told, -⟩ := (run earlier q).consume_of_finish last
  refine ⟨earlier, later, rfl, still, (Mailbox.buffer_of_turn_finish last).2, rest, ?_,
    (moves.quiet ends).1⟩
  rw [run_append, run_cons, grown, apply_consume, told, (run_told earlier q).farewell, bare]
  simp [lastWords]

/-! ### The way to the end -/

theorem consume_sealed {q : Queue α β σ} (shut : q.mailbox.sealed = true) :
    q.consume.mailbox.sealed = true ∧
      q.consume.mailbox.remaining ≤ q.mailbox.remaining - 1 := by
  obtain ⟨idle, eq⟩ | ⟨events, consumes⟩ := q.consume_cases
  · rw [eq, Mailbox.remaining_eq_zero_of_wait shut idle]
    exact ⟨shut, Nat.le_refl _⟩
  · have kept : q.consume.mailbox.sealed = true ∧ Mailbox.acceptances events = [] := by
      cases closed : q.mailbox.closed with
      | true =>
        obtain ⟨still, none⟩ := consumes.mailbox.closed closed
        exact ⟨by simp [Mailbox.sealed, still], none⟩
      | false =>
        have orphaned : q.mailbox.orphaned = true := by simpa [Mailbox.sealed, closed] using shut
        exact ⟨by simp [Mailbox.sealed, consumes.mailbox.orphaned orphaned],
          consumes.alone orphaned⟩
    have nearer := consumes.mailbox.remaining_lt kept.2
    exact ⟨kept.1, by omega⟩

/-- No step opens a sealed queue again or takes its consumer away from the end. -/
theorem apply_sealed {q : Queue α β σ} (step : Step α β σ) (shut : q.mailbox.sealed = true) :
    (q.apply step).mailbox.sealed = true ∧
      (q.apply step).mailbox.remaining ≤ q.mailbox.remaining := by
  cases closed : q.mailbox.closed with
  | true =>
    obtain ⟨events, -, moves⟩ := q.apply_leads step
    obtain ⟨still, -, le⟩ := moves.closed closed
    exact ⟨by simp [Mailbox.sealed, still], le⟩
  | false =>
    have orphaned : q.mailbox.orphaned = true := by simpa [Mailbox.sealed, closed] using shut
    cases step with
    | consume =>
      obtain ⟨still, le⟩ := consume_sealed shut
      rw [apply_consume]
      exact ⟨still, Nat.le_trans le (Nat.sub_le _ _)⟩
    | abort =>
      rw [apply_abort, abort]
      cases past : q.mailbox.phase.ended with
      | true => exact ⟨shut, Nat.le_refl _⟩
      | false => simp [note, Mailbox.abort, past, Mailbox.sealed, orphaned, Mailbox.remaining]
    | _ => simp [apply, Step.needsHolder, orphaned, shut]

/-- As many steps of the consumer as it has left bring a sealed queue to its end, whatever else
happens in between. -/
theorem run_sealed {q : Queue α β σ} {steps : List (Step α β σ)} (shut : q.mailbox.sealed = true)
    (enough : q.mailbox.remaining ≤ steps.countP Step.isConsume) : (run steps q).ended = true := by
  induction steps generalizing q with
  | nil =>
    simp only [List.countP_nil, Nat.le_zero] at enough
    exact Mailbox.remaining_eq_zero_iff.mp enough
  | cons step steps ih =>
    rw [List.countP_cons] at enough
    obtain ⟨still, le⟩ := apply_sealed step shut
    refine ih still ?_
    cases consuming : step.isConsume with
    | false =>
      simp only [consuming, Bool.false_eq_true, if_false] at enough
      omega
    | true =>
      simp only [consuming, if_true] at enough
      cases step with
      | consume =>
        have nearer := (consume_sealed shut).2
        rw [apply_consume]
        omega
      | _ => simp [Step.isConsume] at consuming

/-! ### Delivery -/

section Beginning
variable {capacity : Nat} {memory : σ} {steps : List (Step α β σ)}

/-- As long as the host of the consumer is up, what was accepted is what was handed out, what the
processor has in hand and what is buffered. -/
theorem Reaches.flow {hand : List (Envelope α)} {asks : List (QueueAsk α σ)} {q : Queue α β σ}
    (reached : Reaches (new capacity memory) steps hand asks q)
    (up : (run steps (new capacity memory)).mailbox.phase ≠ .aborted) :
    q.acceptances = q.dispatches ++ hand ++ q.mailbox.buffer := by
  have flow : (run steps (new capacity memory)).acceptances =
      (run steps (new capacity memory)).dispatches ++
        (run steps (new capacity memory)).mailbox.buffer :=
    (run_moves capacity memory steps).flow_of_up up
  cases reached with
  | between => simpa using flow
  | @during envelope _ q busy =>
    obtain ⟨turn, events, taken⟩ := busy.spec
    have sent := taken.mailbox.sent
    have told : q.history = (run steps (new capacity memory)).history ++ events := taken.history
    -- What comes in meanwhile stands behind what was buffered when the payload was taken out.
    calc q.acceptances
        = (run steps (new capacity memory)).acceptances ++ Mailbox.acceptances events := by
          simp [acceptances, told]
      _ = (run steps (new capacity memory)).dispatches ++
            envelope :: (run steps (new capacity memory)).mailbox.take.buffer ++
              Mailbox.acceptances events := by
          rw [flow, (Mailbox.buffer_of_turn_dispatch turn).1]
      _ = q.dispatches ++ [envelope] ++ q.mailbox.buffer := by
          simp [dispatches, told, sent.dispatches, sent.buffer]

end Beginning

/-- What holders of a queue can rely on after some steps, and while the processor is busy in the
next one. -/
structure Delivers (q : Queue α β σ) (steps : List (Step α β σ)) : Prop where
  /-- What was accepted is, in order, what was dispatched, what the processor has in hand and what is
  buffered. -/
  inOrder : ∀ hand asks now, Reaches q steps hand asks now →
    now.acceptances = now.dispatches ++ hand ++ now.mailbox.buffer
  numbered : (run steps q).acceptances.map Envelope.serial =
    List.range (run steps q).mailbox.accepted
  /-- A submission adds its payload at the end, or it is refused without a trace. -/
  submitted : ∀ hand asks now, Reaches q steps hand asks now → ∀ payload wantsReply,
    (∃ envelope, envelope.payload = payload ∧ envelope.wantsReply = wantsReply ∧
      (now.submit payload wantsReply).1 = .ok envelope.serial ∧
      (now.submit payload wantsReply).2.acceptances = now.acceptances ++ [envelope]) ∨
    ∃ cause, now.submit payload wantsReply = (.error cause, now)
  /-- The first quit callback that is asked for is set, and no other. -/
  registered : ∀ hand asks now, Reaches q steps hand asks now → ∀ farewell,
    (now.setFarewell farewell).1 = true ↔ farewells asks = []
  /-- When the consumer has ended everything was dispatched, and the quit callback has run once if it
  was set in time, behind the last dispatch. -/
  drained : (run steps q).ended = true → (run steps q).mailbox.buffer = [] ∧
    (run steps q).acceptances = (run steps q).dispatches ∧
    ∃ earlier later, EndsAt q steps earlier later ∧ Mailbox.farewells (run earlier q).history = []
  /-- A queue that was told to quit, or that nobody holds any more, gets there. -/
  arrives : ∀ later, .close ∈ along asked steps q ∨ .drop ∈ along asked steps q →
    (run steps q).mailbox.remaining ≤ later.countP Step.isConsume →
      (run later (run steps q)).ended = true
  /-- Who has told it to quit waits until the consumer has ended, and can then go on. -/
  returned : (run steps q).returned = true →
    .close ∈ along asked steps q ∧ (run steps q).ended = true
  returns : .close ∈ along asked steps q → (run steps q).ended = true →
    .drop ∉ along asked steps q → (run (steps ++ [.acknowledge]) q).returned = true
  /-- The first who does so is heard, and whoever else does is turned away at once. -/
  first : .close ∉ along asked steps q → (run steps q).close.1 = .ok ()
  again : .close ∈ along asked steps q →
    (run steps q).close = (.error .alreadyClosed, run steps q)

theorem setFarewell_fst (q : Queue α β σ) (farewell : Farewell σ) :
    (q.setFarewell farewell).1 = true ↔ q.farewell = none := by
  unfold setFarewell
  cases q.farewell <;> simp

/-- Every payload that a queue accepts is handed to its processor, once and in order of acceptance,
as long as the host of the consumer is up. -/
theorem delivers_in_order_and_drains (capacity : Nat) (memory : σ) (steps : List (Step α β σ))
    (hosted : Step.abort ∉ steps) : Delivers (new capacity memory) steps := by
  have moved := run_moves (α := α) (β := β) capacity memory
  have fresh : (new capacity memory : Queue α β σ).mailbox.phase ≠ .aborted := by
    simp [new, Mailbox.new]
  have up := run_not_aborted hosted fresh
  have told := run_told steps (new capacity memory)
  have closed : (run steps (new capacity memory)).mailbox.closed = true ↔
      .close ∈ along asked steps (new capacity memory) :=
    told.closed.trans (or_iff_right (by simp [new, Mailbox.new]))
  have orphaned : (run steps (new capacity memory)).mailbox.orphaned = true ↔
      .drop ∈ along asked steps (new capacity memory) :=
    told.orphaned.trans (or_iff_right (by simp [new, Mailbox.new]))
  constructor
  case inOrder => exact fun hand asks now reached => reached.flow up
  case numbered =>
    obtain ⟨counted, total⟩ := (moved steps).serials
    simp only [Mailbox.new, Nat.zero_add] at counted total
    rw [total, List.range_eq_range']
    exact counted
  case submitted =>
    intro hand asks now _ payload wantsReply
    obtain ⟨envelope, mailbox, accepted, eq⟩ | ⟨cause, -, eq⟩ := now.submit_cases payload wantsReply
    · obtain ⟨-, rfl, -⟩ := Mailbox.accept?_eq_ok_iff.mp accepted
      exact .inl ⟨_, rfl, rfl, by rw [eq], by rw [eq]; simp [acceptances, history, note]⟩
    · exact .inr ⟨cause, eq⟩
  case registered =>
    intro hand asks now reached farewell
    rw [setFarewell_fst, reached.told.farewell]
    simp [new]
  case drained =>
    intro past
    have empty : (run steps (new capacity memory)).mailbox.buffer = [] :=
      (moved steps).ended_empty past fun _ => rfl
    have flow := Reaches.between.flow up
    obtain ⟨earlier, later, ends⟩ := run_endsAt hosted (by rfl) (by rfl) past
    exact ⟨empty, by simpa [empty] using flow, earlier, later, ends,
      (moved earlier).farewells ends.running⟩
  case arrives =>
    intro later quitting enough
    rw [← closed, ← orphaned] at quitting
    exact run_sealed (by simpa [Mailbox.sealed] using quitting) enough
  case returned =>
    intro past
    rw [← closed]
    exact run_returned (by simp [new]) past
  case returns =>
    intro quitting past held
    rw [← closed] at quitting
    rw [← orphaned, Bool.not_eq_true] at held
    simp only [run_append, run_cons, run_nil, apply, held, Bool.false_and, Bool.false_eq_true,
      if_false, perform, acknowledge, released, quitting, past, Bool.true_and]
    cases already : (run steps (new capacity memory)).returned <;> simp [already]
  case first =>
    intro untold
    obtain ⟨shut, -⟩ | ⟨-, eq⟩ := (run steps (new capacity memory)).close_cases
    · exact absurd (closed.mp shut) untold
    · rw [eq]
  case again =>
    intro quitting
    obtain ⟨-, eq⟩ | ⟨going, -⟩ := (run steps (new capacity memory)).close_cases
    · exact eq
    · rw [closed.mpr quitting] at going
      cases going

/-- Panics at zero, fails at one and returns anything else. -/
def fussyProcessor : Processor Nat Nat Unit
  | 0, _ => .done (.panicked .other, ())
  | 1, _ => .done (.failed (.callback "one"), ())
  | n, _ => .done (.returned n, ())

/-- A queue with room for two that is told to quit with payloads in its buffer. -/
def fussyRun : List (Step Nat Nat Unit) :=
  [.send 0 true, .push 1, .push 2, .setProcessor fussyProcessor, .consume, .consume, .push 3,
    .setFarewell (fun _ => (.panicked .other, ())), .close, .setFarewell (fun _ => (.returned (), ())),
    .push 4, .consume, .acknowledge, .consume, .consume, .consume, .acknowledge, .push 5]

/-- What was accepted by then is dispatched, the quit callback of the first request runs last, and
the quit returns. -/
theorem fussyRun_drains :
    Step.abort ∉ fussyRun ∧
    (run fussyRun (new 2 ())).ended = true ∧
    (run fussyRun (new 2 ())).acceptances.map Envelope.payload = [0, 1, 3] ∧
    (run fussyRun (new 2 ())).acceptances = (run fussyRun (new 2 ())).dispatches ∧
    (run fussyRun (new 2 ())).history.getLast? = some .stopped ∧
    Mailbox.farewells (run fussyRun (new 2 ())).history = [.panicked .other] ∧
    (run (fussyRun.take 13) (new 2 ())).returned = false ∧
    (run fussyRun (new 2 ())).returned = true :=
  have hosted : Step.abort ∉ fussyRun := by simp [fussyRun]
  have past : (run fussyRun (new 2 ())).ended = true := rfl
  ⟨hosted, past, rfl, ((delivers_in_order_and_drains 2 () fussyRun hosted).drained past).2.1, rfl,
    rfl, rfl, rfl⟩

end Queue
end Lanes
