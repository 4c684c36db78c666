import Lanes.Proofs.Queue.Replies

/-!
# Room in a queue

A queue holds at least one payload and never more than its capacity. What it holds is what it has
accepted, less what its consumer has taken out and what was lost with the consumer's host. As long
as somebody holds the queue, there are two reasons to refuse a payload, and they come in this order:
the queue was told to quit or its consumer is gone, or it is full. A refusal changes nothing. All
this is so between the steps of a run, and at every moment of a step at which the processor is busy.
-/
namespace Lanes

namespace Mailbox
variable {α β : Type} {m m' : Mailbox α β} {events : List (Event α β)}

theorem effectiveCapacity_bounds (requested : Nat) :
    1 ≤ effectiveCapacity requested ∧ effectiveCapacity requested ≤ maxCapacity := by
  unfold effectiveCapacity
  split
  · decide
  · have room : 1 ≤ maxCapacity := by decide
    omega

/-- A mailbox is never fuller than it may be, and it is drained only after it was told to quit or
has lost its senders. -/
structure Bounded (m : Mailbox α β) : Prop where
  fits : m.size ≤ m.capacity
  late : m.phase = .draining ∨ m.phase = .stopped → m.sealed = true

theorem Bounded.new (requested : Nat) : (new requested : Mailbox α β).Bounded :=
  ⟨Nat.zero_le _, by simp [Mailbox.new]⟩

theorem sealed_of_turn_drain (h : m.turn = .drain) : m.sealed = true := by
  unfold turn at h
  unfold sealed
  split at h <;> grind

/-- Whatever senders do, they do not overfill a mailbox. -/
theorem Sent.bounded (sent : Sent m events m') (bounded : m.Bounded) : m'.Bounded := by
  refine ⟨sent.fits bounded.fits, ?_⟩
  rw [sent.phase]
  intro late
  have shut := bounded.late late
  simp only [sealed, Bool.or_eq_true] at shut ⊢
  exact shut.imp (fun closed => (sent.closed closed).1) sent.orphaned

theorem Bounded.take (bounded : m.Bounded) : m.take.Bounded := by
  refine ⟨?_, bounded.late⟩
  have shorter : m.take.size ≤ m.size := by simp [size, Mailbox.take]
  exact Nat.le_trans shorter bounded.fits

theorem Consumption.bounded (h : Consumption m events m') (bounded : m.Bounded) : m'.Bounded := by
  cases h with
  | start => exact ⟨bounded.fits, by simp [enter]⟩
  | drain h =>
    have shut := sealed_of_turn_drain h
    exact ⟨bounded.fits, fun _ => shut⟩
  | dispatch _ _ meanwhile =>
    have kept := meanwhile.sent.bounded bounded.take
    exact ⟨by simpa [size] using kept.fits, by simpa [Mailbox.sealed] using kept.late⟩
  | finish _ h => exact ⟨bounded.fits, fun _ => bounded.late (.inl (buffer_of_turn_finish h).1)⟩

theorem Move.bounded (h : Move m events m') (bounded : m.Bounded) : m'.Bounded := by
  cases h with
  | accept h => exact (Sending.accept h).sent.bounded bounded
  | close h => exact (Sending.close h).sent.bounded bounded
  | orphan => exact (Sending.orphan m).sent.bounded bounded
  | consume h => exact h.bounded bounded
  | abort h => exact ⟨by simp [Mailbox.abort, h, size], by simp [Mailbox.abort, h]⟩
  | find => exact bounded

theorem Moves.bounded (h : Moves m events m') (bounded : m.Bounded) : m'.Bounded :=
  h.keeps (fun move => move.bounded) bounded

theorem Move.capacity (h : Move m events m') : m'.capacity = m.capacity := by
  cases h with
  | accept h => exact (Sending.accept h).sent.capacity
  | close h => exact (Sending.close h).sent.capacity
  | orphan => rfl
  | consume h =>
    cases h with
    | dispatch _ _ meanwhile => simp [meanwhile.sent.capacity, take]
    | _ => rfl
  | abort h => simp [Mailbox.abort, h]
  | find => rfl

theorem Moves.capacity (h : Moves m events m') : m'.capacity = m.capacity := by
  induction h with
  | refl => rfl
  | tail _ last ih => exact last.capacity.trans ih

/-- As long as there are senders, a mailbox that was not told to quit is shut only by the end of its
consumer, and it is full exactly when it holds as many payloads as it may. -/
theorem Bounded.refusal_cases (bounded : m.Bounded) (held : m.orphaned = false) :
    (m.closed = true ∨ m.phase.ended = true) ∧ m.refusal = some .alreadyClosed ∨
    (m.closed = false ∧ m.phase.ended = false) ∧
      (m.size = m.capacity ∧ m.refusal = some (.queueFull m.capacity) ∨
        m.size ≠ m.capacity ∧ m.refusal = none) := by
  have fits := bounded.fits
  cases closed : m.closed with
  | true => exact .inl ⟨.inl rfl, by simp [refusal, closed]⟩
  | false =>
    have going : m.phase ≠ .draining := by
      intro draining
      simpa [sealed, closed, held] using bounded.late (.inl draining)
    cases past : m.phase.ended with
    | true =>
      have shut : m.phase.admits = false := by
        cases phase : m.phase <;> simp_all [ConsumerPhase.admits, ConsumerPhase.ended]
      exact .inl ⟨.inr rfl, by simp [refusal, shut]⟩
    | false =>
      have admits : m.phase.admits = true := by
        cases phase : m.phase <;> simp_all [ConsumerPhase.admits, ConsumerPhase.ended]
      refine .inr ⟨⟨rfl, rfl⟩, ?_⟩
      by_cases full : m.size = m.capacity
      · exact .inl ⟨full, by simp [refusal, closed, admits, full]⟩
      · have room : ¬ m.capacity ≤ m.size := by omega
        exact .inr ⟨full, by simp [refusal, closed, admits, room]⟩

theorem Bounded.ended_iff (bounded : m.Bounded) (held : m.orphaned = false)
    (going : m.closed = false) : m.phase.ended = true ↔ m.phase = .aborted := by
  have running : m.phase ≠ .stopped := by
    intro stopped
    simpa [sealed, going, held] using bounded.late (.inr stopped)
  cases phase : m.phase with
  | stopped => exact absurd phase running
  | _ => simp [ConsumerPhase.ended]

end Mailbox

namespace Queue
variable {α β σ : Type} {q q' : Queue α β σ} {steps : List (Step α β σ)}

/-! ### What a queue holds -/

/-- Free places as a queue counts them: each acceptance takes one, and each payload that has gone
gives one back. -/
def vacancies (q : Queue α β σ) (gone : List (Envelope α)) : Int :=
  q.mailbox.capacity - q.acceptances.length + gone.length

/-- What is lost in a run: what was buffered when the consumer's host went down, if it did before
the consumer had ended. -/
structure Lost (q : Queue α β σ) (steps : List (Step α β σ)) (lost : List (Envelope α)) : Prop where
  buffered : ∀ earlier later, steps = earlier ++ .abort :: later →
    (run earlier q).ended = false → lost = (run earlier q).mailbox.buffer
  none : (∀ earlier later, steps = earlier ++ .abort :: later → (run earlier q).ended = true) →
    lost = []

/-- What was accepted was handed to the processor, is in hand, was lost with the consumer's host or
is buffered, in this order. So there are no fewer free places than none and no more than the
capacity, and the size is what is missing to it. -/
structure Holds (q : Queue α β σ) (hand lost : List (Envelope α)) : Prop where
  accounts : q.acceptances = q.dispatches ++ hand ++ lost ++ q.mailbox.buffer
  fits : q.mailbox.size ≤ q.mailbox.capacity
  vacant : 0 ≤ q.vacancies (q.dispatches ++ hand ++ lost) ∧
    q.vacancies (q.dispatches ++ hand ++ lost) ≤ q.mailbox.capacity
  size : q.mailbox.size = q.mailbox.capacity - q.vacancies (q.dispatches ++ hand ++ lost)

theorem Holds.of_accounts {hand lost : List (Envelope α)}
    (accounts : q.acceptances = q.dispatches ++ hand ++ lost ++ q.mailbox.buffer)
    (fits : q.mailbox.size ≤ q.mailbox.capacity) : Holds q hand lost := by
  have total : q.acceptances.length =
      (q.dispatches ++ hand ++ lost).length + q.mailbox.size := by
    rw [accounts, List.length_append, Mailbox.size]
  refine ⟨accounts, fits, ?_, ?_⟩
  · unfold vacancies
    omega
  · unfold vacancies
    omega

/-- How a queue with a holder answers submissions. -/
structure Admits (q : Queue α β σ) : Prop where
  closed : ∀ payload wantsReply, (q.submit payload wantsReply).1 = .error .alreadyClosed ↔
    q.mailbox.closed = true ∨ q.ended = true
  full : ∀ payload wantsReply room, (q.submit payload wantsReply).1 = .error (.queueFull room) ↔
    (q.mailbox.closed = false ∧ q.ended = false) ∧
      q.mailbox.size = q.mailbox.capacity ∧ room = q.mailbox.capacity
  refused : ∀ payload wantsReply cause, (q.submit payload wantsReply).1 = .error cause →
    (q.submit payload wantsReply).2 = q
  accepted : q.mailbox.closed = false → q.ended = false → q.mailbox.size ≠ q.mailbox.capacity →
    ∀ payload wantsReply, ∃ envelope : Envelope α,
      envelope.payload = payload ∧ envelope.wantsReply = wantsReply ∧
      (q.submit payload wantsReply).1 = .ok envelope.serial ∧
      (q.submit payload wantsReply).2.acceptances = q.acceptances ++ [envelope] ∧
      (q.submit payload wantsReply).2.mailbox.size = q.mailbox.size + 1
  /-- Pushing is submitting without a reply. -/
  push : ∀ payload, q.push payload =
    ((q.submit payload false).1.map (fun _ => ()), (q.submit payload false).2)

theorem submit_refused {cause : Error} (h : q.mailbox.refusal = some cause) (payload : α)
    (wantsReply : Bool) : q.submit payload wantsReply = (.error cause, q) := by
  simp [submit, Mailbox.accept?, h]

theorem submit_accepted (h : q.mailbox.refusal = none) (payload : α) (wantsReply : Bool) :
    q.submit payload wantsReply = (.ok q.mailbox.accepted,
      { q with mailbox := q.mailbox.put ⟨q.mailbox.accepted, payload, wantsReply⟩ }.note
        (.accepted ⟨q.mailbox.accepted, payload, wantsReply⟩)) := by
  simp [submit, Mailbox.accept?, h, Mailbox.put]

theorem admits_of_bounded (bounded : q.mailbox.Bounded) (held : q.mailbox.orphaned = false) :
    Admits q := by
  rcases bounded.refusal_cases held with
    ⟨shut, why⟩ | ⟨⟨going, up⟩, ⟨full, why⟩ | ⟨room, why⟩⟩
  · have answer := submit_refused why
    have past : ¬ (q.mailbox.closed = false ∧ q.ended = false) := by
      rcases shut with shut | shut <;> simp [ended, shut]
    constructor
    case closed =>
      intro payload wantsReply
      simpa [answer, ended] using shut
    case full => simp [answer, past]
    case refused => simp [answer]
    case accepted => exact fun going up => absurd ⟨going, up⟩ past
    case push => exact fun _ => rfl
  · have answer := submit_refused why
    constructor
    case closed => simp [answer, ended, going, up]
    case full =>
      intro payload wantsReply room
      simp [answer, ended, going, up, full, eq_comm]
    case refused => simp [answer]
    case accepted => exact fun _ _ room => absurd full room
    case push => exact fun _ => rfl
  · have answer := submit_accepted why
    constructor
    case closed => simp [answer, ended, going, up]
    case full => simp [answer, room]
    case refused => simp [answer]
    case accepted =>
      intro _ _ _ payload wantsReply
      refine ⟨⟨q.mailbox.accepted, payload, wantsReply⟩, rfl, rfl, ?_⟩
      simp [answer, acceptances, history, note, Mailbox.put, Mailbox.size]
    case push => exact fun _ => rfl

/-! ### Runs from the beginning -/

section Beginning
variable {requested : Nat} {memory : σ} {hand : List (Envelope α)} {asks : List (QueueAsk α σ)}

/-- Taking out a payload and whatever senders do leave the rest of the mailbox as it is. -/
theorem Reaches.kept {start : Queue α β σ} (h : Reaches start steps hand asks q) :
    q.mailbox.capacity = (run steps start).mailbox.capacity ∧
      q.mailbox.phase = (run steps start).mailbox.phase := by
  cases h with
  | between => exact ⟨rfl, rfl⟩
  | during busy =>
    obtain ⟨-, events, taken⟩ := busy.spec
    exact ⟨taken.mailbox.sent.capacity, taken.mailbox.sent.phase⟩

theorem Reaches.bounded (h : Reaches (new requested memory) steps hand asks q) :
    q.mailbox.Bounded := by
  have bounded : (run steps (new requested memory)).mailbox.Bounded :=
    (run_moves requested memory steps).bounded (.new requested)
  cases h with
  | between => exact bounded
  | during busy =>
    obtain ⟨-, events, taken⟩ := busy.spec
    exact taken.mailbox.sent.bounded bounded.take

theorem Reaches.accounts (h : Reaches (new requested memory) steps hand asks q) :
    ∃ lost, Lost (new requested memory) steps lost ∧
      q.acceptances = q.dispatches ++ hand ++ lost ++ q.mailbox.buffer := by
  have fresh : (new requested memory : Queue α β σ).mailbox.phase ≠ .aborted := nofun
  have down : (run steps (new requested memory)).mailbox.phase = .aborted ↔
      ∃ earlier later, steps = earlier ++ .abort :: later ∧
        (run earlier (new requested memory)).ended = false := by
    rw [run_aborted, or_iff_right fresh]
  cases h with
  | between =>
    obtain ⟨lost, settled⟩ := (run_moves (β := β) requested memory steps).settles
    refine ⟨lost, ⟨fun earlier later => lost_eq settled, ?_⟩, ?_⟩
    · intro ends
      by_contra some
      obtain ⟨earlier, later, split, running⟩ := down.mp (settled.gone some).1
      rw [ends earlier later split] at running
      cases running
    · simpa [acceptances, dispatches] using settled.acceptances_eq
  | during busy =>
    have up : (run steps (new requested memory)).mailbox.phase ≠ .aborted := by
      rcases (Mailbox.buffer_of_turn_dispatch busy.spec.1).2 with phase | phase <;> simp [phase]
    refine ⟨[], ⟨?_, fun _ => rfl⟩, ?_⟩
    · intro earlier later split running
      exact absurd (down.mpr ⟨earlier, later, split, running⟩) up
    · rw [List.append_nil]
      exact (Reaches.during busy).flow up

end Beginning

/-- The capacity is at least one and within its limit, and at every moment the queue holds what it
has accepted less what has gone. It was told to quit exactly if a holder did so, and otherwise its
consumer is gone exactly if its host went down before it had ended. With a holder it refuses a
submission as closed in these two cases, else as full if there are no places left, and in no other
case; a refusal leaves everything as it is. -/
theorem refuses_only_closed_or_full (requested : Nat) (memory : σ) (steps : List (Step α β σ)) :
    (1 ≤ Mailbox.effectiveCapacity requested ∧
      Mailbox.effectiveCapacity requested ≤ maxCapacity) ∧
    ∀ hand asks (q : Queue α β σ), Reaches (new requested memory) steps hand asks q →
      q.mailbox.capacity = Mailbox.effectiveCapacity requested ∧
      (∃ lost, Lost (new requested memory) steps lost ∧ Holds q hand lost) ∧
      (q.mailbox.closed = true ↔ .close ∈ asks) ∧
      (q.mailbox.orphaned = false →
        (q.mailbox.closed = false → (q.ended = true ↔
          ∃ earlier later, steps = earlier ++ .abort :: later ∧
            (run earlier (new requested memory)).ended = false)) ∧
        Admits q) := by
  refine ⟨Mailbox.effectiveCapacity_bounds requested, ?_⟩
  intro hand asks q reached
  obtain ⟨capacity, phase⟩ := reached.kept
  obtain ⟨lost, told, accounts⟩ := reached.accounts
  have bounded := reached.bounded
  refine ⟨?_, ⟨lost, told, .of_accounts accounts bounded.fits⟩, ?_, ?_⟩
  · rw [capacity, (run_moves requested memory steps).capacity]
    rfl
  · have fresh : (new requested memory : Queue α β σ).mailbox.closed ≠ true := nofun
    rw [reached.told.closed, or_iff_right fresh]
  · intro held
    refine ⟨?_, admits_of_bounded bounded held⟩
    intro going
    have fresh : (new requested memory : Queue α β σ).mailbox.phase ≠ .aborted := nofun
    rw [ended, bounded.ended_iff held going, phase, run_aborted, or_iff_right fresh]

/-- Sends what it is given to its own queue, and tells it to quit. -/
def echo : Processor Nat Nat Unit := fun n _ =>
  .ask (.submit n false) fun _ => .ask .close fun _ => .done (.returned n, ())

/-- The echo of the only payload fills a queue with a single place, while its sender still waits, and
then the queue is closed. -/
theorem echo_fills_up :
    let steps : List (Step Nat Nat Unit) := [.setProcessor echo, .consume, .send 7 true]
    ∃ full shut : Queue Nat Nat Unit,
      Reaches (new 1 ()) steps [⟨0, 7, true⟩] [.submit 7 true, .submit 7 false] full ∧
      full.mailbox.orphaned = false ∧ full.mailbox.capacity = 1 ∧ full.mailbox.size = 1 ∧
      (full.submit 8 true).1 = .error (.queueFull 1) ∧
      Reaches (new 1 ()) steps [⟨0, 7, true⟩] [.submit 7 true, .submit 7 false, .close] shut ∧
      shut.mailbox.closed = true ∧ (shut.submit 8 true).1 = .error .alreadyClosed := by
  intro steps
  let before : Queue Nat Nat Unit := run steps (new 1 ())
  let taken : Queue Nat Nat Unit := { before with mailbox := before.mailbox.take }
  let full : Queue Nat Nat Unit := (respond (.submit 7 false) taken).2
  have filling : Busy before ⟨0, 7, true⟩ [.submit 7 false] full :=
    .processing rfl (rfl : before.processor = some echo) (.ask (.here _ _))
  have closing : Busy before ⟨0, 7, true⟩ [.submit 7 false, .close] full.close.2 :=
    .processing rfl (rfl : before.processor = some echo) (.ask (.ask (.here _ _)))
  have asked : along asked steps (new 1 ()) = [.submit 7 true] := rfl
  have filled := asked ▸ Reaches.during filling
  have told := asked ▸ Reaches.during closing
  obtain ⟨-, room⟩ := refuses_only_closed_or_full 1 () steps
  obtain ⟨capacity, -, -, answers⟩ := room _ _ _ filled
  obtain ⟨-, -, closed, answers'⟩ := room _ _ _ told
  have shut : full.close.2.mailbox.closed = true := closed.mpr (by simp)
  exact ⟨full, full.close.2, filled, rfl, capacity, rfl,
    ((answers rfl).2.full 8 true 1).mpr ⟨⟨rfl, rfl⟩, rfl, rfl⟩,
    told, shut, ((answers' rfl).2.closed 8 true).mpr (.inl shut)⟩

end Queue
end Lanes
