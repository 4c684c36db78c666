import Lanes.Mailbox
import Lanes.Proofs.Runs

/-!
# Moves of a mailbox

Whatever a queue or a lane does to its mailbox is one of a few moves: a payload is accepted, the
mailbox is closed or orphaned, its consumer takes one step, or the consumer's host goes down. Each
move leaves the events that a journal shows, here the oldest first. What holds of every run of
moves therefore holds of every mailbox, whoever owns it.
-/
namespace Lanes
namespace Mailbox
variable {α β : Type}

/-! ### What events tell -/

namespace Event

@[simp] def acceptance? : Event α β → Option (Envelope α)
  | accepted envelope => some envelope
  | _ => none

@[simp] def dispatch? : Event α β → Option (Envelope α)
  | dispatched envelope _ => some envelope
  | _ => none

@[simp] def farewell? : Event α β → Option (Outcome Unit)
  | farewell outcome => some outcome
  | _ => none

/-- The reply that is left for a sender, under the number of its payload. -/
def reply? : Event α β → Option (Nat × Except Error β)
  | dispatched envelope outcome =>
    if envelope.wantsReply then some (envelope.serial, verdict outcome) else none
  | _ => none

end Event

/-- What was accepted, in order of acceptance. -/
def acceptances (events : List (Event α β)) : List (Envelope α) :=
  events.filterMap Event.acceptance?

/-- What was handed to the processor, in order. -/
def dispatches (events : List (Event α β)) : List (Envelope α) :=
  events.filterMap Event.dispatch?

/-- How the quit callback ended, each time that it ran. -/
def farewells (events : List (Event α β)) : List (Outcome Unit) :=
  events.filterMap Event.farewell?

/-- The replies that dispatches left, in order. -/
def replied (events : List (Event α β)) : List (Nat × Except Error β) :=
  events.filterMap Event.reply?

/-- What the senders of lost payloads are told. -/
def droppedReplies (lost : List (Envelope α)) : List (Nat × Except Error β) :=
  (lost.filter (·.wantsReply)).map (fun envelope => (envelope.serial, .error .replyDropped))

/-- Nothing is accepted any more, nothing is dispatched and no quit callback runs. -/
structure Quiet (events : List (Event α β)) : Prop where
  acceptances : acceptances events = []
  dispatches : dispatches events = []
  farewells : farewells events = []

section Projections
variable (events more : List (Event α β)) (envelopes : List (Envelope α))

@[simp] theorem acceptances_nil : acceptances ([] : List (Event α β)) = [] := rfl

@[simp] theorem dispatches_nil : dispatches ([] : List (Event α β)) = [] := rfl

@[simp] theorem farewells_nil : farewells ([] : List (Event α β)) = [] := rfl

@[simp] theorem acceptances_cons (event : Event α β) :
    acceptances (event :: events) = event.acceptance?.toList ++ acceptances events := by
  cases event <;> rfl

@[simp] theorem dispatches_cons (event : Event α β) :
    dispatches (event :: events) = event.dispatch?.toList ++ dispatches events := by
  cases event <;> rfl

@[simp] theorem farewells_cons (event : Event α β) :
    farewells (event :: events) = event.farewell?.toList ++ farewells events := by
  cases event <;> rfl

@[simp] theorem acceptances_append :
    acceptances (events ++ more) = acceptances events ++ acceptances more :=
  List.filterMap_append ..

@[simp] theorem dispatches_append :
    dispatches (events ++ more) = dispatches events ++ dispatches more :=
  List.filterMap_append ..

@[simp] theorem farewells_append :
    farewells (events ++ more) = farewells events ++ farewells more :=
  List.filterMap_append ..

@[simp] theorem replied_append : replied (events ++ more) = replied events ++ replied more :=
  List.filterMap_append ..

@[simp] theorem acceptances_accepted :
    acceptances (envelopes.map (Event.accepted (β := β))) = envelopes := by
  induction envelopes with
  | nil => rfl
  | cons envelope rest ih => simp [ih]

theorem Quiet.nil : Quiet ([] : List (Event α β)) := ⟨rfl, rfl, rfl⟩

theorem Quiet.append {events more : List (Event α β)} (h : Quiet events) (k : Quiet more) :
    Quiet (events ++ more) := by
  constructor
  · simp [h.acceptances, k.acceptances]
  · simp [h.dispatches, k.dispatches]
  · simp [h.farewells, k.farewells]

/-- No reply without a dispatch. -/
theorem Quiet.replied {events : List (Event α β)} (quiet : Quiet events) :
    replied events = [] := by
  rw [Mailbox.replied, List.filterMap_eq_nil_iff]
  intro event mem
  cases event with
  | dispatched envelope outcome =>
    have there : envelope ∈ Mailbox.dispatches events := List.mem_filterMap.mpr ⟨_, mem, rfl⟩
    simp [quiet.dispatches] at there
  | _ => rfl

end Projections

/-! ### Acceptance -/

/-- The mailbox once an envelope is buffered behind the others. -/
def put (m : Mailbox α β) (envelope : Envelope α) : Mailbox α β :=
  { m with buffer := m.buffer ++ [envelope], accepted := m.accepted + 1 }

theorem accept?_eq_ok_iff {m m' : Mailbox α β} {payload : α} {wantsReply : Bool}
    {envelope : Envelope α} :
    m.accept? payload wantsReply = .ok (envelope, m') ↔
      m.refusal = none ∧ envelope = ⟨m.accepted, payload, wantsReply⟩ ∧ m' = m.put envelope := by
  unfold accept?
  cases hr : m.refusal with
  | some cause => simp
  | none =>
    simp only [Except.ok.injEq, Prod.mk.injEq, true_and, put]
    constructor
    · rintro ⟨rfl, rfl⟩
      exact ⟨rfl, rfl⟩
    · rintro ⟨rfl, rfl⟩
      exact ⟨rfl, rfl⟩

theorem accept?_eq_error_iff {m : Mailbox α β} {payload : α} {wantsReply : Bool} {cause : Error} :
    m.accept? payload wantsReply = .error cause ↔ m.refusal = some cause := by
  unfold accept?
  cases m.refusal <;> simp

theorem refusal_eq_none_iff {m : Mailbox α β} :
    m.refusal = none ↔ m.closed = false ∧ m.phase.admits = true ∧ m.size < m.capacity := by
  unfold refusal
  cases m.closed with
  | true => simp
  | false =>
    cases m.phase.admits with
    | false => simp
    | true =>
      by_cases full : m.capacity ≤ m.size
      · simp [full]
      · simpa [full] using Nat.lt_of_not_le full

theorem refusal_cases {m : Mailbox α β} {cause : Error} (h : m.refusal = some cause) :
    cause = .alreadyClosed ∨ cause = .queueFull m.capacity := by
  unfold refusal at h
  split at h
  · exact .inl (Option.some.inj h).symm
  · split at h
    · exact .inr (Option.some.inj h).symm
    · cases h

/-- Several payloads are accepted one after the other. -/
inductive Intake : Mailbox α β → List (Envelope α) → Mailbox α β → Prop
  | none (m : Mailbox α β) : Intake m [] m
  | more {m m' m'' : Mailbox α β} {envelopes : List (Envelope α)} {envelope : Envelope α}
      {payload : α} {wantsReply : Bool} (before : Intake m envelopes m')
      (last : m'.accept? payload wantsReply = .ok (envelope, m'')) :
      Intake m (envelopes ++ [envelope]) m''

namespace Intake
variable {m m' m'' : Mailbox α β} {envelopes more : List (Envelope α)}

theorem single {payload : α} {wantsReply : Bool} {envelope : Envelope α}
    (h : m.accept? payload wantsReply = .ok (envelope, m')) : Intake m [envelope] m' :=
  .more (.none m) h

theorem trans (h : Intake m envelopes m') (k : Intake m' more m'') :
    Intake m (envelopes ++ more) m'' := by
  induction k with
  | none => simpa using h
  | more _ last ih =>
    rw [← List.append_assoc]
    exact .more ih last

/-- An intake adds to the buffer and to the count, and changes nothing else. -/
theorem eq (h : Intake m envelopes m') :
    m' = { m with
      buffer := m.buffer ++ envelopes
      accepted := m.accepted + envelopes.length } := by
  induction h with
  | none => simp
  | more _ last ih =>
    obtain ⟨-, -, rfl⟩ := accept?_eq_ok_iff.mp last
    simp [ih, put, Nat.add_assoc]

end Intake

/-! ### Moves -/

/-- One thing that senders do to a mailbox. -/
inductive Sending : Mailbox α β → List (Event α β) → Mailbox α β → Prop
  | accept {m m' : Mailbox α β} {payload : α} {wantsReply : Bool} {envelope : Envelope α}
      (h : m.accept? payload wantsReply = .ok (envelope, m')) : Sending m [.accepted envelope] m'
  | close {m m' : Mailbox α β} (h : m.close? = .ok m') : Sending m [.closed] m'
  | orphan (m : Mailbox α β) : Sending m [.orphaned] m.orphan

/-- Whatever senders do, one after the other. -/
abbrev Sendings : Mailbox α β → List (Event α β) → Mailbox α β → Prop := Runs Sending

theorem Intake.sendings {m m' : Mailbox α β} {envelopes : List (Envelope α)}
    (h : Intake m envelopes m') : Sendings m (envelopes.map .accepted) m' := by
  induction h with
  | none => exact .refl _
  | more _ last ih => simpa using Runs.tail ih (.accept last)

theorem close?_eq_ok_iff {m m' : Mailbox α β} :
    m.close? = .ok m' ↔ m.closed = false ∧ m' = { m with closed := true } := by
  unfold close?
  cases m.closed <;> simp [eq_comm]

/-- What senders can do: they add to the buffer and to the count, and may close the mailbox or leave
it. -/
structure Sent (m : Mailbox α β) (events : List (Event α β)) (m' : Mailbox α β) : Prop where
  buffer : m'.buffer = m.buffer ++ acceptances events
  accepted : m'.accepted = m.accepted + (acceptances events).length
  serials : (acceptances events).map Envelope.serial =
    List.range' m.accepted (acceptances events).length
  capacity : m'.capacity = m.capacity
  phase : m'.phase = m.phase
  replies : m'.replies = m.replies
  closed : m.closed = true → m'.closed = true ∧ acceptances events = []
  orphaned : m.orphaned = true → m'.orphaned = true
  fits : m.size ≤ m.capacity → m'.size ≤ m'.capacity
  dispatches : dispatches events = []
  farewells : farewells events = []
  replied : replied events = []

namespace Sent
variable {m m' m'' : Mailbox α β} {events more : List (Event α β)}

theorem refl (m : Mailbox α β) : Sent m [] m := by
  constructor <;> simp [Mailbox.replied]

theorem trans (h : Sent m events m') (k : Sent m' more m'') : Sent m (events ++ more) m'' where
  buffer := by rw [k.buffer, h.buffer, acceptances_append, List.append_assoc]
  accepted := by
    rw [k.accepted, h.accepted, acceptances_append, List.length_append, Nat.add_assoc]
  serials := by
    rw [acceptances_append, List.map_append, h.serials, k.serials, h.accepted,
      List.length_append, List.range'_append_1]
  capacity := k.capacity.trans h.capacity
  phase := k.phase.trans h.phase
  replies := k.replies.trans h.replies
  closed shut := by
    obtain ⟨still, none⟩ := h.closed shut
    obtain ⟨last, none'⟩ := k.closed still
    exact ⟨last, by rw [acceptances_append, none, none', List.append_nil]⟩
  orphaned gone := k.orphaned (h.orphaned gone)
  fits small := k.fits (h.fits small)
  dispatches := by rw [dispatches_append, h.dispatches, k.dispatches, List.append_nil]
  farewells := by rw [farewells_append, h.farewells, k.farewells, List.append_nil]
  replied := by rw [replied_append, h.replied, k.replied, List.append_nil]

end Sent

theorem Sending.sent {m m' : Mailbox α β} {events : List (Event α β)} (h : Sending m events m') :
    Sent m events m' := by
  cases h with
  | accept h =>
    obtain ⟨granted, rfl, rfl⟩ := accept?_eq_ok_iff.mp h
    obtain ⟨going, -, room⟩ := refusal_eq_none_iff.mp granted
    constructor
    case closed => simp [going]
    case fits => simpa [put, size] using fun _ => Nat.succ_le_of_lt room
    all_goals simp [put, Mailbox.replied, Event.reply?]
  | close h =>
    obtain ⟨-, rfl⟩ := close?_eq_ok_iff.mp h
    constructor <;> simp [Mailbox.replied, Event.reply?, size]
  | orphan => constructor <;> simp [Mailbox.orphan, Mailbox.replied, Event.reply?, size]

theorem Sendings.sent {m m' : Mailbox α β} {events : List (Event α β)}
    (h : Sendings m events m') : Sent m events m' := by
  induction h with
  | refl => exact .refl _
  | tail _ last ih => exact ih.trans last.sent

/-- One step of the consumer. While a payload is being handled senders go on. -/
inductive Consumption : Mailbox α β → List (Event α β) → Mailbox α β → Prop
  | start {m : Mailbox α β} (h : m.turn = .start) :
      Consumption m [.started] (m.enter .receiving)
  | drain {m : Mailbox α β} (h : m.turn = .drain) :
      Consumption m [.draining m.size] (m.enter .draining)
  | dispatch {m m' : Mailbox α β} {envelope : Envelope α} {during : List (Event α β)}
      (outcome : Option (Outcome β)) (h : m.turn = .dispatch envelope)
      (meanwhile : Sendings m.take during m') :
      Consumption m (during ++ [.dispatched envelope outcome])
        (m'.answer envelope (verdict outcome))
  | finish {m : Mailbox α β} (farewell : Option (Outcome Unit)) (h : m.turn = .finish) :
      Consumption m (farewell.toList.map .farewell ++ [.stopped]) (m.enter .stopped)

/-- One thing that happens to a mailbox. -/
inductive Move : Mailbox α β → List (Event α β) → Mailbox α β → Prop
  | accept {m m' : Mailbox α β} {payload : α} {wantsReply : Bool} {envelope : Envelope α}
      (h : m.accept? payload wantsReply = .ok (envelope, m')) : Move m [.accepted envelope] m'
  | close {m m' : Mailbox α β} (h : m.close? = .ok m') : Move m [.closed] m'
  | orphan (m : Mailbox α β) : Move m [.orphaned] m.orphan
  | consume {m m' : Mailbox α β} {events : List (Event α β)} (h : Consumption m events m') :
      Move m events m'
  | abort {m : Mailbox α β} (h : m.phase.ended = false) : Move m [.aborted] m.abort
  | find {m : Mailbox α β} (h : m.phase = .aborted) : Move m [.foundAborted] m

/-- Any number of moves, with all their events. -/
abbrev Moves : Mailbox α β → List (Event α β) → Mailbox α β → Prop := Runs Move

theorem Sending.move {m m' : Mailbox α β} {events : List (Event α β)} (h : Sending m events m') :
    Move m events m' := by
  cases h with
  | accept h => exact .accept h
  | close h => exact .close h
  | orphan => exact .orphan m

theorem Sendings.moves {m m' : Mailbox α β} {events : List (Event α β)}
    (h : Sendings m events m') : Moves m events m' := by
  induction h with
  | refl => exact .refl _
  | tail _ last ih => exact .tail ih last.move

/-! ### What the consumer's next step says about the mailbox -/

section Turn
variable {m : Mailbox α β} {envelope : Envelope α}

theorem phase_of_turn_start (h : m.turn = .start) : m.phase = .spawned := by
  unfold turn at h
  split at h <;> grind

theorem phase_of_turn_drain (h : m.turn = .drain) : m.phase = .receiving := by
  unfold turn at h
  split at h <;> grind

theorem buffer_of_turn_finish (h : m.turn = .finish) : m.phase = .draining ∧ m.buffer = [] := by
  unfold turn at h
  split at h <;> grind

theorem buffer_of_turn_dispatch (h : m.turn = .dispatch envelope) :
    m.buffer = envelope :: m.take.buffer ∧ (m.phase = .receiving ∨ m.phase = .draining) := by
  unfold turn at h
  split at h <;> grind [take]

end Turn
end Mailbox
end Lanes
