import Lanes.Callback

/-!
# Mailboxes

A mailbox buffers accepted payloads in order of acceptance until its one consumer takes them, the
oldest first. It never makes a sender wait for room: a payload is accepted or refused at once. A
sender that wants a reply finds it under the serial number of its payload.

The consumer starts, receives, drains what is left once the mailbox is closed or has no senders
any more, and stops; or it is aborted together with whatever hosts it. `Mailbox.turn` says what it
does next.
-/
namespace Lanes

/-- Payloads that a mailbox buffers, where no capacity is asked for. -/
def defaultCapacity : Nat := 1024

/-- The largest capacity of a mailbox. -/
def maxCapacity : Nat := 0x1fffffffffffffff

/-- An accepted payload and its running number. -/
structure Envelope (α : Type) where
  serial : Nat
  payload : α
  wantsReply : Bool

/-- How far the consumer of a mailbox has come. -/
inductive ConsumerPhase where
  | spawned
  | receiving
  | draining
  | stopped
  | aborted
  deriving DecidableEq, Repr

namespace ConsumerPhase

/-- Before the consumer starts to drain it admits new payloads. -/
def admits : ConsumerPhase → Bool
  | spawned | receiving => true
  | draining | stopped | aborted => false

def ended : ConsumerPhase → Bool
  | stopped | aborted => true
  | spawned | receiving | draining => false

end ConsumerPhase

/-- A bounded buffer of payloads of type `α`, answered by replies of type `β`. -/
structure Mailbox (α β : Type) where
  capacity : Nat
  buffer : List (Envelope α)
  /-- Number of payloads accepted so far. -/
  accepted : Nat
  /-- Whether it was told to quit. -/
  closed : Bool
  /-- Whether all senders are gone. -/
  orphaned : Bool
  phase : ConsumerPhase
  /-- Replies by serial number of the payload. -/
  replies : List (Nat × Except Error β)

namespace Mailbox
variable {α β : Type}

/-- The capacity for a requested one: zero means the default, and there is a limit. -/
def effectiveCapacity (requested : Nat) : Nat :=
  if requested = 0 then defaultCapacity else min requested maxCapacity

/-- An empty mailbox whose consumer has yet to run. -/
def new (requested : Nat) : Mailbox α β :=
  ⟨effectiveCapacity requested, [], 0, false, false, .spawned, []⟩

def size (m : Mailbox α β) : Nat := m.buffer.length

/-! ### Senders -/

/-- Why a payload would be refused now. -/
def refusal (m : Mailbox α β) : Option Error :=
  if m.closed ∨ !m.phase.admits then some .alreadyClosed
  else if m.capacity ≤ m.size then some (.queueFull m.capacity)
  else none

/-- Buffers a payload behind the others, or refuses it. -/
def accept? (m : Mailbox α β) (payload : α) (wantsReply : Bool) :
    Except Error (Envelope α × Mailbox α β) :=
  match m.refusal with
  | some cause => .error cause
  | none =>
    let envelope := ⟨m.accepted, payload, wantsReply⟩
    .ok (envelope, { m with buffer := m.buffer ++ [envelope], accepted := m.accepted + 1 })

/-- The reply to a payload, once there is one. -/
def reply? (m : Mailbox α β) (serial : Nat) : Option (Except Error β) :=
  m.replies.lookup serial

/-- Closes the mailbox, which can be done once. -/
def close? (m : Mailbox α β) : Except Error (Mailbox α β) :=
  if m.closed then .error .alreadyClosed else .ok { m with closed := true }

def orphan (m : Mailbox α β) : Mailbox α β := { m with orphaned := true }

/-! ### The consumer -/

/-- What the consumer does next. -/
inductive Turn (α : Type) where
  | start
  | dispatch (envelope : Envelope α)
  | drain
  | finish
  | wait

/-- A closed mailbox is drained at once, one without senders when the consumer finds it empty. -/
def turn (m : Mailbox α β) : Turn α :=
  match m.phase with
  | .spawned => .start
  | .receiving =>
    if m.closed then .drain
    else
      match m.buffer with
      | envelope :: _ => .dispatch envelope
      | [] => if m.orphaned then .drain else .wait
  | .draining =>
    match m.buffer with
    | envelope :: _ => .dispatch envelope
    | [] => .finish
  | .stopped | .aborted => .wait

/-- Whether the consumer looks into the mailbox next. -/
def attended (m : Mailbox α β) : Bool :=
  match m.phase with
  | .receiving | .draining => true
  | .spawned | .stopped | .aborted => false

/-- How many looks into the mailbox the consumer's next step takes: one for each payload, and one to
find that no more will come. -/
def looks (m : Mailbox α β) : Nat :=
  match m.turn with
  | .dispatch _ | .finish => 1
  | .drain => if m.closed then 0 else 1
  | .start | .wait => 0

def enter (m : Mailbox α β) (phase : ConsumerPhase) : Mailbox α β := { m with phase }

/-- Takes the oldest payload out. -/
def take (m : Mailbox α β) : Mailbox α β := { m with buffer := m.buffer.tail }

/-- Leaves the reply to a payload for its sender, if it wants one. -/
def answer (m : Mailbox α β) (envelope : Envelope α) (result : Except Error β) : Mailbox α β :=
  if envelope.wantsReply then { m with replies := m.replies ++ [(envelope.serial, result)] } else m

/-- The host of the consumer goes down: what is buffered is lost, and who waits for a reply to it
is told so. A consumer that had stopped before is not concerned. -/
def abort (m : Mailbox α β) : Mailbox α β :=
  if m.phase.ended then m
  else
    let lost := m.buffer.filter (·.wantsReply)
    { m with
      buffer := []
      phase := .aborted
      replies := m.replies ++ lost.map (fun envelope => (envelope.serial, .error .replyDropped)) }

/-! ### Events -/

/-- What happens to a mailbox. -/
inductive Event (α β : Type) where
  | accepted (envelope : Envelope α)
  | closed
  | orphaned
  | started
  | draining (buffered : Nat)
  /-- A payload was handed to the processor, or to none if there is none. -/
  | dispatched (envelope : Envelope α) (outcome : Option (Outcome β))
  /-- The quit callback ran. -/
  | farewell (outcome : Outcome Unit)
  | stopped
  | aborted
  /-- Who waited for the consumer found it aborted. -/
  | foundAborted

/-- The result of a dispatch as its sender sees it. -/
def verdict : Option (Outcome β) → Except Error β
  | none => .error (.unconfigured "queue processor")
  | some outcome => outcome.contain .queue

/-- A failure that no sender listens for is worth a line. -/
def unheard (envelope : Envelope α) (outcome : Option (Outcome β)) : List LogLine :=
  if envelope.wantsReply then []
  else
    match verdict outcome with
    | .ok _ => []
    | .error cause =>
      [⟨.debug, .queue, "Queue request failed without a listener: " ++ cause.message⟩]

namespace Event

def lines : Event α β → List LogLine
  | accepted _ | closed | orphaned | aborted => []
  | started => [⟨.trace, .queue, "Queue consumer started"⟩]
  | draining buffered =>
    [⟨.debug, .queue, s!"Queue consumer draining {buffered} buffered requests"⟩]
  | dispatched envelope outcome =>
    (match outcome with
      | none => []
      | some ended => ended.alarm .queue) ++ unheard envelope outcome
  | farewell outcome => outcome.alarm .queueQuit
  | stopped => [⟨.trace, .queue, "Queue consumer stopped"⟩]
  | foundAborted => [⟨.error, .queue, "Queue consumer terminated abnormally"⟩]

/-- Whether the consumer may have something to do after the event. -/
def rousesConsumer : Event α β → Bool
  | accepted _ | closed | orphaned => true
  | _ => false

/-- Whether a caller may have been waiting for the event. -/
def rousesCaller : Event α β → Bool
  | dispatched envelope _ => envelope.wantsReply
  | stopped | aborted => true
  | _ => false

end Event
end Mailbox
end Lanes
