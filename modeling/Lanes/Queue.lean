import Lanes.Mailbox

/-!
# Queues

A queue is a mailbox whose consumer hands each payload to a processor. Processor and quit callback
can each be set once, at any time. While the processor handles a payload it may use its own queue,
and so may others. What callbacks remember is the queue's `memory`; everything that happens goes
into its `journal`, the latest event first.
-/
namespace Lanes

/-- Runs once when a consumer has finished. -/
abbrev Farewell (σ : Type) := σ → Outcome Unit × σ

/-- What a processor may ask of its own queue, or somebody else while the processor is busy with a
payload: all that is answered at once, and the beginning of quit. To set a processor is not among
it, since that is refused as long as there is one. -/
inductive QueueAsk (α σ : Type) where
  | submit (payload : α) (wantsReply : Bool)
  | setFarewell (farewell : Farewell σ)
  | close
  | drop

/-- What is answered. A queue that has no senders any more does nothing. -/
inductive QueueReply where
  | gone
  | submitted (result : Except Error Nat)
  | flag (first : Bool)
  | result (result : Except Error Unit)

/-- Handles a payload, knowing and changing what the callbacks remember. -/
abbrev Processor (α β σ : Type) := α → σ → Call (QueueAsk α σ) QueueReply (Outcome β × σ)

/-- A mailbox with the callbacks that its consumer runs. -/
structure Queue (α β σ : Type) where
  mailbox : Mailbox α β
  /-- Whether the quit that closed it has returned. -/
  returned : Bool
  processor : Option (Processor α β σ)
  farewell : Option (Farewell σ)
  memory : σ
  journal : List (Mailbox.Event α β)

namespace Queue
variable {α β σ : Type}

/-- A queue without callbacks. -/
def new (capacity : Nat) (memory : σ) : Queue α β σ :=
  ⟨.new capacity, false, none, none, memory, []⟩

def note (q : Queue α β σ) (event : Mailbox.Event α β) : Queue α β σ :=
  { q with journal := event :: q.journal }

/-! ### Senders -/

/-- Buffers a payload. The serial number is the sender's claim to the reply. -/
def submit (q : Queue α β σ) (payload : α) (wantsReply : Bool) :
    Except Error Nat × Queue α β σ :=
  match q.mailbox.accept? payload wantsReply with
  | .error cause => (.error cause, q)
  | .ok (envelope, mailbox) =>
    (.ok envelope.serial, { q with mailbox }.note (.accepted envelope))

/-- Buffers a payload to which nobody expects a reply. -/
def push (q : Queue α β σ) (payload : α) : Except Error Unit × Queue α β σ :=
  let submitted := q.submit payload false
  (submitted.1.map (fun _ => ()), submitted.2)

/-- Sets the processor, and says whether it is the first. -/
def setProcessor (q : Queue α β σ) (processor : Processor α β σ) : Bool × Queue α β σ :=
  match q.processor with
  | some _ => (false, q)
  | none => (true, { q with processor := some processor })

/-- Sets the quit callback, and says whether it is the first. -/
def setFarewell (q : Queue α β σ) (farewell : Farewell σ) : Bool × Queue α β σ :=
  match q.farewell with
  | some _ => (false, q)
  | none => (true, { q with farewell := some farewell })

/-- Tells the queue to quit; who does so first waits for the consumer to end. -/
def close (q : Queue α β σ) : Except Error Unit × Queue α β σ :=
  match q.mailbox.close? with
  | .error cause => (.error cause, q)
  | .ok mailbox => (.ok (), { q with mailbox }.note .closed)

/-- The last sender goes away. -/
def drop (q : Queue α β σ) : Queue α β σ :=
  { q with mailbox := q.mailbox.orphan }.note .orphaned

/-- The host of the consumer goes down. -/
def abort (q : Queue α β σ) : Queue α β σ :=
  if q.mailbox.phase.ended then q
  else { q with mailbox := q.mailbox.abort }.note .aborted

def ended (q : Queue α β σ) : Bool := q.mailbox.phase.ended

/-- Whether who closed the queue can go on: its consumer has ended. -/
def released (q : Queue α β σ) : Bool := q.mailbox.closed && q.ended && !q.returned

/-- Who closed the queue and waited for the end of its consumer goes on. -/
def acknowledge (q : Queue α β σ) : Queue α β σ :=
  if q.released then
    let found := if q.mailbox.phase = .aborted then q.note .foundAborted else q
    { found with returned := true }
  else q

/-! ### The consumer -/

/-- Does what is asked for while the processor is busy. -/
def respond (question : QueueAsk α σ) (q : Queue α β σ) : QueueReply × Queue α β σ :=
  if q.mailbox.orphaned then (.gone, q)
  else
    match question with
    | .submit payload wantsReply =>
      (.submitted (q.submit payload wantsReply).1, (q.submit payload wantsReply).2)
    | .setFarewell farewell => (.flag (q.setFarewell farewell).1, (q.setFarewell farewell).2)
    | .close => (.result q.close.1, q.close.2)
    | .drop => (.result (.ok ()), q.drop)

/-- Hands a payload that was taken out to the processor. -/
def process (q : Queue α β σ) (payload : α) : Option (Outcome β) × Queue α β σ :=
  match q.processor with
  | none => (none, q)
  | some processor =>
    let ran := (processor payload q.memory).run respond q
    (some ran.1.1, { ran.2 with memory := ran.1.2 })

/-- Takes the oldest payload, has it processed and leaves the reply. -/
def dispatch (q : Queue α β σ) (envelope : Envelope α) : Queue α β σ :=
  let processed := { q with mailbox := q.mailbox.take }.process envelope.payload
  let after := processed.2
  { after with mailbox := after.mailbox.answer envelope (Mailbox.verdict processed.1) }.note
    (.dispatched envelope processed.1)

/-- Runs the quit callback, if there is one. -/
def bidFarewell (q : Queue α β σ) : Queue α β σ :=
  match q.farewell with
  | none => q
  | some farewell =>
    let ran := farewell q.memory
    { q with memory := ran.2 }.note (.farewell ran.1)

def stop (q : Queue α β σ) : Queue α β σ :=
  { q with mailbox := q.mailbox.enter .stopped }.note .stopped

/-- Whether the consumer has something to do. -/
def runnable (q : Queue α β σ) : Bool :=
  match q.mailbox.turn with
  | .wait => false
  | _ => true

/-- The next step of the consumer. -/
def consume (q : Queue α β σ) : Queue α β σ :=
  match q.mailbox.turn with
  | .wait => q
  | .start => { q with mailbox := q.mailbox.enter .receiving }.note .started
  | .drain => { q with mailbox := q.mailbox.enter .draining }.note (.draining q.mailbox.size)
  | .dispatch envelope => q.dispatch envelope
  | .finish => q.bidFarewell.stop

end Queue
end Lanes
