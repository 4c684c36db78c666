import Lanes.Callback
import Lanes.Moment

/-!
# Backlogs

A backlog is a list with two ends. Items are pushed at its tail or join at its head, and are taken
from either end. It may have one consumer, whose task takes items from the head, one at a time
giving way to others in between, and sleeps for a while whenever it finds no items. Quitting closes
the backlog, lets the task come to its end, and then hands what is left to the consumer or discards
it.
-/
namespace Lanes

/-- How long the consumer of a backlog sleeps, where no rate is asked for. -/
def defaultConsumeRate : Duration := .ofSeconds 1

/-- How far the task of a consumer has come. -/
inductive WorkerPhase where
  /-- There is no task. -/
  | absent
  | spawned
  /-- Between two items. -/
  | yielding
  | sleeping (wakeAt : Moment)
  | stopped
  | aborted
  deriving DecidableEq, Repr

/-- Whether there is nothing to wait for. -/
def WorkerPhase.ended : WorkerPhase → Bool
  | absent | stopped | aborted => true
  | spawned | yielding | sleeping _ => false

/-- What a consumer may ask of its own backlog, or somebody else while the consumer is busy with an
item: all that is answered at once, and the beginning of quit. -/
inductive BacklogAsk (α : Type) where
  | push (item : α)
  | join (item : α)
  | pop
  | tail
  | clear
  | close
  | drop

/-- What is answered. A backlog that was dropped does nothing any more. -/
inductive BacklogReply (α : Type) where
  | gone
  | result (result : Except Error Unit)
  | item (item : Option α)

/-- Takes an item. -/
abbrev Consumer (α σ : Type) :=
  Moment → α → σ → Call (BacklogAsk α) (BacklogReply α) (Outcome Unit × σ)

/-- What happens to a backlog. -/
inductive BacklogEvent (α : Type) where
  | pushed (item : α)
  | joined (item : α)
  | popped (item : α)
  | tailed (item : α)
  | cleared (items : List α)
  | employed
  | cancelled
  | started (rate : Duration)
  /-- The item at the head was taken out for the consumer. -/
  | taken (item : α)
  | delivered (item : α) (outcome : Outcome Unit)
  /-- The task gives way to others. -/
  | yielded
  | resting (wakeAt : Moment)
  | stopped
  | aborted
  /-- Who waited for the task found it aborted. -/
  | foundAborted
  /-- Quitting handed over so many items. -/
  | drained (count : Nat)
  /-- Quitting discarded these items. -/
  | discarded (items : List α)

namespace BacklogEvent
variable {α : Type}

/-- A delivery that failed or panicked is worth a warning. -/
def complaint (outcome : Outcome Unit) : List LogLine :=
  match outcome.contain .backlog with
  | .ok _ => []
  | .error cause => [⟨.warn, .backlog, "List consumer failed: " ++ cause.message⟩]

def lines : BacklogEvent α → List LogLine
  | started rate => [⟨.trace, .backlog, "List consumer started (" ++ rate.text ++ ")"⟩]
  | delivered _ outcome => outcome.alarm .backlog ++ complaint outcome
  | stopped => [⟨.trace, .backlog, "List consumer stopped"⟩]
  | foundAborted => [⟨.error, .backlog, "List consumer terminated abnormally"⟩]
  | drained count => [⟨.debug, .backlog, s!"List drained {count} items on quit"⟩]
  | discarded items =>
    if items.isEmpty then []
    else [⟨.debug, .backlog, s!"List discarded {items.length} items on quit"⟩]
  | _ => []

/-- Whether a caller may have been waiting for the event. -/
def rousesCaller : BacklogEvent α → Bool
  | stopped | aborted => true
  | _ => false

end BacklogEvent

/-- A list of items with its consumer, what the consumer remembers, and the journal of what
happened, the latest event first. -/
structure Backlog (α σ : Type) where
  items : List α
  /-- Whether it was told to quit. -/
  closed : Bool
  /-- Whether its owner is gone. -/
  dropped : Bool
  consumer : Option (Consumer α σ)
  rate : Duration
  phase : WorkerPhase
  memory : σ
  journal : List (BacklogEvent α)

namespace Backlog
variable {α σ : Type}

/-- An empty backlog without a consumer. -/
def new (memory : σ) : Backlog α σ :=
  ⟨[], false, false, none, defaultConsumeRate, .absent, memory, []⟩

def note (b : Backlog α σ) (event : BacklogEvent α) : Backlog α σ :=
  { b with journal := event :: b.journal }

def size (b : Backlog α σ) : Nat := b.items.length

def cancelled (b : Backlog α σ) : Bool := b.closed || b.dropped

/-! ### Both ends -/

/-- Puts an item at the tail. -/
def push (b : Backlog α σ) (item : α) : Except Error Unit × Backlog α σ :=
  if b.closed then (.error .alreadyClosed, b)
  else (.ok (), { b with items := b.items ++ [item] }.note (.pushed item))

/-- Puts an item at the head. -/
def join (b : Backlog α σ) (item : α) : Except Error Unit × Backlog α σ :=
  if b.closed then (.error .alreadyClosed, b)
  else (.ok (), { b with items := item :: b.items }.note (.joined item))

/-- Takes the item at the head; a closed backlog gives none. -/
def pop (b : Backlog α σ) : Option α × Backlog α σ :=
  if b.closed then (none, b)
  else
    match b.items with
    | [] => (none, b)
    | item :: rest => (some item, { b with items := rest }.note (.popped item))

/-- Takes the item at the tail; a closed backlog gives none. -/
def tail (b : Backlog α σ) : Option α × Backlog α σ :=
  if b.closed then (none, b)
  else
    match b.items.getLast? with
    | none => (none, b)
    | some item => (some item, { b with items := b.items.dropLast }.note (.tailed item))

/-- Discards all items. -/
def clear (b : Backlog α σ) : Backlog α σ :=
  { b with items := [] }.note (.cleared b.items)

/-- Tells the backlog to quit; who does so first waits for the task to end and then finishes. -/
def close (b : Backlog α σ) : Except Error Unit × Backlog α σ :=
  if b.closed then (.error .alreadyClosed, b)
  else (.ok (), { b with closed := true }.note .cancelled)

def drop (b : Backlog α σ) : Backlog α σ :=
  { b with dropped := true }.note .cancelled

/-! ### The consumer -/

/-- Starts a consumer, and says whether it did: not if there was one, or the backlog is closed. The
rate zero means the default. -/
def employ (b : Backlog α σ) (consumer : Consumer α σ) (rate : Duration) :
    Bool × Backlog α σ :=
  if b.closed ∨ b.consumer.isSome then (false, b)
  else
    (true, { b with
      consumer := some consumer
      rate := rate.orDefault defaultConsumeRate
      phase := .spawned }.note .employed)

/-- Does what is asked for during a delivery. -/
def perform (question : BacklogAsk α) (b : Backlog α σ) : BacklogReply α × Backlog α σ :=
  if b.dropped then (.gone, b)
  else
    match question with
    | .push item => (.result (b.push item).1, (b.push item).2)
    | .join item => (.result (b.join item).1, (b.join item).2)
    | .pop => (.item b.pop.1, b.pop.2)
    | .tail => (.item b.tail.1, b.tail.2)
    | .clear => (.result (.ok ()), b.clear)
    | .close => (.result b.close.1, b.close.2)
    | .drop => (.result (.ok ()), b.drop)

/-- Takes the item at the head out and hands it to the consumer. -/
def deliver (b : Backlog α σ) (consumer : Consumer α σ) (now : Moment) (item : α) :
    Backlog α σ :=
  let taken := { b with items := b.items.tail }.note (.taken item)
  let ran := (consumer now item b.memory).run perform taken
  { ran.2 with memory := ran.1.2 }.note (.delivered item ran.1.1)

/-- Whether the task of the consumer has something to do. -/
def due (b : Backlog α σ) (now : Moment) : Bool :=
  match b.phase with
  | .spawned | .yielding => true
  | .sleeping wakeAt => b.cancelled || wakeAt ≤ now
  | .absent | .stopped | .aborted => false

def start (b : Backlog α σ) : Backlog α σ :=
  if b.phase = .spawned then b.note (.started b.rate) else b

def stop (b : Backlog α σ) : Backlog α σ :=
  { b with phase := .stopped }.note .stopped

def rest (b : Backlog α σ) (now : Moment) : Backlog α σ :=
  let wakeAt := now.after b.rate
  { b with phase := .sleeping wakeAt }.note (.resting wakeAt)

/-- What the task does when it wakes up: it ends if the backlog is cancelled, otherwise it delivers
one item and gives way, or goes to sleep. -/
def wake (b : Backlog α σ) (now : Moment) : Backlog α σ :=
  if b.due now then
    let started := b.start
    if started.cancelled then started.stop
    else
      match started.consumer, started.items with
      | some consumer, item :: _ =>
        { started.deliver consumer now item with phase := .yielding }.note .yielded
      | _, _ => started.rest now
  else b

/-! ### Quitting -/

/-- The host of the task goes down. -/
def abort (b : Backlog α σ) : Backlog α σ :=
  if b.phase.ended then b else { b with phase := .aborted }.note .aborted

def ended (b : Backlog α σ) : Bool := b.phase.ended

/-- Who waited for the end of the task takes note of it. -/
def acknowledgeEnd (b : Backlog α σ) : Backlog α σ :=
  if b.phase = .aborted then b.note .foundAborted else b

/-- Hands over at most `n` items, counting on from `count`. -/
def drainFrom (consumer : Consumer α σ) (now : Moment) :
    Nat → Nat → Backlog α σ → Nat × Backlog α σ
  | 0, count, b => (count, b)
  | n + 1, count, b =>
    match b.items with
    | [] => (count, b)
    | item :: _ => drainFrom consumer now n (count + 1) (b.deliver consumer now item)

/-- Quitting after the task has ended. A closed backlog never grows, so handing over as many items
as there are at first empties it. -/
def finish (b : Backlog α σ) (force : Bool) (now : Moment) : Backlog α σ :=
  match b.consumer, force with
  | some consumer, false =>
    let drained := drainFrom consumer now b.items.length 0 b
    drained.2.note (.drained drained.1)
  | _, _ => { b with items := [] }.note (.discarded b.items)

end Backlog
end Lanes
