import Lanes.Queue
import Lanes.Simulation.Scheduler
import Lanes.Simulation.Script

/-!
# Simulated queues

A queue whose requests are scripts. Requests carry a label `ι` of their own, by which the
processor's record refers to them.
-/
namespace Lanes.Simulation

/-- A request and what the processor does with it. -/
inductive QueueScript (ι : Type) where
  | ending (label : ι) (ending : Ending)
  /-- Adds to the processor's running total. -/
  | add (label : ι) (n : Int64)
  /-- Pushes a request onto the same queue. -/
  | repush (label : ι) (request : QueueScript ι)

def QueueScript.label {ι : Type} : QueueScript ι → ι
  | ending label _ | add label _ | repush label _ => label

/-- What callbacks put on record. -/
inductive QueueEntry (ι : Type) where
  | processed (tag : String) (label : ι)
  | quit (tag : String)

/-- The running total, and the record with the latest entry first. -/
structure QueueMemory (ι : Type) where
  total : Int64
  entries : List (QueueEntry ι)

namespace QueueScript
variable {ι : Type}

/-- The processor with a tag. -/
def processor (tag : String) : Processor (QueueScript ι) Int64 (QueueMemory ι) :=
  fun script memory =>
    let noted := { memory with entries := .processed tag script.label :: memory.entries }
    match script with
    | .ending _ e => .done (e.outcome.map Int64.ofInt, noted)
    | .add _ n =>
      let total := noted.total + n
      .done (.returned total, { noted with total })
    | .repush _ request =>
      .ask (.submit request false) (fun answer => .done (match answer with
        | .submitted (.ok _) => (.returned 1, noted)
        | .submitted (.error cause) => (.failed cause, noted)
        | _ => (.failed (gone "queue"), noted)))

/-- The quit callback with a tag, which may panic after its entry. -/
def farewell (tag : String) (panics : Bool) : Farewell (QueueMemory ι) :=
  fun memory =>
    (if panics then .panicked (.text "quit panic") else .returned (),
      { memory with entries := .quit tag :: memory.entries })

end QueueScript

abbrev ScriptedQueue (ι : Type) := Queue (QueueScript ι) Int64 (QueueMemory ι)

/-- Operations on a simulated queue. -/
inductive QueueOp (ι : Type) where
  | push (request : QueueScript ι)
  | send (request : QueueScript ι) (wantsReply : Bool)
  | pushAll (requests : List (QueueScript ι))
  | setProcessor (tag : String)
  | setFarewell (tag : String) (panics : Bool)
  | quit
  | drop
  | info

/-- Their answers. -/
inductive QueueAnswer where
  | unit
  | flag (value : Bool)
  | failed (cause : Error)
  | reply (value : Int64)
  | pushed (accepted : Nat) (firstError : Option Error)
  | info (size capacity : Nat) (closed : Bool)
  | dropped

/-- A call that waits for a reply or for the end of the consumer. -/
inductive QueueWait where
  | reply (serial : Nat)
  | quit

namespace ScriptedQueue
variable {ι : Type}

def ofResult : Except Error Unit → QueueAnswer
  | .ok _ => .unit
  | .error cause => .failed cause

/-- Pushes one request after the other, counting those accepted and keeping the first error. -/
def pushAll : List (QueueScript ι) → Nat → Option Error → ScriptedQueue ι →
    QueueAnswer × ScriptedQueue ι
  | [], accepted, firstError, q => (.pushed accepted firstError, q)
  | request :: rest, accepted, firstError, q =>
    let pushed := q.push request
    match pushed.1 with
    | .ok _ => pushAll rest (accepted + 1) firstError pushed.2
    | .error cause => pushAll rest accepted (firstError.or (some cause)) pushed.2

def poll (_ : Moment) (call : QueueWait) (q : ScriptedQueue ι) :
    Sum QueueAnswer QueueWait × ScriptedQueue ι :=
  match call with
  | .reply serial =>
    match q.mailbox.reply? serial with
    | none => (.inr call, q)
    | some (.ok value) => (.inl (.reply value), q)
    | some (.error cause) => (.inl (.failed cause), q)
  | .quit => if q.released then (.inl .unit, q.acknowledge) else (.inr call, q)

def begin_ (now : Moment) (op : QueueOp ι) (q : ScriptedQueue ι) :
    Sum QueueAnswer QueueWait × ScriptedQueue ι :=
  match op with
  | .push request =>
    let pushed := q.push request
    (.inl (ofResult pushed.1), pushed.2)
  | .send request wantsReply =>
    let submitted := q.submit request wantsReply
    match submitted.1 with
    | .error cause => (.inl (.failed cause), submitted.2)
    | .ok serial =>
      if wantsReply then poll now (.reply serial) submitted.2 else (.inl .unit, submitted.2)
  | .pushAll requests =>
    let pushed := pushAll requests 0 none q
    (.inl pushed.1, pushed.2)
  | .setProcessor tag =>
    let set := q.setProcessor (QueueScript.processor tag)
    (.inl (.flag set.1), set.2)
  | .setFarewell tag panics =>
    let set := q.setFarewell (QueueScript.farewell tag panics)
    (.inl (.flag set.1), set.2)
  | .quit =>
    let closed := q.close
    match closed.1 with
    | .error cause => (.inl (.failed cause), closed.2)
    | .ok _ => poll now .quit closed.2
  | .drop => (.inl .unit, q.drop)
  | .info => (.inl (.info q.mailbox.size q.mailbox.capacity q.mailbox.closed), q)

def signals (event : Mailbox.Event (QueueScript ι) Int64) : List (Signal Unit) :=
  (if event.rousesConsumer then [.wake ()] else []) ++
    (if event.rousesCaller then [.caller] else [])

/-- The queue with its consumer as the only task. -/
def system : System (ScriptedQueue ι) Unit (QueueOp ι) QueueWait QueueAnswer where
  due _ _ q := q.runnable
  step _ _ q := q.consume
  rationed _ q := q.mailbox.attended
  cost _ q := q.mailbox.looks
  begin_ := begin_
  gone? q := if q.mailbox.orphaned then some .dropped else none
  poll := poll
  collect q :=
    let events := q.journal.reverse
    ((events.flatMap signals, events.flatMap (·.lines)), { q with journal := [] })
  abort q := q.abort
  ofBool := .flag

/-- A queue in its world, with a processor or without. -/
def world (capacity : Nat) (tag : Option String) (hosted : Bool) :
    World (ScriptedQueue ι) Unit QueueWait QueueAnswer :=
  let bare : ScriptedQueue ι := .new capacity ⟨0, []⟩
  let queue := match tag with
    | none => bare
    | some t => (bare.setProcessor (QueueScript.processor t)).2
  .start queue [()] hosted

/-- Takes the record of the callbacks out, the oldest entry first. -/
def takeEntries (w : World (ScriptedQueue ι) Unit QueueWait QueueAnswer) :
    List (QueueEntry ι) × World (ScriptedQueue ι) Unit QueueWait QueueAnswer :=
  let memory := w.component.memory
  (memory.entries.reverse,
    { w with component := { w.component with memory := { memory with entries := [] } } })

end ScriptedQueue
end Lanes.Simulation
