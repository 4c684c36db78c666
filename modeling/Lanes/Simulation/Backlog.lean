import Lanes.Backlog
import Lanes.Simulation.Scheduler
import Lanes.Simulation.Script

/-!
# Simulated backlogs

A backlog whose items are scripts. Items carry a label `ι` of their own, by which the consumer's
record refers to them.
-/
namespace Lanes.Simulation

/-- An item and what the consumer does with it. -/
inductive ItemScript (ι : Type) where
  | ending (label : ι) (ending : Ending)
  /-- Pushes an item onto the same backlog. -/
  | repush (label : ι) (item : ItemScript ι)
  /-- Lets an item join at the head of the same backlog. -/
  | rejoin (label : ι) (item : ItemScript ι)
  /-- Clears the same backlog. -/
  | clear (label : ι)

def ItemScript.label {ι : Type} : ItemScript ι → ι
  | ending label _ | repush label _ | rejoin label _ | clear label => label

/-- A delivery on record: who took what, and when. -/
structure ItemEntry (ι : Type) where
  tag : String
  label : ι
  moment : Moment

abbrev ScriptedBacklog (ι : Type) := Backlog (ItemScript ι) (List (ItemEntry ι))

namespace ItemScript
variable {ι : Type}

/-- How a delivery ends after a request to the backlog. -/
def answered : BacklogReply (ItemScript ι) → Outcome Unit
  | .gone => .failed (gone "list")
  | .result result => .ofExcept result
  | .item _ => .returned ()

/-- The consumer with a tag. -/
def consumer (tag : String) : Consumer (ItemScript ι) (List (ItemEntry ι)) :=
  fun now script entries =>
    let noted := ⟨tag, script.label, now⟩ :: entries
    match script with
    | .ending _ e => .done (e.conclusion, noted)
    | .repush _ item => .ask (.push item) (fun answer => .done (answered answer, noted))
    | .rejoin _ item => .ask (.join item) (fun answer => .done (answered answer, noted))
    | .clear _ => .ask .clear (fun answer => .done (answered answer, noted))

end ItemScript

/-- Operations on a simulated backlog. -/
inductive BacklogOp (ι : Type) where
  | push (item : ItemScript ι)
  | join (item : ItemScript ι)
  | pushAll (items : List (ItemScript ι))
  | pop
  | tail
  | clear
  | employ (tag : String) (rate : Duration)
  | quit (force : Bool)
  | drop
  | info

/-- Their answers. -/
inductive BacklogAnswer (ι : Type) where
  | unit
  | flag (value : Bool)
  | failed (cause : Error)
  | item (label : Option ι)
  | pushed (accepted : Nat) (firstError : Option Error)
  | info (size : Nat) (closed : Bool)
  | dropped

/-- A call that waits for the end of the consumer's task. -/
inductive BacklogWait where
  | quit (force : Bool)

namespace ScriptedBacklog
variable {ι : Type}

def ofResult : Except Error Unit → BacklogAnswer ι
  | .ok _ => .unit
  | .error cause => .failed cause

/-- Pushes one item after the other, counting those accepted and keeping the first error. -/
def pushAll : List (ItemScript ι) → Nat → Option Error → ScriptedBacklog ι →
    BacklogAnswer ι × ScriptedBacklog ι
  | [], accepted, firstError, b => (.pushed accepted firstError, b)
  | item :: rest, accepted, firstError, b =>
    let pushed := b.push item
    match pushed.1 with
    | .ok _ => pushAll rest (accepted + 1) firstError pushed.2
    | .error cause => pushAll rest accepted (firstError.or (some cause)) pushed.2

def poll (now : Moment) (call : BacklogWait) (b : ScriptedBacklog ι) :
    Sum (BacklogAnswer ι) BacklogWait × ScriptedBacklog ι :=
  match call with
  | .quit force =>
    if b.ended then (.inl .unit, b.acknowledgeEnd.finish force now) else (.inr call, b)

def begin_ (now : Moment) (op : BacklogOp ι) (b : ScriptedBacklog ι) :
    Sum (BacklogAnswer ι) BacklogWait × ScriptedBacklog ι :=
  match op with
  | .push item =>
    let pushed := b.push item
    (.inl (ofResult pushed.1), pushed.2)
  | .join item =>
    let joined := b.join item
    (.inl (ofResult joined.1), joined.2)
  | .pushAll items =>
    let pushed := pushAll items 0 none b
    (.inl pushed.1, pushed.2)
  | .pop =>
    let popped := b.pop
    (.inl (.item (popped.1.map (·.label))), popped.2)
  | .tail =>
    let tailed := b.tail
    (.inl (.item (tailed.1.map (·.label))), tailed.2)
  | .clear => (.inl .unit, b.clear)
  | .employ tag rate =>
    let employed := b.employ (ItemScript.consumer tag) rate
    (.inl (.flag employed.1), employed.2)
  | .quit force =>
    let closed := b.close
    match closed.1 with
    | .error cause => (.inl (.failed cause), closed.2)
    | .ok _ => poll now (.quit force) closed.2
  | .drop => (.inl .unit, b.drop)
  | .info => (.inl (.info b.size b.closed), b)

def signals (event : BacklogEvent (ItemScript ι)) : List (Signal Unit) :=
  match event with
  | .employed | .cancelled => [.wake ()]
  | .yielded => [.yield ()]
  | .resting wakeAt => [.sleep () wakeAt]
  | _ => if event.rousesCaller then [.caller] else []

/-- The backlog with the task of its consumer. -/
def system : System (ScriptedBacklog ι) Unit (BacklogOp ι) BacklogWait (BacklogAnswer ι) where
  due now _ b := b.due now
  step now _ b := b.wake now
  begin_ := begin_
  gone? b := if b.dropped then some .dropped else none
  poll := poll
  collect b :=
    let events := b.journal.reverse
    ((events.flatMap signals, events.flatMap (·.lines)), { b with journal := [] })
  abort b := b.abort
  ofBool := .flag

/-- An empty backlog in its world. -/
def world (hosted : Bool) : World (ScriptedBacklog ι) Unit BacklogWait (BacklogAnswer ι) :=
  .start (.new []) [] hosted

/-- Takes the record of the consumer out, the oldest entry first. -/
def takeEntries (w : World (ScriptedBacklog ι) Unit BacklogWait (BacklogAnswer ι)) :
    List (ItemEntry ι) × World (ScriptedBacklog ι) Unit BacklogWait (BacklogAnswer ι) :=
  (w.component.memory.reverse, { w with component := { w.component with memory := [] } })

end ScriptedBacklog
end Lanes.Simulation
