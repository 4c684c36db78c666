import Lanes.Pool.Shutdown
import Lanes.Simulation.Scheduler

/-!
# Simulated pools

A pool with the consumers and tickers of all its lanes as tasks. The caller may keep lanes under
names of its own, beyond their life in the pool. Edits are operations of a simulation's own, with
answers of type `ε`.
-/
namespace Lanes.Simulation

/-- The tasks of a pool, by the places of their lanes. -/
inductive LaneTask where
  | consumer (place : Nat)
  | ticker (place : Nat)
  deriving DecidableEq

/-- A pool and the lanes that the caller keeps, by name. -/
structure PoolState (α β γ σ : Type) where
  pool : Pool α β γ σ
  held : List (String × Nat)

/-- What there is to know of a lane. -/
structure LaneInfo where
  id : LaneId
  pending : Nat
  tickPeriod : Option Duration
  closed : Bool
  objects : Nat

def LaneInfo.of {α β γ : Type} (lane : Lane α β γ) : LaneInfo :=
  ⟨lane.id, lane.pending, lane.tickPeriod, lane.mailbox.closed, lane.table.size⟩

/-- Operations on a kept lane. -/
inductive HeldOp (α γ ε : Type) where
  | push (request : α)
  | pushAll (requests : List α)
  | send (request : α) (wantsReply : Bool)
  | retime (seconds : Binary64)
  | edit (change : Table γ → ε × Table γ)
  | info

/-- Operations on a simulated pool. -/
inductive PoolOp (α β γ σ ε : Type) where
  | create (count : Nat) (tick : Option Duration)
  | target (object : ObjectId) (affinity : Bool)
  | targets (objects : List ObjectId) (affinity : Bool)
  | worker (lane : LaneId)
  | retime (lane : LaneId) (seconds : Binary64)
  | sendTo (lane : LaneId) (request : α) (wantsReply : Bool)
  | sendEach (request : α) (objects : List ObjectId) (wantsReply : Bool)
  | cast (request : α)
  | getObject (object : ObjectId)
  | setObject (object : ObjectId) (value : γ)
  | removeObject (object : ObjectId)
  | objectsOf (lane : LaneId)
  | quit
  | hold (lane : LaneId) (name : String)
  | held (name : String) (op : HeldOp α γ ε)
  | edit (change : Moment → Pool α β γ σ → ε × Pool α β γ σ)
  | state

/-- Their answers. -/
inductive PoolAnswer (β γ ε : Type) where
  | unit
  | flag (value : Bool)
  | failed (cause : Error)
  | created (ids : List LaneId)
  | lane (id : LaneId)
  | lanes (ids : List (Except Error LaneId))
  | worker (info : LaneInfo)
  | reply (value : Option β)
  | replies (values : OrderedMap ObjectId (Except Error (Option β)))
  | count (n : Nat)
  | object (value : γ)
  | removed (value : Option γ)
  | objects (table : Table γ)
  | pushed (accepted : Nat) (firstError : Option Error)
  | edited (value : ε)
  | notHeld
  | state (workers : List LaneInfo)

/-- A call that waits for replies or for lanes to stop. -/
inductive PoolWait where
  | reply (receipt : Receipt)
  | replies (receipts : List (ObjectId × Receipt))
  | quit (stops : List LaneStop)

namespace PoolState
variable {α β γ σ ε : Type}

abbrev Answered (β γ ε : Type) := Sum (PoolAnswer β γ ε) PoolWait

def ofResult : Except Error Unit → PoolAnswer β γ ε
  | .ok _ => .unit
  | .error cause => .failed cause

/-- The answer of an operation that did not change anything else, or its error. -/
def answer {α : Type} (f : α → PoolAnswer β γ ε) : Except Error α → PoolAnswer β γ ε
  | .ok value => f value
  | .error cause => .failed cause

/-- The id of the lane at a place. -/
def idAt (p : Pool α β γ σ) (place : Nat) : LaneId :=
  ((p.lanes[place]?).map (·.id)).getD 0

/-- What there is to know of the lane at a place. -/
def infoAt (p : Pool α β γ σ) (place : Nat) : Option LaneInfo :=
  (p.lanes[place]?).map LaneInfo.of

def workerAnswer (p : Pool α β γ σ) (place : Nat) : PoolAnswer β γ ε :=
  match infoAt p place with
  | some info => .worker info
  | none => .notHeld

/-- The lanes of several objects, one after the other. -/
def targetEach (affinity : Bool) :
    List ObjectId → Pool α β γ σ → List (Except Error LaneId) × Pool α β γ σ
  | [], p => ([], p)
  | object :: rest, p =>
    let first := p.target object affinity
    let others := targetEach affinity rest first.2
    (first.1.map (idAt first.2) :: others.1, others.2)

/-- Pushes one request after the other, counting those accepted and keeping the first error. -/
def pushEach (place : Nat) :
    List α → Nat → Option Error → Pool α β γ σ → PoolAnswer β γ ε × Pool α β γ σ
  | [], accepted, firstError, p => (.pushed accepted firstError, p)
  | request :: rest, accepted, firstError, p =>
    let pushed := p.push place request
    match pushed.1 with
    | .ok _ => pushEach place rest (accepted + 1) firstError pushed.2
    | .error cause => pushEach place rest accepted (firstError.or (some cause)) pushed.2

def pollPool (call : PoolWait) (p : Pool α β γ σ) : Answered β γ ε × Pool α β γ σ :=
  match call with
  | .reply receipt =>
    match p.outcome? receipt with
    | some result => (.inl (answer .reply result), p)
    | none => (.inr call, p)
  | .replies receipts =>
    match p.outcomes? receipts with
    | some values => (.inl (.replies values), p)
    | none => (.inr call, p)
  | .quit stops =>
    let advanced := p.advanceQuit stops
    (if Pool.stopsFinished advanced.1 then .inl .unit else .inr (.quit advanced.1), advanced.2)

/-- An operation on the lane at a place. -/
def operateHeld (place : Nat) (op : HeldOp α γ ε) (p : Pool α β γ σ) :
    Answered β γ ε × Pool α β γ σ :=
  match op with
  | .push request =>
    let pushed := p.push place request
    (.inl (ofResult pushed.1), pushed.2)
  | .pushAll requests =>
    let pushed := pushEach place requests 0 none p
    (.inl pushed.1, pushed.2)
  | .send request wantsReply =>
    let submitted := p.submit place request wantsReply
    pollPool (.reply submitted.1) submitted.2
  | .retime seconds =>
    let retimed := p.retime place seconds
    (.inl (ofResult retimed.1), retimed.2)
  | .edit change =>
    let edited := change (p.tableAt place)
    (.inl (.edited edited.1), p.setTable place edited.2)
  | .info => (.inl (workerAnswer p place), p)

def beginPool (now : Moment) (op : PoolOp α β γ σ ε) (p : Pool α β γ σ) :
    Answered β γ ε × Pool α β γ σ :=
  match op with
  | .create count tick =>
    let grown := p.grow count tick
    (.inl (answer .created grown.1), grown.2)
  | .target object affinity =>
    let found := p.target object affinity
    (.inl (answer (fun place => .lane (idAt found.2 place)) found.1), found.2)
  | .targets objects affinity =>
    let found := targetEach affinity objects p
    (.inl (.lanes found.1), found.2)
  | .worker lane => (.inl (answer (workerAnswer p) (p.place? lane)), p)
  | .retime lane seconds =>
    match p.place? lane with
    | .error cause => (.inl (.failed cause), p)
    | .ok place =>
      let retimed := p.retime place seconds
      (.inl (ofResult retimed.1), retimed.2)
  | .sendTo lane request wantsReply =>
    let submitted := p.sendTo lane request wantsReply
    pollPool (.reply submitted.1) submitted.2
  | .sendEach request objects wantsReply =>
    let submitted := p.sendEach request objects wantsReply
    match submitted.1 with
    | .error cause => (.inl (.failed cause), submitted.2)
    | .ok receipts => pollPool (.replies receipts) submitted.2
  | .cast request =>
    let counted := p.cast request
    (.inl (answer .count counted.1), counted.2)
  | .getObject object =>
    let found := p.getObject object
    (.inl (answer .object found.1), found.2)
  | .setObject object value =>
    let set := p.setObject object value
    (.inl (ofResult set.1), set.2)
  | .removeObject object =>
    let removed := p.removeObject object
    (.inl (answer .removed removed.1), removed.2)
  | .objectsOf lane => (.inl (answer .objects (p.objectsOf lane)), p)
  | .quit =>
    let quitting := p.beginQuit
    (if Pool.stopsFinished quitting.1 then .inl .unit else .inr (.quit quitting.1), quitting.2)
  | .edit change =>
    let edited := change now p
    (.inl (.edited edited.1), edited.2)
  | .state => (.inl (.state (p.roster.entries.filterMap (fun entry => infoAt p entry.2))), p)
  | .hold _ _ | .held _ _ => (.inl .notHeld, p)

def begin_ (now : Moment) (op : PoolOp α β γ σ ε) (s : PoolState α β γ σ) :
    Answered β γ ε × PoolState α β γ σ :=
  match op with
  | .hold lane name =>
    match s.pool.place? lane with
    | .error cause => (.inl (.failed cause), s)
    | .ok place => (.inl .unit, { s with held := (name, place) :: s.held })
  | .held name heldOp =>
    match s.held.lookup name with
    | none => (.inl .notHeld, s)
    | some place =>
      let operated := operateHeld place heldOp s.pool
      (operated.1, { s with pool := operated.2 })
  | _ =>
    let begun := beginPool now op s.pool
    (begun.1, { s with pool := begun.2 })

def poll (_ : Moment) (call : PoolWait) (s : PoolState α β γ σ) :
    Answered β γ ε × PoolState α β γ σ :=
  let polled := pollPool call s.pool
  (polled.1, { s with pool := polled.2 })

def signals (event : PoolEvent α β) : List (Signal LaneTask) :=
  match event with
  | .created place _ tick =>
    .wake (.consumer place) :: (if tick.isSome then [.wake (.ticker place)] else [])
  | .mailbox place _ e =>
    (if e.rousesConsumer then [.wake (.consumer place)] else []) ++
      (if e.rousesCaller then [.caller] else [])
  | .ticker place _ e =>
    match e with
    | .cancelled => [.wake (.ticker place)]
    | .resting wakeAt => [.sleep (.ticker place) wakeAt]
    | _ => if e.rousesCaller then [.caller] else []
  | _ => []

/-- The pool with the tasks of its lanes. What the handler remembers may hold lines for the log. -/
def system (h : Handler α β γ σ) (takeLines : σ → List LogLine × σ) :
    System (PoolState α β γ σ) LaneTask (PoolOp α β γ σ ε) PoolWait (PoolAnswer β γ ε) where
  due now task s :=
    match task with
    | .consumer place => s.pool.consumerDue place
    | .ticker place => s.pool.tickerDue now place
  step now task s :=
    match task with
    | .consumer place => { s with pool := s.pool.consume h now place }
    | .ticker place => { s with pool := s.pool.tick now place }
  rationed task s :=
    match task with
    | .consumer place => s.pool.lanes[place]?.any (·.mailbox.attended)
    | .ticker _ => false
  cost task s :=
    match task with
    | .consumer place => (s.pool.lanes[place]?.map (·.mailbox.looks)).getD 0
    | .ticker _ => 0
  begin_ := begin_
  poll := poll
  collect s :=
    let events := s.pool.journal.reverse
    let told := takeLines s.pool.memory
    ((events.flatMap signals, events.flatMap (·.lines) ++ told.1),
      { s with pool := { s.pool with journal := [], memory := told.2 } })
  abort s := { s with pool := s.pool.abort }
  ofBool := .flag

/-- A pool without lanes in its world. -/
def world (config : PoolConfig) (seed : UInt64) (memory : σ) (hosted : Bool) :
    World (PoolState α β γ σ) LaneTask PoolWait (PoolAnswer β γ ε) :=
  .start ⟨.new config (.seeded seed) memory, []⟩ [] hosted

end PoolState
end Lanes.Simulation
