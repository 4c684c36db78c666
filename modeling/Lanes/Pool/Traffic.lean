import Lanes.Pool.Basic

/-!
# Traffic of a pool

Requests are submitted to lanes, which accept or refuse them at once. A `Receipt` says what became
of a submission, and `Receipt.outcome?` follows it to the reply. Objects are read and changed
through the lane to which their requests go.
-/
namespace Lanes

/-- What became of a request: refused, accepted with nobody to reply to, or accepted by the lane at
a place under a serial number. -/
inductive Receipt where
  | refused (cause : Error)
  | accepted
  | awaiting (place serial : Nat)

namespace Pool
variable {α β γ σ : Type}

/-! ### Requests -/

/-- Puts a message into the mailbox of the lane at a place. -/
def deliver (p : Pool α β γ σ) (place : Nat) (message : LaneMessage α) (wantsReply : Bool) :
    Except Error Nat × Pool α β γ σ :=
  match p.lanes[place]? with
  | none => (.error (.noSuchWorker place), p)
  | some lane =>
    match lane.mailbox.accept? message wantsReply with
    | .error cause => (.error cause, p)
    | .ok (envelope, mailbox) =>
      (.ok envelope.serial,
        (p.updateLane place (fun l => { l with mailbox })).note
          (.mailbox place lane.id (.accepted envelope)))

/-- Submits a request to the lane at a place. -/
def submit (p : Pool α β γ σ) (place : Nat) (request : α) (wantsReply : Bool) :
    Receipt × Pool α β γ σ :=
  let delivered := p.deliver place (.request request) wantsReply
  match delivered.1 with
  | .error cause => (.refused cause, delivered.2)
  | .ok serial => (if wantsReply then .awaiting place serial else .accepted, delivered.2)

/-- Submits a request to the lane at a place without a reply. -/
def push (p : Pool α β γ σ) (place : Nat) (request : α) : Except Error Unit × Pool α β γ σ :=
  let delivered := p.deliver place (.request request) false
  (delivered.1.map (fun _ => ()), delivered.2)

/-- Submits a request to a live lane. -/
def sendTo (p : Pool α β γ σ) (id : LaneId) (request : α) (wantsReply : Bool) :
    Receipt × Pool α β γ σ :=
  match p.place? id with
  | .error cause => (.refused cause, p)
  | .ok place => p.submit place request wantsReply

/-- Resolves the targets of several objects in order, with affinity. -/
def targets (p : Pool α β γ σ) : List ObjectId → List (ObjectId × Except Error Nat) × Pool α β γ σ
  | [] => ([], p)
  | object :: rest =>
    let first := p.target object true
    let others := first.2.targets rest
    ((object, first.1) :: others.1, others.2)

/-- Submits a request once for each resolved target, in order. -/
def submitAll (request : α) (wantsReply : Bool) :
    List (ObjectId × Except Error Nat) → Pool α β γ σ → List (ObjectId × Receipt) × Pool α β γ σ
  | [], p => ([], p)
  | (object, .error cause) :: rest, p =>
    let others := submitAll request wantsReply rest p
    ((object, .refused cause) :: others.1, others.2)
  | (object, .ok place) :: rest, p =>
    let first := p.submit place request wantsReply
    let others := submitAll request wantsReply rest first.2
    ((object, first.1) :: others.1, others.2)

/-- Submits a request on behalf of each of the objects. All targets are resolved before anything is
submitted. -/
def sendEach (p : Pool α β γ σ) (request : α) (objects : List ObjectId) (wantsReply : Bool) :
    Except Error (List (ObjectId × Receipt)) × Pool α β γ σ :=
  if objects.isEmpty then
    (.error (.invalidArgument "object id list must not be empty"), p)
  else if p.size = 0 then (.error .noWorkers, p)
  else
    let resolved := p.targets objects
    let submitted := submitAll request wantsReply resolved.1 resolved.2
    (.ok submitted.1, submitted.2)

/-- The reply to a request of which there is a receipt, once it is there. -/
def outcome? (p : Pool α β γ σ) : Receipt → Option (Except Error (Option β))
  | .refused cause => some (.error cause)
  | .accepted => some (.ok none)
  | .awaiting place serial => (p.lanes[place]?).bind (·.mailbox.reply? serial)

/-- The replies by object; of several for one object the last stands. None before all are there. -/
def outcomes? (p : Pool α β γ σ) :
    List (ObjectId × Receipt) → Option (OrderedMap ObjectId (Except Error (Option β)))
  | receipts =>
    (receipts.mapM (fun r => (p.outcome? r.2).map (fun reply => (r.1, reply)))).map
      (fun replies => replies.foldl (fun m r => m.insert r.1 r.2) .empty)

/-- Pushes a request to the live lane with an id, and counts it if it was accepted. -/
def castTo (request : α) (counted : Nat × Pool α β γ σ) (entry : LaneId × Nat) :
    Nat × Pool α β γ σ :=
  let pushed := counted.2.push entry.2 request
  match pushed.1 with
  | .ok _ => (counted.1 + 1, pushed.2)
  | .error cause => (counted.1, pushed.2.note (.rejected entry.1 cause))

/-- Pushes a request to every live lane, and counts those that accepted it. -/
def cast (p : Pool α β γ σ) (request : α) : Except Error Nat × Pool α β γ σ :=
  if p.roster.isEmpty then (.error .noWorkers, p)
  else
    let counted := p.roster.entries.foldl (castTo request) (0, p)
    (.ok counted.1, counted.2)

/-! ### Objects -/

/-- The place of the lane that owns an object. -/
def owner (p : Pool α β γ σ) (object : ObjectId) : Except Error Nat × Pool α β γ σ :=
  if object ≤ 0 then (.error (.objectNotPositive object), p) else p.target object true

/-- The table of the lane at a place. -/
def tableAt (p : Pool α β γ σ) (place : Nat) : Table γ :=
  ((p.lanes[place]?).map (·.table)).getD .empty

def setTable (p : Pool α β γ σ) (place : Nat) (table : Table γ) : Pool α β γ σ :=
  p.updateLane place (fun lane => { lane with table })

/-- The object bound to an id on its lane. -/
def getObject (p : Pool α β γ σ) (object : ObjectId) : Except Error γ × Pool α β γ σ :=
  let owned := p.owner object
  (owned.1.bind (fun place => (owned.2.tableAt place).lookup object), owned.2)

/-- Binds an object to its lane. -/
def setObject (p : Pool α β γ σ) (object : ObjectId) (value : γ) :
    Except Error Unit × Pool α β γ σ :=
  let owned := p.owner object
  match owned.1 with
  | .error cause => (.error cause, owned.2)
  | .ok place =>
    match (owned.2.tableAt place).bind object value with
    | .error cause => (.error cause, owned.2)
    | .ok table => (.ok (), owned.2.setTable place table)

/-- Unbinds an object and forgets the choice of its lane. -/
def removeObject (p : Pool α β γ σ) (object : ObjectId) :
    Except Error (Option γ) × Pool α β γ σ :=
  let owned := p.owner object
  match owned.1 with
  | .error cause => (.error cause, owned.2)
  | .ok place =>
    match (owned.2.tableAt place).unbind object with
    | .error cause => (.error cause, owned.2)
    | .ok (removed, table) =>
      let cleared := owned.2.setTable place table
      (.ok removed, { cleared with routes := cleared.routes.erase object })

/-- All objects bound to a live lane. -/
def objectsOf (p : Pool α β γ σ) (id : LaneId) : Except Error (Table γ) :=
  (p.place? id).map p.tableAt

/-- Changes the period of the ticker of the lane at a place. -/
def retime (p : Pool α β γ σ) (place : Nat) (seconds : Binary64) :
    Except Error Unit × Pool α β γ σ :=
  match p.lanes[place]? with
  | none => (.error (.noSuchWorker place), p)
  | some lane =>
    match lane.retime seconds with
    | .error cause => (.error cause, p)
    | .ok retimed => (.ok (), p.updateLane place (fun _ => retimed))

end Pool
end Lanes
