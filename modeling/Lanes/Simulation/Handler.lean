import Lanes.Pool.Tasks
import Lanes.Simulation.Objects
import Lanes.Simulation.Script

/-!
# Scripted handlers

The handler of a simulated pool: requests are scripts that read and change the table of their lane
or push requests to another lane, and ticks go through a script of their own.
-/
namespace Lanes.Simulation

/-- A request and what the handler does with it. -/
inductive LaneScript (ι : Type) where
  | ending (label : ι) (ending : Ending)
  /-- Replies the id of the lane. -/
  | lane (label : ι)
  /-- Replies the number of bound objects. -/
  | count (label : ι)
  /-- Puts a number behind an object and replies the new length, or panics after that. -/
  | append (label : ι) (id : ObjectId) (value : Int64) (panics : Bool)
  | bind (label : ι) (id : ObjectId) (value : Numbers)
  /-- Replies the length of the object that was bound, or -1. -/
  | unbind (label : ι) (id : ObjectId)
  /-- Replies the sum of an object's numbers. -/
  | lookup (label : ι) (id : ObjectId)
  /-- Removes all objects and replies how many there were. -/
  | wipe (label : ι)
  /-- Pushes a request to a lane. -/
  | forward (label : ι) (lane : LaneId) (request : LaneScript ι)

def LaneScript.label {ι : Type} : LaneScript ι → ι
  | ending label _ | lane label | count label | append label _ _ _ | bind label _ _
  | unbind label _ | lookup label _ | wipe label | forward label _ _ => label

/-- What a tick does. -/
inductive LaneTickAction where
  | ending (ending : Ending)
  | wipe

/-- What the handler puts on record for a lane. -/
inductive LaneEntry (ι : Type) where
  | request (label : ι)
  | tick (moment : Moment) (objects : Nat)
  | quit (moment : Moment)

/-- The ticks of each lane id so far, and the record with the latest entry first. -/
structure LaneMemory (ι : Type) where
  ticks : OrderedMap LaneId Nat
  entries : List (LaneId × LaneEntry ι)

namespace LaneMemory
variable {ι : Type}

def empty : LaneMemory ι := ⟨.empty, []⟩

def record (memory : LaneMemory ι) (lane : LaneId) (entry : LaneEntry ι) : LaneMemory ι :=
  { memory with entries := (lane, entry) :: memory.entries }

/-- The record by lane, the oldest entry first. -/
def byLane (memory : LaneMemory ι) : OrderedMap LaneId (List (LaneEntry ι)) :=
  memory.entries.foldl
    (fun m e => m.insert e.1 (e.2 :: (m.get? e.1).getD [])) .empty

end LaneMemory

/-- What a request that stays on its lane replies and makes of the table. -/
def LaneScript.effect {ι : Type} (lane : LaneId) (table : Table Numbers) :
    LaneScript ι → Outcome Int64 × Table Numbers
  | .ending _ e => (e.outcome.map Int64.ofInt, table)
  | .lane _ => (.returned (.ofInt lane), table)
  | .count _ => (.returned (.ofNat table.size), table)
  | .append _ id value panics =>
    let appended := appendTo id value table
    (if panics then
      .panicked (.text ("appended " ++ toString value.toInt ++ " to " ++ toString id))
    else .returned (.ofNat appended.1), appended.2)
  | .bind _ id value =>
    match Table.bind table id value with
    | .ok changed => (.returned 0, changed)
    | .error cause => (.failed cause, table)
  | .unbind _ id =>
    match Table.unbind table id with
    | .ok (some object, rest) => (.returned (.ofNat object.length), rest)
    | .ok (none, rest) => (.returned (-1), rest)
    | .error cause => (.failed cause, table)
  | .lookup _ id =>
    match Table.lookup table id with
    | .ok object => (.returned (object.foldl (· + ·) 0), table)
    | .error cause => (.failed cause, table)
  | .wipe _ => (.returned (.ofNat table.size), .empty)
  | .forward _ _ _ => (.returned 1, table)

/-- The handler that follows scripts. -/
def scriptedHandler {ι : Type} (ticks : List LaneTickAction) (panicsOnQuit : Bool) :
    Handler (LaneScript ι) Int64 Numbers (LaneMemory ι) where
  process lane _ script table memory :=
    let noted := memory.record lane (.request script.label)
    match script with
    | .forward _ target request =>
      .ask ⟨target, request⟩ (fun answer =>
        .done ((Outcome.ofExcept answer).map (fun _ => 1), table, noted))
    | local_ =>
      let effect := local_.effect lane table
      .done (effect.1, effect.2, noted)
  onTick lane now table memory :=
    let call := (memory.ticks.get? lane).getD 0
    let noted := { memory with ticks := memory.ticks.insert lane (call + 1) }.record lane
      (.tick now table.size)
    match ticks[call % ticks.length]? with
    | none => (.returned (), table, noted)
    | some .wipe => (.returned (), .empty, noted)
    | some (.ending e) => (e.conclusion, table, noted)
  onQuit lane now memory :=
    (if panicsOnQuit then .panicked (.text s!"lane {lane} quit panic") else .returned (),
      memory.record lane (.quit now))

end Lanes.Simulation
