import Lanes.Table

/-!
# Steps on tables

Tables whose objects are lists of numbers, changed step by step.
-/
namespace Lanes.Simulation

abbrev Numbers := List Int64

/-- A step on a table. -/
inductive TableStep where
  | update (id : ObjectId) (value : Numbers)
  | remove (id : ObjectId)
  | get (id : ObjectId)
  | contains (id : ObjectId)
  /-- Puts a number behind the object with an id, which comes into being if need be. -/
  | append (id : ObjectId) (value : Int64)
  | total
  | snapshot
  | info

/-- What a step answers. -/
inductive TableAnswer where
  | unit
  | flag (value : Bool)
  | failed (cause : Error)
  | object (value : Numbers)
  | removed (value : Option Numbers)
  | count (n : Nat)
  | objects (table : Table Numbers)
  | info (size : Nat) (ids : List ObjectId)

/-- The table with a number put behind an object, and the object's new length. -/
def appendTo (id : ObjectId) (value : Int64) (t : Table Numbers) : Nat × Table Numbers :=
  let object := (t.get? id).getD [] ++ [value]
  (object.length, t.insert id object)

def TableStep.run (step : TableStep) (t : Table Numbers) : TableAnswer × Table Numbers :=
  match step with
  | .update id value =>
    match Table.bind t id value with
    | .ok changed => (.unit, changed)
    | .error cause => (.failed cause, t)
  | .remove id =>
    match Table.unbind t id with
    | .ok removed => (.removed removed.1, removed.2)
    | .error cause => (.failed cause, t)
  | .get id =>
    match Table.lookup t id with
    | .ok object => (.object object, t)
    | .error cause => (.failed cause, t)
  | .contains id => (.flag (t.contains id), t)
  | .append id value =>
    let appended := appendTo id value t
    (.count appended.1, appended.2)
  | .total => (.count (t.entries.flatMap (·.2)).length, t)
  | .snapshot => (.objects t, t)
  | .info => (.info t.size t.keys, t)

/-- Takes steps one after the other. -/
def TableStep.runAll : List TableStep → Table Numbers → List TableAnswer
  | [], _ => []
  | step :: rest, t =>
    let ran := step.run t
    ran.1 :: runAll rest ran.2

end Lanes.Simulation
