/-!
# Errors of lanes, queues, tickers, backlogs and rings

Each constructor is one cause of refusal or failure; `Error.message` is the only place that words
it. Ids stand in the errors as plain integers.
-/
namespace Lanes

/-- Why an operation was refused, or how a callback went wrong. -/
inductive Error where
  /-- The argument is empty, zero or otherwise unusable. -/
  | invalidArgument (reason : String)
  /-- The queue already buffers `capacity` requests. -/
  | queueFull (capacity : Nat)
  /-- A request was to be routed over no lanes at all. -/
  | noWorkers
  /-- The lane is not, or no longer, part of the pool. -/
  | noSuchWorker (lane : Int)
  /-- Nothing is bound under this id. -/
  | noSuchObject (object : Int)
  /-- The component was shut down before. -/
  | alreadyClosed
  /-- The ring already holds the node. -/
  | duplicateNode (node : String)
  /-- A request came before the callback that it needs. -/
  | unconfigured (what : String)
  /-- The other end of a reply went away. -/
  | channel (context : String)
  /-- A callback reported a failure of its own. -/
  | callback (reason : String)
  /-- A callback panicked, and the panic was contained. -/
  | internal (reason : String)
  deriving DecidableEq, Repr

namespace Error

/-- The text of an error. -/
def message : Error → String
  | invalidArgument reason => s!"Invalid argument: {reason}"
  | queueFull capacity => s!"Queue is full (capacity {capacity})"
  | noWorkers => "No workers available"
  | noSuchWorker lane => s!"No such worker: {lane}"
  | noSuchObject object => s!"No such object: {object}"
  | alreadyClosed => "Already closed"
  | duplicateNode node => s!"Node already exists: {node}"
  | unconfigured what => s!"Not configured: {what}"
  | channel context => s!"Channel error: {context}"
  | callback reason => s!"Callback failed: {reason}"
  | internal reason => s!"Internal error: {reason}"

/-- Ids of objects start at one. -/
def objectNotPositive (id : Int) : Error :=
  invalidArgument s!"object id must be positive, got {id}"

def emptyNodeName : Error :=
  invalidArgument "node name must not be empty"

/-- The sender waits for a reply that its queue dropped unread. -/
def replyDropped : Error :=
  channel "queue consumer dropped the reply"

end Error
end Lanes
