import Lanes.Duration
import Lanes.Table

/-!
# Audit records

A record says how a session left its lane: closed by a request, or expired for want of any.
-/
namespace Lanes

/-- A session leaving its lane. -/
inductive AuditRecord where
  | closed (lane : LaneId) (session : ObjectId) (region : String) (events : Nat)
  | expired (lane : LaneId) (session : ObjectId) (region : String) (idle : Duration)
  deriving DecidableEq, Repr

namespace AuditRecord

/-- The line that a record makes in an audit. -/
def text : AuditRecord → String
  | closed lane session region events =>
    s!"session {session} ({region}) closed on lane {lane} after {events} events"
  | expired lane session region idle =>
    s!"session {session} ({region}) expired on lane {lane} after " ++ idle.text ++ " idle"

end AuditRecord
end Lanes
