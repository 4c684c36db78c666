import Lanes.Backlog
import Lanes.Pool.Tasks
import Lanes.Ring.Weighted
import Lanes.Session.Record

/-!
# Session bookkeeping

Lanes keep sessions as their bound objects. A touch opens a session at first, in the region that
owns its id on a ring, and refreshes it from then on; a close takes it off the lane. Maintenance
expires the sessions that were not touched for the idle timeout. Sessions that leave are counted
and pushed onto the audit backlog.
-/
namespace Lanes

/-- What is requested for a session. -/
inductive SessionEvent where
  | touch
  | close
  deriving DecidableEq, Repr

/-- A session, with the number of its events so far and the moment of the last. -/
structure Session where
  region : String
  events : Nat
  lastSeen : Moment
  deriving DecidableEq, Repr

/-- How many sessions came and went, and how often lanes were maintained. These counts, like that
of a session's events, are natural numbers and not words of 64 bits: each of them starts at zero
and grows by one for one touch, close, expiry or tick, so that a run that reaches the end of a word
would take centuries. -/
structure SessionStats where
  opened : Nat
  closed : Nat
  expired : Nat
  ticks : Nat
  deriving DecidableEq, Repr

/-- What the lanes share: the counts, the audit backlog, whose consumer counts the records that it
has read, and lines for the log, the latest first. -/
structure SessionBook where
  stats : SessionStats
  audit : Backlog AuditRecord Nat
  lines : List LogLine

/-- Where sessions belong, and how long they may stay untouched. -/
structure SessionRules where
  regions : WeightedRing
  idleTimeout : Duration

namespace SessionBook

def empty : SessionBook := ⟨⟨0, 0, 0, 0⟩, .new 0, []⟩

def log (book : SessionBook) (level : Level) (text : String) : SessionBook :=
  { book with lines := ⟨level, .session, text⟩ :: book.lines }

/-- Pushes a record onto the audit backlog. A closed one loses it, which is worth a warning. -/
def record (book : SessionBook) (entry : AuditRecord) : SessionBook :=
  let pushed := book.audit.push entry
  match pushed.1 with
  | .ok _ => { book with audit := pushed.2 }
  | .error cause => book.log .warn ("Audit record dropped: " ++ cause.message)

end SessionBook

namespace SessionRules

/-- The region of a session. -/
def regionOf (rules : SessionRules) (session : ObjectId) : String :=
  (rules.regions.owner? (toString session)).getD "unassigned"

/-- Opens a session if need be and counts an event on it, whatever its id. -/
def touch (rules : SessionRules) (now : Moment) (id : ObjectId) (sessions : Table Session)
    (book : SessionBook) : Outcome Nat × Table Session × SessionBook :=
  match sessions.get? id with
  | some session =>
    let events := session.events + 1
    (.returned events, sessions.insert id ⟨session.region, events, now⟩, book)
  | none =>
    (.returned 1, sessions.insert id ⟨rules.regionOf id, 1, now⟩,
      { book with stats := { book.stats with opened := book.stats.opened + 1 } })

/-- Takes a session off the lane and leaves its record. -/
def close (lane : LaneId) (id : ObjectId) (sessions : Table Session) (book : SessionBook) :
    Outcome Nat × Table Session × SessionBook :=
  match sessions.unbind id with
  | .error cause => (.failed cause, sessions, book)
  | .ok (none, rest) => (.failed (.noSuchObject id), rest, book)
  | .ok (some session, rest) =>
    let counted := { book with stats := { book.stats with closed := book.stats.closed + 1 } }
    (.returned session.events, rest,
      counted.record (.closed lane id session.region session.events))

/-- Whether a session was last touched at least the idle timeout ago. -/
def isIdle (rules : SessionRules) (now : Moment) (session : Session) : Bool :=
  rules.idleTimeout.nanos ≤ now - session.lastSeen

/-- Takes the idle sessions off the lane and leaves their records. -/
def expire (rules : SessionRules) (lane : LaneId) (now : Moment) (sessions : Table Session)
    (book : SessionBook) : Outcome Unit × Table Session × SessionBook :=
  let idle := sessions.filter (fun _ session => rules.isIdle now session)
  let rest := sessions.filter (fun _ session => !rules.isIdle now session)
  let begun := { book with stats := { book.stats with ticks := book.stats.ticks + 1 } }
  let recorded := idle.entries.foldl (fun b entry =>
    b.record (.expired lane entry.1 entry.2.region ⟨now - entry.2.lastSeen⟩)) begun
  let counted := { recorded with
    stats := { recorded.stats with expired := recorded.stats.expired + idle.size } }
  (.returned (), rest,
    counted.log .debug s!"Lane {lane}: {rest.size} open sessions, {idle.size} expired")

/-- The handler of a pool that keeps sessions. -/
def handler (rules : SessionRules) : Handler (ObjectId × SessionEvent) Nat Session SessionBook where
  process lane now request sessions book :=
    match request.2 with
    | .touch => .done (rules.touch now request.1 sessions book)
    | .close => .done (close lane request.1 sessions book)
  onTick lane now sessions book := rules.expire lane now sessions book
  onQuit lane _ book := (.returned (), book.log .debug s!"Lane {lane} drained")

end SessionRules
end Lanes
