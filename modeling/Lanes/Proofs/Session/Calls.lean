import Lanes.Proofs.Backlog.Calls
import Lanes.Proofs.Pool.Tables
import Lanes.Session.Handler

/-!
# Calls of the session handler

A touch, a close and the maintenance of a lane change the lane's table, the counts and the audit
backlog in steps of their own. Each of the three keeps the balance of the counts and the table, and
leaves a record for each session that it takes off the table, which an open audit backlog keeps and
a closed one refuses with a warning.
-/
namespace Lanes

/-! ### Records -/

namespace Backlog
variable {α σ : Type} {b : Backlog α σ}

/-- The backlog after some items were pushed in order: an open one has them at its tail and shows
the pushes, a closed one is as before. -/
def extended (b : Backlog α σ) (items : List α) : Backlog α σ :=
  if b.closed then b
  else { b with items := b.items ++ items, journal := (items.map .pushed).reverse ++ b.journal }

@[simp] theorem extended_nil (b : Backlog α σ) : b.extended [] = b := by simp [extended]

theorem entrances_extended (b : Backlog α σ) (items : List α) :
    Books.entrances (b.extended items).history =
      Books.entrances b.history ++ if b.closed then [] else items.map (·, true) := by
  cases isOpen : b.closed with
  | true => simp [extended, isOpen]
  | false =>
    have pushes : Books.entrances (items.map BacklogEvent.pushed) = items.map (·, true) := by
      simp [Books.entrances, BacklogEvent.entrance?, Function.comp_def]
    simp [extended, isOpen, history, pushes]

end Backlog

namespace SessionBook

/-- The warning that a record is lost because the audit backlog is closed. -/
def lossLine : LogLine :=
  ⟨.warn, .session, "Audit record dropped: " ++ Error.message .alreadyClosed⟩

/-- The book after some records were pushed onto the audit backlog in order. -/
def recorded (book : SessionBook) (records : List AuditRecord) : SessionBook :=
  { book with
    audit := book.audit.extended records
    lines := if book.audit.closed then records.map (fun _ => lossLine) ++ book.lines
      else book.lines }

@[simp] theorem recorded_nil (book : SessionBook) : book.recorded [] = book := by
  simp [recorded]

theorem recorded_cons (book : SessionBook) (entry : AuditRecord) (records : List AuditRecord) :
    (book.record entry).recorded records = book.recorded (entry :: records) := by
  cases isOpen : book.audit.closed with
  | true =>
    have first : book.record entry = { book with lines := lossLine :: book.lines } := by
      simp [record, Backlog.push_closed isOpen, log, lossLine]
    have same : records.map (fun _ => lossLine) ++ [lossLine] =
        lossLine :: records.map (fun _ => lossLine) := by
      rw [List.map_const', ← List.replicate_succ', List.replicate_succ]
    have lines : records.map (fun _ => lossLine) ++ lossLine :: book.lines =
        lossLine :: records.map (fun _ => lossLine) ++ book.lines := by
      rw [← same, List.append_assoc, List.singleton_append]
    simpa [first, recorded, Backlog.extended, isOpen] using lines
  | false =>
    simp [record, Backlog.push_open isOpen, recorded, Backlog.extended, isOpen, Backlog.note]

theorem record_eq (book : SessionBook) (entry : AuditRecord) :
    book.record entry = book.recorded [entry] := by
  simpa using book.recorded_cons entry []

theorem foldl_record (records : List AuditRecord) (book : SessionBook) :
    records.foldl record book = book.recorded records := by
  induction records generalizing book with
  | nil => simp
  | cons entry records ih => rw [List.foldl_cons, ih, recorded_cons]

end SessionBook

namespace SessionRules
variable {rules : SessionRules} {now : Moment} {lane : LaneId} {id : ObjectId}
  {sessions : Table Session} {book : SessionBook}

/-- The record for a session that a call for a message takes off a lane: maintenance expires
sessions and a request closes them. -/
def farewell (rules : SessionRules) (now : Moment) (lane : LaneId) :
    LaneMessage (ObjectId × SessionEvent) → ObjectId × Session → AuditRecord
  | .tick, (id, session) => .expired lane id (rules.regionOf id) ⟨now - session.lastSeen⟩
  | .request _, (id, session) => .closed lane id (rules.regionOf id) session.events

/-- Every session is in the region that owns its id. -/
def Placed (rules : SessionRules) (sessions : Table Session) : Prop :=
  ∀ id session, sessions.get? id = some session → session.region = rules.regionOf id

/-- What a call for a message makes of the table of a lane and of the book. -/
structure Balances (rules : SessionRules) (now : Moment) (lane : LaneId)
    (message : LaneMessage (ObjectId × SessionEvent)) (sessions : Table Session)
    (book : SessionBook) (sessions' : Table Session) (book' : SessionBook) : Prop where
  counts : book'.stats.opened + book.stats.closed + book.stats.expired + sessions.size =
    book.stats.opened + book'.stats.closed + book'.stats.expired + sessions'.size
  audit : book'.audit =
    (book.recorded ((sessions.lost sessions').map (rules.farewell now lane message))).audit
  lines :
    (book.recorded ((sessions.lost sessions').map (rules.farewell now lane message))).lines <:+
      book'.lines
  placed : rules.Placed sessions'
  /-- Only a touch opens a session or changes one. -/
  stays : ∀ id, message ≠ .request (id, .touch) →
    sessions'.get? id = sessions.get? id ∨ sessions'.get? id = none

/-- The events of a session, none if there is no session. -/
def eventsOf (sessions : Table Session) (id : ObjectId) : Nat :=
  ((sessions.get? id).map (·.events)).getD 0

theorem touch_eq (placed : rules.Placed sessions) (now : Moment) (id : ObjectId)
    (book : SessionBook) :
    rules.touch now id sessions book =
      (.returned (eventsOf sessions id + 1),
        sessions.insert id ⟨rules.regionOf id, eventsOf sessions id + 1, now⟩,
        { book with stats := { book.stats with
          opened := book.stats.opened + if (sessions.get? id).isSome then 0 else 1 } }) := by
  unfold touch eventsOf
  cases bound : sessions.get? id with
  | none => rfl
  | some session =>
    simp only [← placed id session bound]
    rfl

theorem touch_balances (placed : rules.Placed sessions) (now : Moment) (lane : LaneId)
    (id : ObjectId) (book : SessionBook) :
    rules.Balances now lane (.request (id, .touch)) sessions book
      (rules.touch now id sessions book).2.1 (rules.touch now id sessions book).2.2 := by
  rw [touch_eq placed]
  constructor
  case counts =>
    simp only [OrderedMap.size_insert]
    omega
  case audit => simp [Table.lost_insert]
  case lines => simp [Table.lost_insert]
  case placed =>
    intro other session bound
    rw [OrderedMap.get?_insert] at bound
    split at bound
    · next same =>
      obtain rfl := Option.some.inj bound
      rw [same]
    · exact placed other session bound
  case stays =>
    intro other apart
    left
    rw [OrderedMap.get?_insert, if_neg]
    rintro rfl
    exact apart rfl

theorem Placed.filter (placed : rules.Placed sessions) (keep : ObjectId → Session → Bool) :
    rules.Placed (sessions.filter keep) := by
  intro id session bound
  rw [OrderedMap.get?_filter, Option.filter_eq_some_iff] at bound
  exact placed id session bound.1

theorem filter_stays (sessions : Table Session) (keep : ObjectId → Session → Bool)
    (id : ObjectId) : (sessions.filter keep).get? id = sessions.get? id ∨
      (sessions.filter keep).get? id = none := by
  rw [OrderedMap.get?_filter]
  cases bound : sessions.get? id with
  | none => exact .inl rfl
  | some session => cases kept : keep id session <;> simp [Option.filter, kept]

theorem close_fails (sessions : Table Session) (book : SessionBook) (lane : LaneId)
    (absent : id ≤ 0 ∨ sessions.get? id = none) :
    close lane id sessions book =
      (.failed (if id ≤ 0 then .objectNotPositive id else .noSuchObject id), sessions, book) := by
  unfold close Table.unbind
  by_cases low : id ≤ 0
  · simp [low]
  · have missing : sessions.get? id = none := absent.resolve_left low
    simp [low, missing, Table.erase_of_unbound missing]

theorem close_eq (positive : 0 < id) {session : Session} (bound : sessions.get? id = some session)
    (lane : LaneId) (book : SessionBook) :
    close lane id sessions book =
      (.returned session.events, sessions.erase id,
        ({ book with stats := { book.stats with closed := book.stats.closed + 1 } }).record
          (.closed lane id session.region session.events)) := by
  have high : ¬ id ≤ 0 := Int.not_le.mpr positive
  simp [close, Table.unbind, high, bound]

theorem close_balances (placed : rules.Placed sessions) (now : Moment) (lane : LaneId)
    (id : ObjectId) (book : SessionBook) :
    rules.Balances now lane (.request (id, .close)) sessions book
      (close lane id sessions book).2.1 (close lane id sessions book).2.2 := by
  by_cases absent : id ≤ 0 ∨ sessions.get? id = none
  · rw [close_fails sessions book lane absent]
    exact ⟨rfl, by simp [Table.lost_self], by simp [Table.lost_self], placed, fun _ _ => .inl rfl⟩
  · obtain ⟨high, there⟩ := not_or.mp absent
    obtain ⟨session, bound⟩ := Option.ne_none_iff_exists'.mp there
    have lost := Table.lost_erase bound
    have size : (sessions.erase id).size + 1 = sessions.size := by
      have parts : (sessions.erase id).size + (sessions.lost (sessions.erase id)).length = _ :=
        sessions.size_filter_add_lost _
      rwa [lost] at parts
    rw [close_eq (Int.not_le.mp high) bound, SessionBook.record_eq, placed id session bound]
    constructor
    case counts =>
      simp only [SessionBook.recorded]
      omega
    case audit =>
      rw [lost]
      rfl
    case lines =>
      rw [lost]
      exact List.suffix_rfl
    case placed => exact placed.filter _
    case stays => exact fun other _ => filter_stays sessions _ other

/-- The record of a session that expires. -/
def expiry (lane : LaneId) (now : Moment) (entry : ObjectId × Session) : AuditRecord :=
  .expired lane entry.1 entry.2.region ⟨now - entry.2.lastSeen⟩

/-- Maintenance takes the idle sessions off the lane, records them one after the other and counts
them. -/
theorem expire_recorded (rules : SessionRules) (now : Moment) (lane : LaneId)
    (sessions : Table Session) (book : SessionBook) :
    let rest := sessions.filter (fun _ session => !rules.isIdle now session)
    let idle := (sessions.filter (fun _ session => rules.isIdle now session)).entries
    let left := ({ book with stats := { book.stats with ticks := book.stats.ticks + 1 } }).recorded
      (idle.map (expiry lane now))
    rules.expire lane now sessions book =
      (.returned (), rest,
        ({ left with stats := { left.stats with
          expired := left.stats.expired + idle.length } }).log .debug
            s!"Lane {lane}: {rest.size} open sessions, {idle.length} expired") := by
  intro rest idle left
  have records : left = idle.foldl (fun b entry => b.record (expiry lane now entry))
      { book with stats := { book.stats with ticks := book.stats.ticks + 1 } } := by
    rw [← List.foldl_map, SessionBook.foldl_record]
  rw [records]
  rfl

theorem expire_eq (placed : rules.Placed sessions) (now : Moment) (lane : LaneId)
    (book : SessionBook) :
    let rest := sessions.filter (fun _ session => !rules.isIdle now session)
    let lost := sessions.lost rest
    let left := ({ book with stats := { book.stats with ticks := book.stats.ticks + 1 } }).recorded
      (lost.map (rules.farewell now lane .tick))
    rules.expire lane now sessions book =
      (.returned (), rest,
        ({ left with stats := { left.stats with
          expired := left.stats.expired + lost.length } }).log .debug
            s!"Lane {lane}: {rest.size} open sessions, {lost.length} expired") := by
  intro rest lost left
  have idle : (sessions.filter (fun _ session => rules.isIdle now session)).entries = lost := by
    simp [lost, rest, Table.lost_filter, OrderedMap.filter]
  have records : lost.map (rules.farewell now lane .tick) = lost.map (expiry lane now) := by
    refine List.map_congr_left fun entry mem => ?_
    have there : entry ∈ sessions.entries := (List.mem_filter.mp mem).1
    rw [expiry, placed entry.1 entry.2 (OrderedMap.get?_eq_some_iff.mpr there)]
    rfl
  rw [expire_recorded, idle, ← records]

theorem expire_balances (placed : rules.Placed sessions) (now : Moment) (lane : LaneId)
    (book : SessionBook) :
    rules.Balances now lane .tick sessions book
      (rules.expire lane now sessions book).2.1 (rules.expire lane now sessions book).2.2 := by
  have size := sessions.size_filter_add_lost (fun _ session => !rules.isIdle now session)
  rw [expire_eq placed]
  constructor
  case counts =>
    simp only [SessionBook.recorded, SessionBook.log]
    omega
  case audit => rfl
  case lines => exact List.suffix_cons ..
  case placed => exact placed.filter _
  case stays => exact fun id _ => filter_stays sessions _ id

/-! ### All calls alike -/

/-- What the handler makes of a message. -/
def handled (rules : SessionRules) (now : Moment) (lane : LaneId)
    (message : LaneMessage (ObjectId × SessionEvent)) (sessions : Table Session)
    (book : SessionBook) : Outcome (Option Nat) × Table Session × SessionBook :=
  match message with
  | .request (id, .touch) =>
    ((rules.touch now id sessions book).1.map some, (rules.touch now id sessions book).2)
  | .request (id, .close) =>
    ((close lane id sessions book).1.map some, (close lane id sessions book).2)
  | .tick =>
    ((rules.expire lane now sessions book).1.map (fun _ => none),
      (rules.expire lane now sessions book).2)

/-- The handler asks for nothing, so that it changes nothing but the table and the book. -/
theorem handle_eq (rules : SessionRules) (now : Moment) (lane : LaneId) (sessions : Table Session)
    (message : LaneMessage (ObjectId × SessionEvent))
    (p : Pool (ObjectId × SessionEvent) Nat Session SessionBook) :
    p.handle rules.handler now lane sessions message =
      (rules.handled now lane message sessions p.memory, p) := by
  rcases message with ⟨id, event⟩ | _
  · cases event <;> rfl
  · rfl

theorem handled_balances (placed : rules.Placed sessions) (now : Moment) (lane : LaneId)
    (message : LaneMessage (ObjectId × SessionEvent)) (book : SessionBook) :
    rules.Balances now lane message sessions book
      (rules.handled now lane message sessions book).2.1
      (rules.handled now lane message sessions book).2.2 := by
  rcases message with ⟨id, event⟩ | _
  · cases event with
    | touch => exact touch_balances placed now lane id book
    | close => exact close_balances placed now lane id book
  · exact expire_balances placed now lane book

end SessionRules
end Lanes
