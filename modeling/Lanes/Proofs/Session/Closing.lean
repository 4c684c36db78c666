import Lanes.Proofs.Session.Ledger

/-!
# Closing sessions

The calls for a lane change each of its sessions as if there were no others. A close takes a session
off the lane exactly if its id is positive, for it unbinds the session by the table's own operation;
a touch opens a session whatever its id. So a session whose id is not positive stays on its lane,
whatever is touched and closed there, until maintenance expires it.
-/
namespace Lanes
namespace SessionRules
variable {rules : SessionRules} {now : Moment} {lane : LaneId} {id : ObjectId}
  {sessions : Table Session} {book : SessionBook}

/-! ### One session -/

/-- What a call for a message makes of the session for an id. -/
def sessionAfter (rules : SessionRules) (now : Moment) (id : ObjectId) (session : Option Session) :
    LaneMessage (ObjectId × SessionEvent) → Option Session
  | .request (other, .touch) =>
    if other = id then
      some ⟨(session.map (·.region)).getD (rules.regionOf id),
        (session.map (·.events)).getD 0 + 1, now⟩
    else session
  | .request (other, .close) => if other = id ∧ 0 < id then none else session
  | .tick => session.filter (fun s => !rules.isIdle now s)

theorem get?_touch (other : ObjectId) :
    (rules.touch now other sessions book).2.1.get? id =
      rules.sessionAfter now id (sessions.get? id) (.request (other, .touch)) := by
  rw [sessionAfter, touch]
  by_cases same : other = id
  · subst same
    cases bound : sessions.get? other <;> simp [OrderedMap.get?_insert]
  · cases bound : sessions.get? other <;> simp [OrderedMap.get?_insert, same]

theorem get?_close (now : Moment) (other : ObjectId) :
    (close lane other sessions book).2.1.get? id =
      rules.sessionAfter now id (sessions.get? id) (.request (other, .close)) := by
  rw [sessionAfter]
  by_cases absent : other ≤ 0 ∨ sessions.get? other = none
  · have kept : (close lane other sessions book).2.1 = sessions := by
      rw [close_fails sessions book lane absent]
    rw [kept]
    by_cases taken : other = id ∧ 0 < id
    · obtain ⟨rfl, positive⟩ := taken
      rw [if_pos ⟨rfl, positive⟩]
      exact absent.resolve_left (Int.not_le.mpr positive)
    · rw [if_neg taken]
  · obtain ⟨high, there⟩ := not_or.mp absent
    obtain ⟨session, bound⟩ := Option.ne_none_iff_exists'.mp there
    rw [close_eq (Int.not_le.mp high) bound, OrderedMap.get?_erase]
    by_cases same : other = id
    · subst same
      simp [Int.not_le.mp high]
    · simp [same]

/-- The calls for a lane change each session by itself. -/
theorem get?_handled (message : LaneMessage (ObjectId × SessionEvent)) :
    (rules.handled now lane message sessions book).2.1.get? id =
      rules.sessionAfter now id (sessions.get? id) message := by
  rcases message with ⟨other, event⟩ | _
  · cases event with
    | touch => exact get?_touch other
    | close => exact get?_close now other
  · exact OrderedMap.get?_filter ..

/-- Without maintenance a session stays whose id is not positive. -/
theorem isSome_sessionAfter (low : id ≤ 0) {session : Option Session} (there : session.isSome)
    {message : LaneMessage (ObjectId × SessionEvent)} (untimed : message ≠ .tick) :
    (rules.sessionAfter now id session message).isSome := by
  rcases message with ⟨other, event⟩ | _
  · cases event with
    | touch =>
      rw [sessionAfter]
      split
      · rfl
      · exact there
    | close =>
      have kept : ¬ (other = id ∧ 0 < id) := fun taken => Int.not_le.mpr taken.2 low
      rwa [sessionAfter, if_neg kept]
  · exact absurd rfl untimed

/-! ### Calls for a lane -/

/-- A call for a message. Others may have changed the book since the call before. -/
structure LaneCall where
  now : Moment
  message : LaneMessage (ObjectId × SessionEvent)
  book : SessionBook

/-- The table of a lane after some calls. -/
def tableAfter (rules : SessionRules) (lane : LaneId) (calls : List LaneCall)
    (first : Table Session) : Table Session :=
  calls.foldl (fun sessions call =>
    (rules.handled call.now lane call.message sessions call.book).2.1) first

theorem get?_tableAfter (calls : List LaneCall) (first : Table Session) :
    (rules.tableAfter lane calls first).get? id =
      calls.foldl (fun session call => rules.sessionAfter call.now id session call.message)
        (first.get? id) := by
  induction calls generalizing first with
  | nil => rfl
  | cons call calls ih => exact (ih _).trans (by rw [get?_handled]; rfl)

theorem isSome_tableAfter (low : id ≤ 0) {first : Table Session} {calls : List LaneCall}
    (there : (first.get? id).isSome) (untimed : ∀ call ∈ calls, call.message ≠ .tick) :
    ((rules.tableAfter lane calls first).get? id).isSome := by
  rw [get?_tableAfter]
  generalize first.get? id = session at there
  induction calls generalizing session with
  | nil => exact there
  | cons call calls ih =>
    obtain ⟨here, later⟩ := List.forall_mem_cons.mp untimed
    exact ih later _ (isSome_sessionAfter low there here)

/-- A close that takes a session off a lane: it answers with the events of the session, removes this
session and no other, counts it and pushes its record. -/
structure Closes (lane : LaneId) (id : ObjectId) (session : Session) (sessions : Table Session)
    (book : SessionBook) (call : Outcome Nat × Table Session × SessionBook) : Prop where
  returned : call.1 = .returned session.events
  table : ∀ other, call.2.1.get? other = if other = id then none else sessions.get? other
  book : call.2.2 =
    { book.recorded [.closed lane id session.region session.events] with
      stats := { book.stats with closed := book.stats.closed + 1 } }

theorem close_closes (positive : 0 < id) {session : Session}
    (bound : sessions.get? id = some session) :
    Closes lane id session sessions book (close lane id sessions book) := by
  rw [close_eq positive bound, SessionBook.record_eq]
  refine ⟨rfl, fun other => ?_, rfl⟩
  simp only [OrderedMap.get?_erase, eq_comm]

/-- After any calls for a lane a close takes the session for an id off the lane if the id is
positive. If it is not, the close fails and changes nothing, and so does every other one until the
lane is maintained. A close of a session that is not there fails and changes nothing. -/
theorem sessions_with_positive_ids_close (rules : SessionRules) (lane : LaneId)
    (first : Table Session) (calls : List LaneCall) (id : ObjectId) (book : SessionBook) :
    let sessions := rules.tableAfter lane calls first
    (∀ session, sessions.get? id = some session →
      (0 < id → Closes lane id session sessions book (close lane id sessions book)) ∧
      (id ≤ 0 →
        close lane id sessions book = (.failed (.objectNotPositive id), sessions, book) ∧
        ∀ more, (∀ call ∈ more, call.message ≠ .tick) →
          ((rules.tableAfter lane (calls ++ more) first).get? id).isSome)) ∧
    (sessions.get? id = none →
      ∃ cause, close lane id sessions book = (.failed cause, sessions, book)) := by
  intro sessions
  constructor
  · intro session bound
    refine ⟨fun positive => close_closes positive bound, fun low => ⟨?_, fun more untimed => ?_⟩⟩
    · rw [close_fails sessions book lane (.inl low), if_pos low]
    · have there : (sessions.get? id).isSome := by rw [bound]; rfl
      rw [tableAfter, List.foldl_append]
      exact isSome_tableAfter low there untimed
  · exact fun missing => ⟨_, close_fails sessions book lane (.inr missing)⟩

/-- Sessions 7 and 0 are touched. -/
def twoTouches : List LaneCall :=
  [⟨0, .request (7, .touch), .empty⟩, ⟨5, .request (0, .touch), .empty⟩]

theorem seven_closes_and_zero_stays :
    let sessions := northern.tableAfter 1 twoTouches .empty
    let closed := close 1 7 sessions .empty
    sessions.get? 7 = some ⟨"north", 1, 0⟩ ∧
    closed.1 = .returned 1 ∧ closed.2.1.get? 7 = none ∧
    closed.2.2.stats = ⟨0, 1, 0, 0⟩ ∧ closed.2.2.audit.items = [.closed 1 7 "north" 1] ∧
    ((northern.tableAfter 1 (twoTouches ++ [⟨6, .request (0, .close), .empty⟩])
      .empty).get? 0).isSome := by
  intro sessions closed
  have seven : sessions.get? 7 = some ⟨"north", 1, 0⟩ := by decide +kernel
  have zero : sessions.get? 0 = some ⟨"north", 1, 5⟩ := by decide +kernel
  have closes := ((sessions_with_positive_ids_close northern 1 .empty twoTouches 7 .empty).1
    _ seven).1 (by decide)
  have stays := (((sessions_with_positive_ids_close northern 1 .empty twoTouches 0 .empty).1
    _ zero).2 (by decide)).2 [⟨6, .request (0, .close), .empty⟩] (by simp)
  refine ⟨seven, closes.returned, closes.table 7, ?_, ?_, stays⟩
  · rw [closes.book]
    rfl
  · rw [closes.book]
    rfl

/-- A session is opened for the id zero, and no close takes it off. -/
theorem zero_opens_and_does_not_close :
    let sessions := northern.tableAfter 1 [⟨0, .request (0, .touch), .empty⟩] .empty
    sessions.get? 0 = some ⟨"north", 1, 0⟩ ∧
    close 1 0 sessions .empty = (.failed (.objectNotPositive 0), sessions, .empty) := by
  intro sessions
  exact ⟨by decide +kernel, close_fails sessions .empty 1 (.inl (by decide))⟩

end SessionRules
end Lanes
