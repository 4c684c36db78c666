import Lanes.Proofs.Pool.Likeness
import Lanes.Proofs.Session.Closing

/-!
# Maintenance of sessions

A tick takes exactly those sessions off its lane that were last touched at least the idle timeout
ago, leaves the others as they are, and records each that goes with the time for which it was idle.
Every touch in between moves the last one on, so a session that was touched less than the timeout
before a tick is there afterwards as it was before; and whoever leaves with a record of its idle
time was idle for the timeout or longer.
-/
namespace Lanes

/-- What is unbound by its id is gone, and everything else is there as before. -/
theorem Table.get?_unbinding {γ : Type} (t : Table γ) (object id : ObjectId) :
    (t.unbinding object).get? id = t.get? id ∨ (t.unbinding object).get? id = none := by
  unfold Table.unbinding Table.unbind
  by_cases low : object ≤ 0
  · simp [low]
  · simp only [if_neg low, OrderedMap.get?_erase]
    split
    · exact .inr rfl
    · exact .inl rfl

theorem Pool.get?_tableAt_removeObject {α β γ σ : Type} (p : Pool α β γ σ) (object : ObjectId)
    (k : Nat) (id : ObjectId) :
    ((p.removeObject object).2.tableAt k).get? id = (p.tableAt k).get? id ∨
      ((p.removeObject object).2.tableAt k).get? id = none := by
  unfold tableAt
  rw [← (p.removeObject_alike object k).lane]
  split
  · rw [setTable, lane_updateLane, if_pos rfl]
    cases at_ : p.lanes[k]? with
    | none => exact .inl rfl
    | some lane =>
      rw [tableAt_eq at_]
      exact lane.table.get?_unbinding object id
  · exact .inl rfl

namespace SessionRules
open RunningPool
variable {rules : SessionRules} {now : Moment} {lane : LaneId} {id : ObjectId}
  {sessions : Table Session} {book : SessionBook} {s : SessionRun} {step : SessionStep}

/-! ### One tick -/

/-- A tick takes the listed sessions off a lane, which are those that were last touched at least the
idle timeout ago, each with a record, and counts them. -/
structure Expires (rules : SessionRules) (lane : LaneId) (now : Moment) (sessions : Table Session)
    (book : SessionBook) (expired : List (ObjectId × Session))
    (call : Outcome Unit × Table Session × SessionBook) : Prop where
  returned : call.1 = .returned ()
  listed : ∀ id session, (id, session) ∈ expired ↔
    sessions.get? id = some session ∧ rules.idleTimeout.nanos ≤ now - session.lastSeen
  distinct : (expired.map Prod.fst).Nodup
  stays : ∀ id session, call.2.1.get? id = some session ↔
    sessions.get? id = some session ∧ now - session.lastSeen < rules.idleTimeout.nanos
  stats : call.2.2.stats = { book.stats with
    expired := book.stats.expired + expired.length
    ticks := book.stats.ticks + 1 }
  audit : call.2.2.audit = book.audit.extended (expired.map (expiry lane now))
  /-- Records that the audit backlog refuses are warned of. -/
  lines : (book.recorded (expired.map (expiry lane now))).lines <:+ call.2.2.lines

theorem isIdle_iff {session : Session} :
    rules.isIdle now session = true ↔ rules.idleTimeout.nanos ≤ now - session.lastSeen :=
  decide_eq_true_iff

theorem not_isIdle_iff {session : Session} :
    (!rules.isIdle now session) = true ↔ now - session.lastSeen < rules.idleTimeout.nanos := by
  rw [Bool.not_eq_true', ← Bool.not_eq_true, isIdle_iff, Nat.not_le]

theorem expire_expires (rules : SessionRules) (lane : LaneId) (now : Moment)
    (sessions : Table Session) (book : SessionBook) :
    Expires rules lane now sessions book
      (sessions.filter (fun _ session => rules.isIdle now session)).entries
      (rules.expire lane now sessions book) := by
  rw [expire_recorded]
  constructor
  case returned => rfl
  case listed =>
    intro id session
    rw [← OrderedMap.get?_eq_some_iff, OrderedMap.get?_filter, Option.filter_eq_some_iff,
      isIdle_iff]
  case distinct => exact OrderedMap.nodup_keys _
  case stays =>
    intro id session
    rw [OrderedMap.get?_filter, Option.filter_eq_some_iff, not_isIdle_iff]
  case stats => rfl
  case audit => rfl
  case lines => exact List.suffix_cons ..

/-! ### Records -/

/-- Whoever expires was idle for the timeout or longer. -/
def Overdue (rules : SessionRules) : AuditRecord → Prop
  | .expired _ _ _ idle => rules.idleTimeout.nanos ≤ idle.nanos
  | .closed .. => True

theorem handled_audit (rules : SessionRules) (now : Moment) (lane : LaneId)
    (message : LaneMessage (ObjectId × SessionEvent)) (sessions : Table Session)
    (book : SessionBook) :
    ∃ records, (rules.handled now lane message sessions book).2.2.audit =
      book.audit.extended records ∧ ∀ record ∈ records, rules.Overdue record := by
  rcases message with ⟨id, event⟩ | _
  · cases event with
    | touch =>
      refine ⟨[], ?_, by simp⟩
      simp only [handled, touch]
      split <;> simp
    | close =>
      by_cases absent : id ≤ 0 ∨ sessions.get? id = none
      · exact ⟨[], by simp [handled, close_fails sessions book lane absent], by simp⟩
      · obtain ⟨high, there⟩ := not_or.mp absent
        obtain ⟨session, bound⟩ := Option.ne_none_iff_exists'.mp there
        refine ⟨[.closed lane id session.region session.events], ?_, by simp [Overdue]⟩
        simp only [handled, close_eq (Int.not_le.mp high) bound, SessionBook.record_eq]
        rfl
  · have expires := expire_expires rules lane now sessions book
    refine ⟨_, expires.audit, fun record mem => ?_⟩
    obtain ⟨⟨id, session⟩, listed, rfl⟩ := List.mem_map.mp mem
    exact ((expires.listed id session).mp listed).2

/-- What comes into the audit backlog by a step of which nobody else takes part is overdue. -/
theorem apply_entrances (alone : AuditsAlone [step]) {entry : AuditRecord × Bool}
    (mem : entry ∈ Books.entrances (s.apply rules.handler step).pool.memory.audit.history) :
    entry ∈ Books.entrances s.pool.memory.audit.history ∨ rules.Overdue entry.1 := by
  obtain ⟨-, lines, memory⟩ | ⟨now, k, lane, envelope, rfl, -, -, -, memory⟩ :=
    apply_cases rules s step
  · left
    rw [memory] at mem
    cases step with
    | remember change =>
      have same := alone change (List.mem_singleton_self _) s.pool.memory
      exact same ▸ mem
    | _ => exact mem
  · obtain ⟨records, audit, overdue⟩ :=
      handled_audit rules now lane.id envelope.payload lane.table s.pool.memory
    rw [memory, audit, Backlog.entrances_extended] at mem
    rcases List.mem_append.mp mem with before | added
    · exact .inl before
    · right
      split at added
      · cases added
      · obtain ⟨record, pushed, rfl⟩ := List.mem_map.mp added
        exact overdue record pushed

theorem run_entrances {steps : List SessionStep} (alone : AuditsAlone steps)
    {entry : AuditRecord × Bool}
    (mem : entry ∈ Books.entrances (run rules.handler steps s).pool.memory.audit.history) :
    entry ∈ Books.entrances s.pool.memory.audit.history ∨ rules.Overdue entry.1 := by
  induction steps generalizing s with
  | nil => exact .inl mem
  | cons step steps ih =>
    have here : AuditsAlone [step] := fun change only =>
      alone change (List.mem_cons.mpr (.inl (List.mem_singleton.mp only)))
    have later : AuditsAlone steps := fun change there =>
      alone change (List.mem_cons_of_mem _ there)
    exact (ih later mem).elim (apply_entrances here) .inr

/-! ### The last touch -/

/-- Nobody else binds sessions to a lane. -/
def BindsNone : SessionStep → Prop
  | .setObject _ _ | .edit _ _ => False
  | _ => True

/-- A session that is there after a call was there before, or was touched right now. -/
theorem sessionAfter_seen {session : Option Session} {message : LaneMessage (ObjectId × SessionEvent)}
    {after : Session} (there : rules.sessionAfter now id session message = some after) :
    session = some after ∨ after.lastSeen = now := by
  rcases message with ⟨other, event⟩ | _
  · cases event with
    | touch =>
      rw [sessionAfter] at there
      split at there
      · obtain rfl := Option.some.inj there
        exact .inr rfl
      · exact .inl there
    | close =>
      rw [sessionAfter] at there
      split at there
      · cases there
      · exact .inl there
  · exact .inl (Option.filter_eq_some_iff.mp there).1

theorem apply_seen (binds : BindsNone step) {k : Nat} {session : Session}
    (there : ((s.apply rules.handler step).pool.tableAt k).get? id = some session) :
    (s.pool.tableAt k).get? id = some session ∨
      ∃ now, step = .consume now k ∧ session.lastSeen = now := by
  by_cases removes : ∃ object, step = .removeObject object
  · obtain ⟨object, rfl⟩ := removes
    rcases s.pool.get?_tableAt_removeObject object k id with same | gone
    · exact .inl (same.symm.trans there)
    · exact absurd (gone.symm.trans there) (by simp)
  · have within : step.Within .unedited := by
      cases step with
      | setObject | edit => exact binds.elim
      | removeObject object => exact absurd ⟨object, rfl⟩ removes
      | _ => simp [Step.Within, Influence.unedited]
    obtain ⟨uncalled, -⟩ | ⟨now, j, lane, envelope, rfl, at_, -, table, -⟩ :=
      apply_cases rules s step
    · rw [apply_tableAt within (calls_of_uncalled rules uncalled k)] at there
      exact .inl there
    · by_cases here : k = j
      · subst here
        rw [table, get?_handled] at there
        rw [Pool.tableAt_eq at_]
        exact (sessionAfter_seen there).imp_right fun seen => ⟨now, rfl, seen⟩
      · rw [apply_tableAt within (calls_of_other here s.pool)] at there
        exact .inl there

/-- The session for an id on the lane at a place, if there is one, was touched at the moment or
later. -/
def SeenSince (moment : Moment) (k : Nat) (id : ObjectId) (s : SessionRun) : Prop :=
  ∀ session, (s.pool.tableAt k).get? id = some session → moment ≤ session.lastSeen

theorem SeenSince.run {moment : Moment} {k : Nat} {steps : List SessionStep}
    (seen : SeenSince moment k id s) (binds : ∀ step ∈ steps, BindsNone step)
    (onward : ∀ later, .consume later k ∈ steps → moment ≤ later) :
    SeenSince moment k id (run rules.handler steps s) := by
  induction steps generalizing s with
  | nil => exact seen
  | cons step steps ih =>
    obtain ⟨here, others⟩ := List.forall_mem_cons.mp binds
    refine ih ?_ others fun later mem => onward later (List.mem_cons_of_mem _ mem)
    intro session there
    obtain before | ⟨later, rfl, is⟩ := apply_seen here there
    · exact seen session before
    · rw [is]
      exact onward later List.mem_cons_self

/-! ### Maintenance along a run -/

/-- A step that makes a call leaves what the call makes of the table of its lane and of the book. -/
theorem apply_call (rules : SessionRules) {k : Nat}
    {message : LaneMessage (ObjectId × SessionEvent)}
    (called : call? s (.consume now k) = some (now, message)) :
    ∃ lane, s.pool.lanes[k]? = some lane ∧
      (s.apply rules.handler (.consume now k)).pool.tableAt k =
        (rules.handled now lane.id message lane.table s.pool.memory).2.1 ∧
      (s.apply rules.handler (.consume now k)).pool.memory =
        (rules.handled now lane.id message lane.table s.pool.memory).2.2 := by
  obtain ⟨uncalled, -⟩ | ⟨now', k', lane, envelope, is, at_, turn, results⟩ :=
    apply_cases rules s (.consume now k)
  · rw [uncalled] at called
    cases called
  · cases is
    rw [call?_consume at_ turn] at called
    obtain rfl : envelope.payload = message := (Prod.mk.inj (Option.some.inj called)).2
    exact ⟨lane, at_, results⟩

theorem get?_apply_call {k : Nat} {message : LaneMessage (ObjectId × SessionEvent)}
    (called : call? s (.consume now k) = some (now, message)) (id : ObjectId) :
    ((s.apply rules.handler (.consume now k)).pool.tableAt k).get? id =
      rules.sessionAfter now id ((s.pool.tableAt k).get? id) message := by
  obtain ⟨lane, at_, table, -⟩ := apply_call rules called
  rw [table, get?_handled, Pool.tableAt_eq at_]

/-- A tick leaves a session as it is that was touched less than the timeout before. -/
theorem SeenSince.tick {moment : Moment} {k : Nat} (seen : SeenSince moment k id s)
    (called : call? s (.consume now k) = some (now, .tick))
    (recent : now - moment < rules.idleTimeout.nanos) :
    ((s.apply rules.handler (.consume now k)).pool.tableAt k).get? id =
      (s.pool.tableAt k).get? id := by
  rw [get?_apply_call called, sessionAfter]
  cases there : (s.pool.tableAt k).get? id with
  | none => rfl
  | some session =>
    have since : now - session.lastSeen ≤ now - moment :=
      Nat.sub_le_sub_left (seen session there) now
    have busy := not_isIdle_iff.mpr (Nat.lt_of_le_of_lt since recent)
    rw [Option.filter_some, if_pos busy]

/-- What maintenance does along a run. -/
structure Maintains (rules : SessionRules) (s : SessionRun) (steps : List SessionStep) : Prop where
  ticks : ∀ earlier now k later lane, steps = earlier ++ .consume now k :: later →
    (run rules.handler earlier s).pool.lanes[k]? = some lane →
    call? (run rules.handler earlier s) (.consume now k) = some (now, .tick) →
    ∃ expired, Expires rules lane.id now lane.table (run rules.handler earlier s).pool.memory
      expired (.returned (), (run rules.handler (earlier ++ [.consume now k]) s).pool.tableAt k,
        (run rules.handler (earlier ++ [.consume now k]) s).pool.memory)
  /-- What a tick leaves on its lane was touched less than the timeout ago. -/
  fresh : ∀ earlier now k later, steps = earlier ++ .consume now k :: later →
    call? (run rules.handler earlier s) (.consume now k) = some (now, .tick) →
    ∀ id session,
      ((run rules.handler (earlier ++ [.consume now k]) s).pool.tableAt k).get? id = some session →
      now - session.lastSeen < rules.idleTimeout.nanos
  /-- A tick does not expire what was touched less than the timeout before. -/
  spares : ∀ earlier touched k between now later id,
    steps = earlier ++ .consume touched k :: (between ++ .consume now k :: later) →
    call? (run rules.handler earlier s) (.consume touched k) =
      some (touched, .request (id, .touch)) →
    call? (run rules.handler (earlier ++ .consume touched k :: between) s) (.consume now k) =
      some (now, .tick) →
    (∀ step ∈ between, BindsNone step) →
    (∀ moment, .consume moment k ∈ between → touched ≤ moment) →
    now - touched < rules.idleTimeout.nanos →
    ((run rules.handler (earlier ++ .consume touched k :: (between ++ [.consume now k]))
        s).pool.tableAt k).get? id =
      ((run rules.handler (earlier ++ .consume touched k :: between) s).pool.tableAt k).get? id
  /-- Whoever is recorded as expired was idle for the timeout or longer. -/
  stream : AuditsAlone steps → ∀ lane id region idle kept,
    (.expired lane id region idle, kept) ∈
      Books.entrances (run rules.handler steps s).pool.memory.audit.history →
    (.expired lane id region idle, kept) ∈ Books.entrances s.pool.memory.audit.history ∨
      rules.idleTimeout.nanos ≤ idle.nanos

/-- Maintenance expires exactly the idle sessions, at any moment and with any timeout. So in every
run a session is not expired by a tick before which it was touched less than the timeout ago, no
session has been idle for the timeout right after a tick of its lane, and none is recorded as
expired that has not. -/
theorem maintenance_expires_idle_sessions (rules : SessionRules) :
    (∀ lane now sessions book, ∃ expired,
      Expires rules lane now sessions book expired (rules.expire lane now sessions book)) ∧
    ∀ (s : SessionRun) (steps : List SessionStep), rules.Maintains s steps := by
  refine ⟨fun lane now sessions book => ⟨_, expire_expires rules lane now sessions book⟩, ?_⟩
  intro s steps
  have ended (earlier : List SessionStep) (step : SessionStep) :
      run rules.handler (earlier ++ [step]) s =
        (run rules.handler earlier s).apply rules.handler step := by
    rw [run_append, run_cons, run_nil]
  constructor
  case ticks =>
    intro earlier now k later lane split at_ called
    rw [ended]
    obtain ⟨lane', at', table, memory⟩ := apply_call rules called
    obtain rfl : lane = lane' := Option.some.inj (at_.symm.trans at')
    have expires := expire_expires rules lane.id now lane.table
      (run rules.handler earlier s).pool.memory
    rw [table, memory]
    exact ⟨_, rfl, expires.listed, expires.distinct, expires.stays, expires.stats,
      expires.audit, expires.lines⟩
  case fresh =>
    intro earlier now k later split called id session there
    rw [ended, get?_apply_call called, sessionAfter, Option.filter_eq_some_iff,
      not_isIdle_iff] at there
    exact there.2
  case spares =>
    intro earlier touched k between now later id split touch tick binds onward recent
    have opened : SeenSince touched k id
        ((run rules.handler earlier s).apply rules.handler (.consume touched k)) := by
      intro session there
      rw [get?_apply_call touch, sessionAfter, if_pos rfl] at there
      obtain rfl := Option.some.inj there
      exact Nat.le_refl _
    have seen : SeenSince touched k id
        (run rules.handler (earlier ++ .consume touched k :: between) s) := by
      rw [run_append, run_cons]
      exact opened.run binds onward
    have spared := seen.tick tick recent
    rw [← ended, List.append_assoc, List.cons_append] at spared
    exact spared
  case stream =>
    intro alone lane id region idle kept mem
    exact run_entrances alone mem

/-- Sessions 8 and 9 are touched, and the lane gets to session 8 at once. -/
def firstVisit : List SessionStep :=
  [.grow 1 (some (.ofSeconds 1)), .consume 0 0, .submit 0 (8, .touch) false,
    .submit 0 (9, .touch) false, .consume 0 0]

/-- It gets to session 9 half a second later, and half a second after that it is maintained. -/
theorem firstVisit_expires :
    let s : SessionRun := start .standard (.seeded 0) (.fresh (.new 0) [])
    let steps := firstVisit ++ .consume 500000000 0 ::
      ([.tick 1000000000 0] ++ [.consume 1000000000 0])
    let left := run northern.handler steps s
    northern.Maintains s steps ∧ left.pool.memory.stats = ⟨2, 0, 1, 1⟩ ∧
      left.pool.memory.audit.items = [.expired 1 8 "north" northern.idleTimeout] ∧
      (left.pool.tableAt 0).get? 8 = none ∧
      (left.pool.tableAt 0).get? 9 = some ⟨"north", 1, 500000000⟩ := by
  intro s steps left
  have maintains := (maintenance_expires_idle_sessions northern).2 s steps
  have touch : call? (run northern.handler firstVisit s) (.consume 500000000 0) =
      some (500000000, .request (9, .touch)) := by
    decide +kernel
  have tick : call? (run northern.handler
      (firstVisit ++ .consume 500000000 0 :: [.tick 1000000000 0]) s) (.consume 1000000000 0) =
      some (1000000000, .tick) := by decide +kernel
  have spared := maintains.spares firstVisit 500000000 0 [.tick 1000000000 0] 1000000000 [] 9 rfl
    touch tick (by simp [BindsNone]) (by simp) (by decide)
  refine ⟨maintains, by decide +kernel, by decide +kernel, by decide +kernel, spared.trans ?_⟩
  decide +kernel

end SessionRules
end Lanes
