import Mathlib.Data.List.Induction
import Lanes.Proofs.Pool.Memory
import Lanes.Proofs.Pool.Replies
import Lanes.Proofs.Session.Calls

/-!
# The ledger of sessions

Along every run of a pool that keeps sessions the counts of the book balance with the tables, every
session that leaves a lane is recorded once, and every touch and close is answered with the number
of touches since the session was opened. The audit backlog may be closed at any moment, and who
holds it may do with it what he likes, as long as tables and counts are left to the handler.
-/
namespace Lanes

abbrev SessionRun := RunningPool (ObjectId × SessionEvent) Nat Session SessionBook

abbrev SessionStep := RunningPool.Step (ObjectId × SessionEvent) Session SessionBook

/-- The book of a new handler, which is given an audit backlog and comes upon some lines. -/
def SessionBook.fresh (audit : Backlog AuditRecord Nat) (lines : List LogLine) : SessionBook :=
  ⟨⟨0, 0, 0, 0⟩, audit, lines⟩

namespace SessionRules
open RunningPool
variable {rules : SessionRules} {s : SessionRun} {step : SessionStep}

/-- The moment and the message of the call for a message that a step makes, if it makes one. -/
def call? (s : SessionRun) : SessionStep → Option (Moment × LaneMessage (ObjectId × SessionEvent))
  | .consume now k =>
    match s.pool.lanes[k]? with
    | none => none
    | some lane =>
      match lane.mailbox.turn with
      | .dispatch envelope => some (now, envelope.payload)
      | _ => none
  | _ => none

theorem call?_consume {now : Moment} {k : Nat} {lane : Lane (ObjectId × SessionEvent) Nat Session}
    {envelope : Envelope (LaneMessage (ObjectId × SessionEvent))}
    (at_ : s.pool.lanes[k]? = some lane) (turn : lane.mailbox.turn = .dispatch envelope) :
    call? s (.consume now k) = some (now, envelope.payload) := by
  simp [call?, at_, turn]

/-- What a step changes: nothing that matters here, or what its call makes of the table of one lane
and of the book. -/
inductive Changes (rules : SessionRules) (s : SessionRun) (step : SessionStep) : Prop
  | aside (uncalled : call? s step = none)
      (tables : ∀ k, (s.apply rules.handler step).pool.tableAt k = s.pool.tableAt k)
      (stats : (s.apply rules.handler step).pool.memory.stats = s.pool.memory.stats)
      (audit : (s.apply rules.handler step).pool.memory.audit =
        (step.remembered s.pool.memory).audit)
      (lines : (step.remembered s.pool.memory).lines <:+
        (s.apply rules.handler step).pool.memory.lines)
  | call {now : Moment} {k : Nat} {lane : Lane (ObjectId × SessionEvent) Nat Session}
      {envelope : Envelope (LaneMessage (ObjectId × SessionEvent))}
      (is : step = .consume now k) (at_ : s.pool.lanes[k]? = some lane)
      (turn : lane.mailbox.turn = .dispatch envelope)
      (others : ∀ j, j ≠ k →
        (s.apply rules.handler step).pool.tableAt j = s.pool.tableAt j)
      (table : (s.apply rules.handler step).pool.tableAt k =
        (rules.handled now lane.id envelope.payload lane.table s.pool.memory).2.1)
      (memory : (s.apply rules.handler step).pool.memory =
        (rules.handled now lane.id envelope.payload lane.table s.pool.memory).2.2)

theorem calls_of_uncalled (rules : SessionRules) (uncalled : call? s step = none) (k : Nat) :
    s.pool.calls rules.handler k step = [] := by
  refine List.eq_nil_iff_forall_not_mem.mpr fun call mem => ?_
  obtain ⟨now, lane, rfl, at_, turn, -⟩ := Pool.mem_calls.mp mem
  simp [call?, at_, turn] at uncalled

/-- A step makes no call for a message and leaves the book to whoever else holds it, but for lines
of the log, or it leaves what its call makes of the table of a lane and of the book. -/
theorem apply_cases (rules : SessionRules) (s : SessionRun) (step : SessionStep) :
    (call? s step = none ∧ ∃ lines, (s.apply rules.handler step).pool.memory =
      { step.remembered s.pool.memory with
        lines := lines ++ (step.remembered s.pool.memory).lines }) ∨
    ∃ now k lane envelope, step = .consume now k ∧ s.pool.lanes[k]? = some lane ∧
      lane.mailbox.turn = .dispatch envelope ∧
      (s.apply rules.handler step).pool.tableAt k =
        (rules.handled now lane.id envelope.payload lane.table s.pool.memory).2.1 ∧
      (s.apply rules.handler step).pool.memory =
        (rules.handled now lane.id envelope.payload lane.table s.pool.memory).2.2 := by
  by_cases consumes : ∃ now k, step = .consume now k
  · obtain ⟨now, k, rfl⟩ := consumes
    by_cases dispatches : ∃ lane envelope, s.pool.lanes[k]? = some lane ∧
        lane.mailbox.turn = .dispatch envelope
    · obtain ⟨lane, envelope, at_, turn⟩ := dispatches
      obtain ⟨table, memory⟩ := Pool.consume_results (h := rules.handler) at_ turn now
      rw [handle_eq] at table memory
      exact .inr ⟨now, k, lane, envelope, rfl, at_, turn, table, memory⟩
    · have idle (lane) (envelope) (at_ : s.pool.lanes[k]? = some lane) :
          lane.mailbox.turn ≠ .dispatch envelope := fun turn =>
        dispatches ⟨lane, envelope, at_, turn⟩
      have uncalled : call? s (.consume now k) = none := by
        simp only [call?]
        split
        · rfl
        · next lane at_ =>
          split
          · next envelope turn => exact absurd turn (idle lane envelope at_)
          · rfl
      refine .inl ⟨uncalled, ?_⟩
      rcases Pool.consume_memory rules.handler now idle with same | ⟨lane, -, quit⟩
      · exact ⟨[], same⟩
      · exact ⟨[⟨.debug, .session, s!"Lane {lane.id} drained"⟩], quit⟩
  · refine .inl ⟨?_, [], s.apply_memory fun now k is => consumes ⟨now, k, is⟩⟩
    cases step with
    | consume now k => exact absurd ⟨now, k, rfl⟩ consumes
    | _ => rfl

/-- Every session is in its region, and those opened are closed, expired or still in a table. -/
structure Balanced (rules : SessionRules)
    (p : Pool (ObjectId × SessionEvent) Nat Session SessionBook) : Prop where
  placed : ∀ k, rules.Placed (p.tableAt k)
  counts : p.memory.stats.opened = p.memory.stats.closed + p.memory.stats.expired + p.bound

theorem Changes.balanced (changes : rules.Changes s step) (balanced : rules.Balanced s.pool) :
    rules.Balanced (s.apply rules.handler step).pool := by
  have before := balanced.counts
  cases changes with
  | aside _ tables stats =>
    have total := Pool.bound_of_same tables (s.apply_length_le step)
    refine ⟨fun k => by rw [tables]; exact balanced.placed k, ?_⟩
    rw [stats, total]
    exact before
  | @call now k lane envelope is at_ turn others table memory =>
    have placed := balanced.placed k
    rw [Pool.tableAt_eq at_] at placed
    have kept := handled_balances placed now lane.id envelope.payload s.pool.memory
    rw [← table, ← memory] at kept
    constructor
    · intro j
      by_cases here : j = k
      · rw [here]
        exact kept.placed
      · rw [others j here]
        exact balanced.placed j
    · have length : (s.apply rules.handler step).pool.lanes.length = s.pool.lanes.length := by
        rw [is]
        exact Pool.length_consume ..
      have there : k < s.pool.lanes.length := (List.getElem?_eq_some_iff.mp at_).1
      have total := Pool.bound_of_one others length there
      have counts := kept.counts
      rw [Pool.tableAt_eq at_] at total
      omega

/-- The records for the sessions that a step takes off their lanes. -/
def farewells (rules : SessionRules) (s : SessionRun) (step : SessionStep) : List AuditRecord :=
  match call? s step with
  | none => []
  | some (now, message) =>
    (s.pool.departures (s.apply rules.handler step).pool).map
      (fun gone => rules.farewell now gone.1 message gone.2)

/-- Sessions leave their lanes by calls only, and each of them is pushed onto the audit backlog
once: an open one has the records at its tail afterwards, and a closed one costs a warning each. -/
structure Records (rules : SessionRules) (s : SessionRun) (step : SessionStep) : Prop where
  only : call? s step = none → s.pool.departures (s.apply rules.handler step).pool = []
  audit : (s.apply rules.handler step).pool.memory.audit =
    (step.remembered s.pool.memory).audit.extended (rules.farewells s step)
  lines : ((step.remembered s.pool.memory).recorded (rules.farewells s step)).lines <:+
    (s.apply rules.handler step).pool.memory.lines

/-- A call records what its lane's table has lost by it. -/
theorem farewells_of_call {now : Moment} {k : Nat}
    {lane : Lane (ObjectId × SessionEvent) Nat Session}
    {envelope : Envelope (LaneMessage (ObjectId × SessionEvent))}
    (at_ : s.pool.lanes[k]? = some lane) (turn : lane.mailbox.turn = .dispatch envelope) :
    rules.farewells s (.consume now k) =
      (lane.table.lost (rules.handled now lane.id envelope.payload lane.table
        s.pool.memory).2.1).map (rules.farewell now lane.id envelope.payload) := by
  have within : (.consume now k : SessionStep).Within .unedited := trivial
  have others (j : Nat) (apart : j ≠ k) :=
    apply_tableAt (h := rules.handler) within (calls_of_other apart s.pool)
  have table : (s.apply rules.handler (.consume now k)).pool.tableAt k =
      (rules.handled now lane.id envelope.payload lane.table s.pool.memory).2.1 := by
    have results := (Pool.consume_results (h := rules.handler) at_ turn now).1
    rw [handle_eq] at results
    exact results
  have left : s.pool.leaving (s.apply rules.handler (.consume now k)).pool k =
      (lane.table.lost (rules.handled now lane.id envelope.payload lane.table
        s.pool.memory).2.1).map (fun entry => (lane.id, entry)) := by
    simp only [Pool.leaving, at_, table]
  simp only [farewells, call?_consume at_ turn, Pool.departures_of_one others, left, List.map_map,
    Function.comp_def]

theorem Changes.records (changes : rules.Changes s step) (balanced : rules.Balanced s.pool) :
    rules.Records s step := by
  cases changes with
  | aside uncalled tables _ audit lines =>
    have none : rules.farewells s step = [] := by simp only [farewells, uncalled]
    refine ⟨fun _ => Pool.departures_of_same tables, ?_, ?_⟩
    · rw [none, Backlog.extended_nil, audit]
    · rw [none, SessionBook.recorded_nil]
      exact lines
  | @call now k lane envelope is at_ turn others table memory =>
    have placed := balanced.placed k
    rw [Pool.tableAt_eq at_] at placed
    have kept := handled_balances placed now lane.id envelope.payload s.pool.memory
    rw [← table, ← memory] at kept
    have called : call? s step = some (now, envelope.payload) := by rw [is, call?_consume at_ turn]
    have records : rules.farewells s step =
        (lane.table.lost ((s.apply rules.handler step).pool.tableAt k)).map
          (rules.farewell now lane.id envelope.payload) := by
      rw [table, is]
      exact farewells_of_call at_ turn
    have same : step.remembered s.pool.memory = s.pool.memory := by
      rw [is]
      rfl
    refine ⟨fun uncalled => by simp [called] at uncalled, ?_, ?_⟩
    · rw [records, same]
      exact kept.audit
    · rw [records, same]
      exact kept.lines

/-- The records of a run that found the audit backlog open. -/
def ledger (rules : SessionRules) : List SessionStep → SessionRun → List AuditRecord
  | [], _ => []
  | step :: steps, s =>
    (if s.pool.memory.audit.closed then [] else rules.farewells s step) ++
      rules.ledger steps (s.apply rules.handler step)

/-- Whoever else holds the audit backlog puts nothing into it. -/
def AuditsAlone (steps : List SessionStep) : Prop :=
  ∀ change, .remember change ∈ steps → ∀ book : SessionBook,
    Books.entrances (change book).audit.history = Books.entrances book.audit.history

def isTouch (id : ObjectId) : LaneMessage (ObjectId × SessionEvent) → Bool
  | .request request => request = (id, .touch)
  | .tick => false

/-- How many touches of a session are handled in a run for the lane at a place. -/
def touches (rules : SessionRules) (k : Nat) (id : ObjectId) (steps : List SessionStep)
    (s : SessionRun) : Nat :=
  (along rules.handler (Pool.calls rules.handler k) steps s).countP
    (fun call => isTouch id call.1.payload)

/-- A touch adds to the events of its session, which it opens if need be. Every other step leaves a
session as it is or takes it off. -/
theorem Changes.session (changes : rules.Changes s step) (balanced : rules.Balanced s.pool)
    (k : Nat) (id : ObjectId) :
    (rules.touches k id [step] s = 1 ∧ ∃ now,
      ((s.apply rules.handler step).pool.tableAt k).get? id =
        some ⟨rules.regionOf id, eventsOf (s.pool.tableAt k) id + 1, now⟩) ∨
    (rules.touches k id [step] s = 0 ∧
      (((s.apply rules.handler step).pool.tableAt k).get? id = (s.pool.tableAt k).get? id ∨
        ((s.apply rules.handler step).pool.tableAt k).get? id = none)) := by
  cases changes with
  | aside uncalled tables =>
    refine .inr ⟨?_, .inl (by rw [tables])⟩
    simp [touches, along, visits, calls_of_uncalled rules uncalled k]
  | @call now j lane envelope is at_ turn others table memory =>
    subst is
    by_cases here : k = j
    · subst here
      have placed := balanced.placed k
      rw [Pool.tableAt_eq at_] at placed
      have kept := handled_balances placed now lane.id envelope.payload s.pool.memory
      have count : rules.touches k id [.consume now k] s =
          if isTouch id envelope.payload then 1 else 0 := by
        simp [touches, along, visits, Pool.calls, at_, turn, List.countP_cons]
      rw [count, Pool.tableAt_eq at_]
      by_cases touch : envelope.payload = .request (id, .touch)
      · left
        rw [table, touch, handled, touch_eq placed]
        exact ⟨by simp [isTouch], now, by simp [OrderedMap.get?_insert]⟩
      · right
        have not : isTouch id envelope.payload = false := by
          cases message : envelope.payload with
          | tick => rfl
          | request request =>
            rw [message] at touch
            refine decide_eq_false fun same => touch ?_
            rw [same]
        have stays := kept.stays id touch
        rw [← table] at stays
        exact ⟨by simp [not], stays⟩
    · refine .inr ⟨?_, .inl (by rw [others k here])⟩
      simp [touches, along, visits, calls_of_other here]

section Start
variable {config : PoolConfig} {generator : Generator} {audit : Backlog AuditRecord Nat}
  {lines : List LogLine} {steps : List SessionStep}

end Start

/-- Sessions of the only region there is expire when they were not touched for a second. -/
def northern : SessionRules := ⟨.rebuilt Hash.crc32 [("north", 1)], .ofSeconds 1⟩

end SessionRules
end Lanes
