import Lanes.Proofs.Lane.Ticks
import Lanes.Proofs.Pool.Calls
import Lanes.Proofs.Pool.Stops

/-!
# Ticks along a run of a pool

While the host is up a lane with a ticker has at most one tick in its mailbox, and what it calls its
handler for, `process` and `onTick` together, is what it has accepted, in order of acceptance. A
message that waits is reached after as many steps of the consumer as there are messages before it,
and three.
-/
namespace Lanes
namespace Pool
variable {α β γ σ : Type} {p : Pool α β γ σ} {place : Nat} {lane : Lane α β γ}

/-- What a ticker that wakes up leaves of its lane, but for the ticker itself. -/
theorem tick_beats {now : Moment} (at_ : p.lanes[place]? = some lane) (held : lane.dropped = false)
    (due : p.tickerDue now place = true) :
    ∃ metronome, (p.tick now place).lanes[place]? = some { lane.beat.2.2 with metronome } := by
  rcases p.tick_cases now place with ⟨idle, -⟩ | ⟨other, metronome, at', has, -, beaten⟩
  · cases has : lane.metronome with
    | none => simp [tickerDue, at_, has] at due
    | some metronome => simp [tickerDue, at_, has, idle lane metronome at_ has] at due
  · obtain rfl : lane = other := Option.some.inj (at_.symm.trans at')
    obtain ⟨fired, -⟩ := lane_fire
      (show (p.announced place lane.id metronome).lanes[place]? = some lane by simp [at_])
    rcases beaten with ⟨-, eq⟩ | ⟨-, eq⟩
    · rw [eq]
      simp [held, orphanIfAbandoned, updateMetronome, fired]
    · rw [eq]
      simp [updateMetronome, fired]

end Pool

namespace RunningPool
variable {α β γ σ : Type} {h : Handler α β γ σ}

theorem run_turns {s : RunningPool α β γ σ} (steps : List (Step α γ σ)) {k : Nat}
    {lane : Lane α β γ} (at_ : s.pool.lanes[k]? = some lane) :
    ∃ lane' events, (run h steps s).pool.lanes[k]? = some lane' ∧
      LaneEvent.inMailbox ((run h steps s).pool.laneEvents k) =
        LaneEvent.inMailbox (s.pool.laneEvents k) ++ events ∧
      Mailbox.Turns lane.mailbox events lane'.mailbox (steps.countP (Step.consumes k)) := by
  induction steps generalizing s lane with
  | nil => exact ⟨lane, [], at_, by simp, .refl _⟩
  | cons step steps ih =>
    rw [List.countP_cons, run_cons]
    cases mine : step.consumes k with
    | false =>
      obtain ⟨lane', events, there, told, moves⟩ := (s.apply_evolves (h := h) step).lane at_
      obtain ⟨last, more, there', later, turns⟩ := ih there
      exact ⟨last, _, there', by rw [later, told, LaneEvent.inMailbox_append, List.append_assoc],
        .aside moves.mailbox turns⟩
    | true =>
      cases step with
      | consume now place =>
        obtain rfl : place = k := by simpa [Step.consumes] using mine
        by_cases wait : lane.mailbox.turn = .wait
        · have same : s.apply h (.consume now place) = s := by
            simp only [apply, perform, Pool.consume, at_, wait]
          obtain ⟨last, more, there', later, turns⟩ := ih at_
          rw [same]
          exact ⟨last, more, there', later, .idle wait turns⟩
        · obtain ⟨lane', events, there, told, consumed⟩ :=
            Pool.consume_consumes (h := h) now at_ wait
          obtain ⟨last, more, there', later, turns⟩ :=
            ih (s := s.apply h (.consume now place)) there
          refine ⟨last, _, there', ?_, .turn consumed turns⟩
          rw [later, ← List.append_assoc, ← told]
          rfl
      | _ => simp [Step.consumes] at mine

/-- What becomes of the ticks and requests of the lane at a place. -/
structure KeepsPace (h : Handler α β γ σ) (s : RunningPool α β γ σ) (steps : List (Step α γ σ))
    (k : Nat) (lane : Lane α β γ) : Prop where
  /-- At most one tick waits, and the lane knows whether one does. -/
  marked : lane.mailbox.buffer.countP (·.payload.isTick) = if lane.tickPending then 1 else 0
  /-- A beat puts a tick behind what waits if the mailbox takes it, and otherwise nothing. -/
  beats : ∀ now, (run h steps s).pool.tickerDue now k = true →
    ∃ lane', (run h (steps ++ [.tick now k]) s).pool.lanes[k]? = some lane' ∧
      (lane.Ready ∧ lane'.tickPending = true ∧
          lane'.mailbox = lane.mailbox.put ⟨lane.mailbox.accepted, .tick, false⟩ ∨
        ¬ lane.Ready ∧ lane'.tickPending = lane.tickPending ∧ lane'.mailbox = lane.mailbox)
  /-- What was accepted is, in order, what the handler was called for and what waits. -/
  flow : Mailbox.acceptances (LaneEvent.inMailbox ((run h steps s).pool.laneEvents k)) =
    (along h (Pool.calls h k) steps s).map Prod.fst ++ lane.mailbox.buffer
  distinct : ((Mailbox.acceptances (LaneEvent.inMailbox
    ((run h steps s).pool.laneEvents k))).map Envelope.serial).Nodup
  ticked : ∀ e outcome, (e, outcome) ∈ along h (Pool.calls h k) steps s → e.payload = .tick →
    ∃ now earlier later first, steps = earlier ++ .consume now k :: later ∧
      (run h earlier s).pool.lanes[k]? = some first ∧ first.mailbox.turn = .dispatch e ∧
      outcome = ((run h earlier s).pool.tickOutcome h now first).map (fun _ => none)
  processed : ∀ e outcome request, (e, outcome) ∈ along h (Pool.calls h k) steps s →
    e.payload = .request request →
    ∃ now earlier later first, steps = earlier ++ .consume now k :: later ∧
      (run h earlier s).pool.lanes[k]? = some first ∧ first.mailbox.turn = .dispatch e ∧
      outcome = ((run h earlier s).pool.requestOutcome h now k first request).map some
  reached : ∀ front e back later, lane.mailbox.buffer = front ++ e :: back → .abort ∉ later →
    front.length + 3 ≤ later.countP (Step.consumes k) →
    e ∈ (along h (Pool.calls h k) (steps ++ later) s).map Prod.fst

section Hosted
variable {config : PoolConfig} {generator : Generator} {memory : σ} {steps : List (Step α γ σ)}
  {k : Nat} {lane : Lane α β γ}

/-- What a lane shows of dispatches is what the handler was called for. -/
theorem dispatches_eq_calls (h : Handler α β γ σ) (config : PoolConfig) (generator : Generator)
    (memory : σ) (steps : List (Step α γ σ)) (k : Nat) :
    Mailbox.dispatches (LaneEvent.inMailbox
        ((run h steps (start config generator memory)).pool.laneEvents k)) =
      (along h (Pool.calls h k) steps (start config generator memory)).map Prod.fst := by
  rw [← Mailbox.map_fst_handlings, run_handlings]
  simp [start, Pool.new, Pool.laneEvents]

theorem calls_of_waits (up : .abort ∉ steps)
    (at_ : (run h steps (start config generator memory)).pool.lanes[k]? = some lane)
    {front back : List (Envelope (LaneMessage α))} {envelope : Envelope (LaneMessage α)}
    (buffer : lane.mailbox.buffer = front ++ envelope :: back) {later : List (Step α γ σ)}
    (up' : .abort ∉ later) (enough : front.length + 3 ≤ later.countP (Step.consumes k)) :
    envelope ∈ (along h (Pool.calls h k) (steps ++ later)
      (start config generator memory)).map Prod.fst := by
  obtain ⟨id, tick, moves⟩ := lane_moves_hosted up at_
  have running : lane.mailbox.phase.ended = false := by
    cases past : lane.mailbox.phase.ended with
    | false => rfl
    | true =>
      have stopped := (moves.kept (fun down => down) (.new ..)).stopped past
      have empty := moves.mailbox.stopped stopped fun _ => rfl
      simp [empty] at buffer
  have waits : lane.mailbox.Waits envelope (later.countP (Step.consumes k)) :=
    .of_buffer running buffer enough
  obtain ⟨lane', events, there, told, turns⟩ := run_turns (h := h) later at_
  rw [← run_append] at there told
  rw [← dispatches_eq_calls, told]
  rcases turns.attends waits with done | aborted
  · simp [done]
  · obtain ⟨id', tick', moves'⟩ := lane_moves_hosted
      (fun mem => (List.mem_append.mp mem).elim up up') there
    exact absurd aborted (moves'.kept (fun down => down) (.new ..)).hosted

end Hosted

/-- As long as the host is up, ticks of a lane do not pile up and the mark that one waits does not
get stuck, whatever the handler makes of ticks and requests: the mark is right, so that a beat adds
a tick whenever none waits and the mailbox takes it; and each tick and each request that was
accepted is handled once, in order of acceptance, when the consumer gets to it. -/
theorem ticks_keep_pace (h : Handler α β γ σ) (config : PoolConfig) (generator : Generator)
    (memory : σ) (steps : List (Step α γ σ)) (up : .abort ∉ steps) (k : Nat) (lane : Lane α β γ)
    (at_ : (run h steps (start config generator memory)).pool.lanes[k]? = some lane) :
    KeepsPace h (start config generator memory) steps k lane := by
  obtain ⟨id, tick, moves⟩ := lane_moves_hosted up at_
  have kept : lane.Kept := moves.kept (fun down => down) (.new ..)
  have metered : lane.Metered := moves.metered (fun down => down) (.new ..)
  constructor
  case marked =>
    refine Eq.trans metered ?_
    cases lane.tickPending <;> rfl
  case beats =>
    intro now due
    obtain ⟨metronome, there⟩ := Pool.tick_beats at_ kept.dropped due
    refine ⟨_, by rw [run_append]; exact there, ?_⟩
    rcases metered.beat kept.admits with ⟨ready, eq⟩ | ⟨refused, eq⟩
    · exact .inl ⟨ready, by rw [eq]; rfl, by rw [eq]; rfl⟩
    · exact .inr ⟨refused, by rw [eq], by rw [eq]⟩
  case flow =>
    rw [← dispatches_eq_calls]
    exact moves.mailbox.flow_of_up kept.hosted
  case distinct => exact moves.mailbox.distinct
  case ticked =>
    intro e outcome call is
    obtain ⟨now, earlier, later, first, split, there, turn, rfl⟩ := mem_calls_along.mp call
    exact ⟨now, earlier, later, first, split, there, turn, by rw [is, Pool.outcome_tick]⟩
  case processed =>
    intro e outcome request call is
    obtain ⟨now, earlier, later, first, split, there, turn, rfl⟩ := mem_calls_along.mp call
    exact ⟨now, earlier, later, first, split, there, turn, by rw [is, Pool.outcome_request]⟩
  case reached =>
    intro front e back later buffer up' enough
    exact calls_of_waits up at_ buffer up' enough

/-- Fails at requests and panics at ticks. -/
def grumbler : Handler Nat Unit Nat Unit where
  process _ _ _ table memory := .done (.failed (.callback "no"), table, memory)
  onTick _ _ table memory := (.panicked (.text "not now"), table, memory)

/-- A lane with room for two, whose ticker beats every second: the first tick waits, the second beat
finds it there, the third finds the mailbox full, and the fourth finds room again. -/
def crowdedRun : List (Step Nat Nat Unit) :=
  [.grow 1 (some (.ofSeconds 1)), .tick 0 0, .tick 1000000000 0, .submit 0 10 true, .consume 0 0,
    .consume 0 0, .submit 0 11 false, .tick 2000000000 0, .consume 0 0, .tick 3000000000 0, .quit]

theorem crowdedRun_keeps_pace :
    let s := run grumbler crowdedRun (start ⟨2, defaultTickPeriod⟩ (.seeded 0) ())
    .abort ∉ crowdedRun ∧ ∃ lane, s.pool.lanes[0]? = some lane ∧ lane.tickPending = true ∧
      lane.mailbox.buffer.map (·.payload.isTick) = [false, true] ∧
      KeepsPace grumbler (start ⟨2, defaultTickPeriod⟩ (.seeded 0) ()) crowdedRun 0 lane := by
  intro s
  have up : .abort ∉ crowdedRun := by simp [crowdedRun]
  obtain ⟨lane, at_, marked, waits⟩ : ∃ lane, s.pool.lanes[0]? = some lane ∧
      lane.tickPending = true ∧ lane.mailbox.buffer.map (·.payload.isTick) = [false, true] :=
    ⟨_, rfl, by decide +kernel, by decide +kernel⟩
  exact ⟨up, lane, at_, marked, waits,
    ticks_keep_pace grumbler ⟨2, defaultTickPeriod⟩ (.seeded 0) () crowdedRun up 0 lane at_⟩

end RunningPool
end Lanes
