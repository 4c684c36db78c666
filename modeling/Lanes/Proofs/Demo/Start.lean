import Lanes.Demo.Program
import Lanes.Proofs.Demo.Regions
import Lanes.Proofs.Number.Exact
import Lanes.Proofs.Pool.Growth

/-!
# Start of a run

Settings are checked against lower limits, one after the other. The upper limits are those of the
pool: it refuses lanes whose mailboxes are too large or whose ids do not fit into a word. So a run
gets its lanes exactly if the settings are within the limits of the pool too, and otherwise it ends
with the refusal before it has any. What its producers draw from is never empty.
-/
namespace Lanes

/-! ### Operations without a wait -/

namespace Simulation.World
variable {state τ op ω ρ : Type} [DecidableEq τ]

/-- Another order of who runs, but the same component and the same calls. -/
structure Rearranges (w w' : World state τ ω ρ) : Prop where
  component : w'.component = w.component
  calls : w'.calls = w.calls

theorem enqueue_rearranges (w : World state τ ω ρ) (runner : Runner τ) :
    Rearranges w (w.enqueue runner) := by
  unfold enqueue
  split <;> exact ⟨rfl, rfl⟩

theorem follow_rearranges (running : Option τ) (w : World state τ ω ρ) (signal : Signal τ) :
    Rearranges w (follow running w signal) := by
  cases signal with
  | wake task =>
    simp only [follow]
    split
    · exact ⟨rfl, rfl⟩
    · exact w.enqueue_rearranges _
  | sleep task wakeAt =>
    simp only [follow]
    split <;> exact ⟨rfl, rfl⟩
  | yield task =>
    simp only [follow]
    split <;> exact ⟨rfl, rfl⟩
  | caller =>
    simp only [follow]
    split
    · exact w.enqueue_rearranges _
    · exact ⟨rfl, rfl⟩

theorem foldl_follow_rearranges (running : Option τ) (signals : List (Signal τ))
    (w : World state τ ω ρ) : Rearranges w (signals.foldl (follow running) w) := by
  induction signals generalizing w with
  | nil => exact ⟨rfl, rfl⟩
  | cons signal rest ih =>
    have first := follow_rearranges running w signal
    have others := ih (follow running w signal)
    exact ⟨others.component.trans first.component, others.calls.trans first.calls⟩

variable {sys : System state τ op ω ρ} {w : World state τ ω ρ}

theorem absorb_component (running : Option τ) :
    (absorb sys running w).component = (sys.collect w.component).2 :=
  (foldl_follow_rearranges ..).component

theorem absorb_calls (running : Option τ) : (absorb sys running w).calls = w.calls :=
  (foldl_follow_rearranges ..).calls

/-- An operation that leaves nothing to wait for is answered at once, and no task runs. -/
theorem take_operation {operation : op} {answer : ρ} {after : state} (quiet : w.calls = [])
    (here : sys.gone? w.component = none)
    (begun : sys.begin_ w.now operation w.component = (.inl answer, after)) :
    (w.take sys (.call (.operate operation))).1.1 = [some answer] ∧
      (w.take sys (.call (.operate operation))).2.component = (sys.collect after).2 := by
  have start : w.begin_ sys (.operate operation) =
      absorb sys none { w with calls := [.inl answer], component := after } := by
    simp only [begin_, here, begun, quiet, List.nil_append]
  simp only [take, start, answers, absorb_component, absorb_calls]
  exact ⟨rfl, trivial⟩

end Simulation.World

/-! ### The first lanes of a pool -/

theorem Mailbox.effectiveCapacity_eq_self {requested : Nat} (sized : requested ≠ 0)
    (room : requested ≤ maxCapacity) : effectiveCapacity requested = requested := by
  rw [effectiveCapacity, if_neg sized, Nat.min_eq_left room]

namespace Pool
variable {α β γ σ : Type} {count : Nat}

/-- The ids of so many lanes, from one on. -/
def firstIds (count : Nat) : List LaneId := (List.range count).map (fun i => ((i + 1 : Nat) : Int))

/-- There are just so many lanes, all of them live, with the ids from one on, mailboxes of this
capacity and tickers of this period. -/
structure HasFirstLanes (p : Pool α β γ σ) (count capacity : Nat) (period : Duration) : Prop where
  live : p.ids = firstIds count
  places : ∀ i < count, p.roster.get? ((i + 1 : Nat) : Int) = some i
  ids : p.lanes.map (·.id) = firstIds count
  capacity : ∀ lane ∈ p.lanes, lane.mailbox.capacity = capacity
  period : ∀ lane ∈ p.lanes, lane.tickPeriod = some period

theorem HasFirstLanes.collected {p : Pool α β γ σ} {capacity : Nat} {period : Duration}
    (has : p.HasFirstLanes count capacity period) (journal : List (PoolEvent α β)) (memory : σ) :
    ({ p with journal, memory } : Pool α β γ σ).HasFirstLanes count capacity period :=
  ⟨has.live, has.places, has.ids, has.capacity, has.period⟩

/-- The pool allows for so many lanes with mailboxes of this capacity. -/
structure Allows (count capacity : Nat) : Prop where
  room : capacity ≤ maxCapacity
  ids : count ≤ maxLaneId

/-- The refusal of lanes that the pool does not allow for. The mailboxes are looked at first. -/
def limitExceeded (count capacity : Nat) : Error :=
  if maxCapacity < capacity then
    .invalidArgument ("queue capacity " ++ toString capacity ++ " exceeds " ++ toString maxCapacity)
  else .invalidArgument s!"cannot add {count} workers"

variable {config : PoolConfig} {generator : Generator} {memory : σ}

theorem nextIds_new : (new config generator memory : Pool α β γ σ).nextIds count = firstIds count :=
  List.map_congr_left fun i _ => by rw [new, Nat.zero_add]

/-- A lane that asks for the period zero gets the configured one, unless this is zero as well. -/
theorem tickPeriod_of_zero {p : Pool α β γ σ} (timed : p.config.tickPeriod.nanos ≠ 0) (id : LaneId)
    (capacity : Nat) :
    (Lane.new id capacity (p.periodOf (some ⟨0⟩)) : Lane α β γ).tickPeriod =
      some p.config.tickPeriod := by
  have kept : p.config.tickPeriod.orDefault defaultTickPeriod = p.config.tickPeriod :=
    if_neg (by simpa [Duration.isZero] using timed)
  exact congrArg some kept

theorem grow_new_of_allows (sized : config.capacity ≠ 0) (timed : config.tickPeriod.nanos ≠ 0)
    (wanted : count ≠ 0) (fits : Allows count config.capacity) :
    let p : Pool α β γ σ := new config generator memory
    let grown := p.grow count (some ⟨0⟩)
    grown.1 = .ok (firstIds count) ∧
      grown.2.HasFirstLanes count config.capacity config.tickPeriod := by
  intro p grown
  have sound : p.Sound := .new config generator memory
  have whole := sound.growsWhole count (some ⟨0⟩)
  obtain ⟨ids, given⟩ := whole.ok_iff.mpr
    ⟨Nat.one_le_iff_ne_zero.mpr wanted, fits.room, (Nat.zero_add count).trans_le fits.ids⟩
  obtain ⟨numbered, gains⟩ := whole.granted ids given
  obtain rfl : ids = firstIds count := numbered.trans nextIds_new
  have fresh : ∀ lane ∈ grown.2.lanes, ∃ id,
      Lane.new id config.capacity (p.periodOf (some ⟨0⟩)) = lane := by
    intro lane mem
    rw [gains.lanes] at mem
    obtain ⟨id, -, same⟩ := List.mem_map.mp mem
    exact ⟨id, same⟩
  refine ⟨given, gains.live, ?places, ?ids, ?capacity, ?period⟩
  case places =>
    intro i below
    have place := gains.new i ((i + 1 : Nat) : Int) (by simp [firstIds, below])
    rwa [show p.lanes.length + i = i from Nat.zero_add i] at place
  case ids =>
    rw [gains.lanes]
    simp [p, new, Lane.new, Function.comp_def]
  case capacity =>
    intro lane mem
    obtain ⟨id, rfl⟩ := fresh lane mem
    exact Mailbox.effectiveCapacity_eq_self sized fits.room
  case period =>
    intro lane mem
    obtain ⟨id, rfl⟩ := fresh lane mem
    exact tickPeriod_of_zero timed id config.capacity

theorem grow_new_of_not_allows (wanted : count ≠ 0) (exceeds : ¬ Allows count config.capacity)
    (tick : Option Duration) :
    let p : Pool α β γ σ := new config generator memory
    p.grow count tick = (.error (limitExceeded count config.capacity), p) := by
  intro p
  have refusal : p.growthRefusal count = some (limitExceeded count config.capacity) := by
    -- the refusal asks for the capacity and the number of lanes in this order, too
    rw [growthRefusal, if_neg wanted, limitExceeded, apply_ite some]
    by_cases large : maxCapacity < config.capacity
    · rw [if_pos large]
      exact if_pos large
    · have many : maxLaneId < p.laneCount + count := by
        rw [show p.laneCount + count = count from Nat.zero_add count]
        exact Nat.lt_of_not_le fun few => exceeds ⟨Nat.le_of_not_lt large, few⟩
      rw [if_neg large, if_pos many]
      exact if_neg large
  rw [grow, refusal]

end Pool

/-! ### The lanes of a run -/

namespace Demo
open Simulation

theorem Stage.call_create (rules : SessionRules) {stage : Stage} (quiet : stage.world.calls = [])
    (count : Nat) (tick : Option Duration) :
    let grown := stage.world.component.pool.grow count tick
    let called := stage.call rules (.create count tick)
    called.1 = some (PoolState.answer .created grown.1) ∧
      called.2.world.component.pool =
        { grown.2 with journal := [], memory := (takeLines grown.2.memory).2 } := by
  intro grown called
  have begun : (PoolState.system rules.handler takeLines).begin_ stage.world.now
      (.create count tick) stage.world.component =
      (.inl (PoolState.answer .created grown.1 : PoolAnswer Nat Session BookAnswer),
        { stage.world.component with pool := grown.2 }) := rfl
  obtain ⟨answers, after⟩ := World.take_operation quiet rfl begun
  have first : called.1 = ((stage.world.take (PoolState.system rules.handler takeLines)
    (.call (.operate (.create count tick)))).1.1.head?).join := rfl
  rw [first, answers]
  exact ⟨rfl, congrArg PoolState.pool after⟩

namespace Config

/-- A run that has no lanes yet. -/
def opening (config : Config) (seed : UInt64) : Stage :=
  let opening : Stage := ⟨startingPool config seed, Producer.all config.producers seed, []⟩
  opening.say s!"Starting session demo with {config.lanes} lanes and {config.producers} producers"

/-- Its call for lanes with tickers of the configured period. -/
def createLanes (config : Config) (regions : WeightedRing) (seed : UInt64) :
    Option (PoolAnswer Nat Session BookAnswer) × Stage :=
  (config.opening seed).call ⟨regions, config.idleTimeout⟩ (.create config.lanes (some ⟨0⟩))

variable {s : Settings} {config : Config} {seed : UInt64} {ring : WeightedRing}

theorem run_of_created {ids : List LaneId}
    (fits : SessionPool.regionRing (config.regions.map fun region => (region, 0)) = .ok ring)
    (created : (config.createLanes ring seed).1 = some (.created ids)) :
    ∃ totals, (config.run seed).1 = .ok totals := by
  simp only [createLanes, opening] at created
  simp only [run, fits, created]
  exact ⟨_, rfl⟩

theorem run_of_failed {cause : Error}
    (fits : SessionPool.regionRing (config.regions.map fun region => (region, 0)) = .ok ring)
    (failed : (config.createLanes ring seed).1 = some (.failed cause)) :
    (config.run seed).1 = .error cause := by
  simp only [createLanes, opening] at failed
  simp only [run, fits, failed]

/-- The numbers of a configuration are those of its settings. -/
theorem numbers_of_ofSettings (made : ofSettings s = .ok config) :
    config = { config with
      lanes := s.lanes
      queueCapacity := s.queueCapacity
      sessions := s.sessions
      closeRatio := s.closeRatio
      tickPeriod := .ofMillis s.tickMs } := by
  unfold ofSettings at made
  split at made
  · cases made
  · obtain rfl := Except.ok.inj made
    rfl

theorem opening_pool (made : ofSettings s = .ok config) (seed : UInt64) :
    ∃ memory, (config.opening seed).world.component.pool =
      .new ⟨s.queueCapacity, .ofMillis s.tickMs⟩ (.seeded seed) memory := by
  rw [numbers_of_ofSettings made]
  exact ⟨_, rfl⟩

theorem createLanes_of_ofSettings (made : ofSettings s = .ok config) (ring : WeightedRing)
    (seed : UInt64) :
    ∃ memory,
      let p : SessionPool := .new ⟨s.queueCapacity, .ofMillis s.tickMs⟩ (.seeded seed) memory
      let grown := p.grow s.lanes (some ⟨0⟩)
      (config.createLanes ring seed).1 = some (PoolState.answer .created grown.1) ∧
        (config.createLanes ring seed).2.world.component.pool =
          { grown.2 with journal := [], memory := (Stage.takeLines grown.2.memory).2 } := by
  rw [numbers_of_ofSettings made]
  exact ⟨_, Stage.call_create _ rfl s.lanes (some ⟨0⟩)⟩

/-- The lanes are created as the settings want them, and the run takes its course. -/
structure Starts (s : Settings) (config : Config) (seed : UInt64) : Prop where
  created : ∃ ring,
    SessionPool.regionRing (config.regions.map fun region => (region, 0)) = .ok ring ∧
    (config.createLanes ring seed).1 = some (.created (Pool.firstIds s.lanes)) ∧
    (config.createLanes ring seed).2.world.component.pool.HasFirstLanes s.lanes s.queueCapacity
      (.ofMillis s.tickMs)
  timed : (Duration.ofMillis s.tickMs).nanos ≠ 0
  ends : ∃ totals, (config.run seed).1 = .ok totals

/-- The lanes are refused, all of them, and the run ends with the refusal. -/
structure Refuses (s : Settings) (config : Config) (seed : UInt64) : Prop where
  failed : ∃ ring,
    SessionPool.regionRing (config.regions.map fun region => (region, 0)) = .ok ring ∧
    (config.createLanes ring seed).1 =
      some (.failed (Pool.limitExceeded s.lanes s.queueCapacity)) ∧
    (config.createLanes ring seed).2.world.component.pool.lanes = [] ∧
    (config.createLanes ring seed).2.world.component.pool.ids = []
  ends : (config.run seed).1 = .error (Pool.limitExceeded s.lanes s.queueCapacity)

theorem Refuses.not_starts (refuses : Refuses s config seed) : ¬ Starts s config seed := by
  intro starts
  obtain ⟨totals, ended⟩ := starts.ends
  rw [refuses.ends] at ended
  cases ended

theorem numbersInRange_of_ofSettings (made : ofSettings s = .ok config) : s.NumbersInRange :=
  (fault?_eq_none_iff.mp (exists_ofSettings_iff.mp ⟨config, made⟩)).1

theorem starts_of_allows (made : ofSettings s = .ok config)
    (fits : Pool.Allows s.lanes s.queueCapacity) (seed : UInt64) : Starts s config seed := by
  have fine := numbersInRange_of_ofSettings made
  have timed : (Duration.ofMillis s.tickMs).nanos ≠ 0 := Nat.mul_ne_zero fine.tickMs (by decide)
  obtain ⟨ring, regions, -⟩ := (fitsRing_of_ofSettings made).ring
  obtain ⟨memory, answer, pool⟩ := createLanes_of_ofSettings made ring seed
  have created : (config.createLanes ring seed).1 = some (.created (Pool.firstIds s.lanes)) := by
    rw [answer, (Pool.grow_new_of_allows fine.queueCapacity timed fine.lanes fits).1]
    rfl
  refine ⟨⟨ring, regions, created, ?_⟩, timed, run_of_created regions created⟩
  rw [pool]
  exact (Pool.grow_new_of_allows fine.queueCapacity timed fine.lanes fits).2.collected [] _

theorem refuses_of_not_allows (made : ofSettings s = .ok config)
    (exceeds : ¬ Pool.Allows s.lanes s.queueCapacity) (seed : UInt64) : Refuses s config seed := by
  have fine := numbersInRange_of_ofSettings made
  obtain ⟨ring, regions, -⟩ := (fitsRing_of_ofSettings made).ring
  obtain ⟨memory, answer, pool⟩ := createLanes_of_ofSettings made ring seed
  rw [Pool.grow_new_of_not_allows fine.lanes exceeds] at answer pool
  refine ⟨⟨ring, regions, answer, ?_, ?_⟩, run_of_failed regions answer⟩
  · rw [pool]
    rfl
  · rw [pool]
    rfl

/-! ### Draws -/

/-- Producers draw from sessions that there are and with a probability that is one. -/
structure CanDraw (config : Config) : Prop where
  sessions : 1 ≤ config.sessions
  closeRatio : ∃ q, config.closeRatio.rational? = some q ∧ 0 ≤ q ∧ q ≤ 1
  drawn : ∀ p : Producer, 1 ≤ (p.draw config).1.1 ∧ (p.draw config).1.1 ≤ config.sessions

theorem session_draw (config : Config) (p : Producer) :
    (p.draw config).1.1 = (((p.generator.belowWide config.sessions.toNat).1 + 1 : Nat) : Int) := rfl

theorem canDraw_of_ofSettings (made : ofSettings s = .ok config) : config.CanDraw := by
  have fine := numbersInRange_of_ofSettings made
  have sessions : config.sessions = s.sessions := by rw [numbers_of_ofSettings made]
  have ratio : config.closeRatio = s.closeRatio := by rw [numbers_of_ofSettings made]
  refine ⟨?_, ?_, fun p => ?_⟩
  · rw [sessions]
    exact fine.sessions
  · rw [ratio]
    exact Binary64.inUnitInterval_iff.mp fine.closeRatio
  · have pos : 0 < config.sessions.toNat := Int.pos_iff_toNat_pos.mp (sessions ▸ fine.sessions)
    have below := p.generator.belowWide_lt pos
    rw [session_draw]
    -- nothing but the bound is known of what is drawn
    generalize (p.generator.belowWide config.sessions.toNat).1 = drawn at below
    have range : 1 ≤ ((drawn + 1 : Nat) : Int) ∧ ((drawn + 1 : Nat) : Int) ≤ config.sessions := by
      omega
    exact range

/-! ### Limits -/

/-- What becomes of a run with this configuration. -/
structure StartChecked (s : Settings) (config : Config) (seed : UInt64) : Prop where
  fresh : ∃ memory, (config.opening seed).world.component.pool =
    .new ⟨s.queueCapacity, .ofMillis s.tickMs⟩ (.seeded seed) memory
  starts_iff : Starts s config seed ↔ Pool.Allows s.lanes s.queueCapacity
  refuses : ¬ Pool.Allows s.lanes s.queueCapacity → Refuses s config seed
  draws : config.CanDraw

/-- A configuration gets its lanes just if its numbers are within the limits of the pool, and is
refused all of them otherwise. -/
theorem start_checked (made : ofSettings s = .ok config) (seed : UInt64) :
    StartChecked s config seed where
  fresh := opening_pool made seed
  starts_iff := by
    refine ⟨fun starts => ?_, fun fits => starts_of_allows made fits seed⟩
    by_contra exceeds
    exact (refuses_of_not_allows made exceeds seed).not_starts starts
  refuses exceeds := refuses_of_not_allows made exceeds seed
  draws := canDraw_of_ofSettings made

theorem defaults_start :
    ∃ config, ofSettings Choices.none.complete = .ok config ∧
      Starts Choices.none.complete config 7 := by
  obtain ⟨config, made⟩ : ∃ config, ofSettings Choices.none.complete = .ok config :=
    exists_ofSettings_iff.mpr (by decide)
  exact ⟨config, made, (start_checked made 7).starts_iff.mpr ⟨by decide, by decide⟩⟩

/-- Mailboxes that are larger than allowed by one make a configuration that does not start. -/
theorem large_mailboxes_refused :
    let s : Settings := { Choices.none.complete with
      lanes := 1, durationSecs := 0, queueCapacity := 0x2000000000000000 }
    ∃ config, ofSettings s = .ok config ∧ ∀ seed, ¬ Starts s config seed ∧
      (config.run seed).1 = .error (.invalidArgument
        "queue capacity 2305843009213693952 exceeds 2305843009213693951") := by
  intro s
  obtain ⟨config, made⟩ : ∃ config, ofSettings s = .ok config :=
    exists_ofSettings_iff.mpr (by decide)
  have exceeds : ¬ Pool.Allows s.lanes s.queueCapacity := fun fits => absurd fits.room (by decide)
  have cause : Pool.limitExceeded s.lanes s.queueCapacity = .invalidArgument
      "queue capacity 2305843009213693952 exceeds 2305843009213693951" := by decide +kernel
  refine ⟨config, made, fun seed => ?_⟩
  have refuses := refuses_of_not_allows made exceeds seed
  exact ⟨refuses.not_starts, refuses.ends.trans (congrArg _ cause)⟩

/-- The least number of lanes that is refused is one more than the largest id. -/
example : (execute ["--lanes=2147483648"] [] 0).1 =
    .failed (.invalidArgument "cannot add 2147483648 workers") := by
  decide +kernel

end Config
end Demo
end Lanes
