import Lanes.Hash.Crc32
import Lanes.Lane
import Lanes.Random.Generator

/-!
# Pools of lanes

A pool spreads requests over its lanes. Lanes are numbered from one; the pool keeps every lane that
it ever created, in order of creation, and a roster that leads from the ids of the live ones to
their places in that list. A request for an object goes to the lane that a hash of the object's id
names among the lanes there are; with affinity the pool remembers the choice. A request for no
object goes to a lane drawn at random.
-/
namespace Lanes

/-- What all lanes of a pool have in common. -/
structure PoolConfig where
  capacity : Nat
  /-- The period of tickers for which none is named. -/
  tickPeriod : Duration

/-- The configuration of a pool for which none is given. -/
def PoolConfig.standard : PoolConfig := ⟨defaultCapacity, defaultTickPeriod⟩

/-- The largest number of a lane. -/
def maxLaneId : Nat := 0x7fffffff

/-- What happens to a pool. Lanes are given by place and id. -/
inductive PoolEvent (α β : Type) where
  | created (place : Nat) (id : LaneId) (tick : Option Duration)
  | grown (added total : Nat)
  | mailbox (place : Nat) (id : LaneId)
      (event : Mailbox.Event (LaneMessage α) (Option β))
  | ticker (place : Nat) (id : LaneId) (event : Metronome.Event)
  /-- A lane refused a request meant for all. -/
  | rejected (id : LaneId) (cause : Error)
  | stopping (count : Nat)
  | stopped (id : LaneId)
  | shutdownComplete

namespace PoolEvent
variable {α β : Type}

def lines : PoolEvent α β → List LogLine
  | created _ id tick =>
    [⟨.trace, .lane, s!"Lane {id} created (ticker: " ++ Duration.optionText tick ++ ")"⟩]
  | grown added total => [⟨.debug, .pool, s!"Created {added} workers ({total} total)"⟩]
  | mailbox _ _ event => event.lines
  | ticker _ _ event => event.lines
  | rejected id cause => [⟨.warn, .pool, s!"Worker {id} rejected broadcast: " ++ cause.message⟩]
  | stopping count => [⟨.info, .pool, s!"Stopping {count} workers"⟩]
  | stopped id => [⟨.trace, .lane, s!"Lane {id} stopped"⟩]
  | shutdownComplete => [⟨.info, .pool, "Worker pool shutdown complete"⟩]

end PoolEvent

/-- A pool whose handler remembers a `σ`; the journal has the latest event first. -/
structure Pool (α β γ σ : Type) where
  config : PoolConfig
  /-- All lanes ever created. -/
  lanes : List (Lane α β γ)
  /-- Places of the live lanes. -/
  roster : OrderedMap LaneId Nat
  /-- The highest id in use. -/
  laneCount : Nat
  /-- Lanes chosen with affinity. -/
  routes : OrderedMap ObjectId LaneId
  generator : Generator
  memory : σ
  journal : List (PoolEvent α β)

namespace Pool
variable {α β γ σ : Type}

/-- A pool without lanes. -/
def new (config : PoolConfig) (generator : Generator) (memory : σ) : Pool α β γ σ :=
  ⟨config, [], .empty, 0, .empty, generator, memory, []⟩

def note (p : Pool α β γ σ) (event : PoolEvent α β) : Pool α β γ σ :=
  { p with journal := event :: p.journal }

/-- Changes the lane at a place. -/
def updateLane (p : Pool α β γ σ) (place : Nat) (f : Lane α β γ → Lane α β γ) : Pool α β γ σ :=
  { p with lanes := p.lanes.modify place f }

/-- Number of live lanes. -/
def size (p : Pool α β γ σ) : Nat := p.roster.size

/-- Ids of the live lanes, ascending. -/
def ids (p : Pool α β γ σ) : List LaneId := p.roster.keys

/-! ### Growth -/

/-- Adds the lane with the given id. -/
def addLane (tick : Option Duration) (p : Pool α β γ σ) (id : LaneId) : Pool α β γ σ :=
  let place := p.lanes.length
  { p with
    lanes := p.lanes ++ [Lane.new id p.config.capacity tick]
    roster := p.roster.insert id place }.note (.created place id tick)

/-- Why so many lanes cannot be added. -/
def growthRefusal (p : Pool α β γ σ) (count : Nat) : Option Error :=
  if count = 0 then some (.invalidArgument "worker count must be positive")
  else if maxCapacity < p.config.capacity then
    some (.invalidArgument ("queue capacity " ++ toString p.config.capacity ++ " exceeds " ++
      toString maxCapacity))
  else if maxLaneId < p.laneCount + count then
    some (.invalidArgument s!"cannot add {count} workers")
  else none

/-- The ids that `count` more lanes get. -/
def nextIds (p : Pool α β γ σ) (count : Nat) : List LaneId :=
  (List.range count).map (fun i => ((p.laneCount + i + 1 : Nat) : Int))

/-- Adds lanes and gives their ids. With a period every new lane has a ticker; the period zero means
the configured one. -/
def grow (p : Pool α β γ σ) (count : Nat) (tick : Option Duration) :
    Except Error (List LaneId) × Pool α β γ σ :=
  match p.growthRefusal count with
  | some cause => (.error cause, p)
  | none =>
    let period := tick.map (fun d => d.orDefault p.config.tickPeriod)
    let ids := p.nextIds count
    let grown := ids.foldl (addLane period) p
    let total := p.laneCount + count
    (.ok ids, { grown with laneCount := total }.note (.grown count total))

/-! ### Routing -/

/-- The place of a live lane. -/
def place? (p : Pool α β γ σ) (id : LaneId) : Except Error Nat :=
  match p.roster.get? id with
  | some place => .ok place
  | none => .error (.noSuchWorker id)

/-- The eight bytes of a number, the lowest first, negative numbers in two's complement. -/
def littleEndian (n : Int) : Bytes :=
  (List.range 8).map (fun i => .ofNat ((n % 0x10000000000000000).toNat >>> (8 * i)))

/-- The lane of an object among `count` lanes. -/
def hashedLane (object : ObjectId) (count : Nat) : LaneId :=
  (((Hash.crc32 (littleEndian object)).toNat % count + 1 : Nat) : Int)

/-- Chooses a lane; the pool has some. -/
def choose (p : Pool α β γ σ) (object : ObjectId) (affinity : Bool) : LaneId × Pool α β γ σ :=
  if object ≤ 0 then
    let drawn := p.generator.below p.laneCount
    (((drawn.1 + 1 : Nat) : Int), { p with generator := drawn.2 })
  else if affinity then
    match p.routes.get? object with
    | some lane => (lane, p)
    | none =>
      let lane := hashedLane object p.laneCount
      (lane, { p with routes := p.routes.insert object lane })
  else (hashedLane object p.laneCount, p)

/-- The place of the lane to which a request for an object goes. -/
def target (p : Pool α β γ σ) (object : ObjectId) (affinity : Bool) :
    Except Error Nat × Pool α β γ σ :=
  if p.laneCount = 0 ∨ p.roster.isEmpty then (.error .noWorkers, p)
  else
    let chosen := p.choose object affinity
    (chosen.2.place? chosen.1, chosen.2)

end Pool
end Lanes
