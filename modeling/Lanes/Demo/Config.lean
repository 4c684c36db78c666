import Lanes.Demo.Setting
import Lanes.Duration
import Lanes.Number.Shortest

/-!
# Configuration of the demo

Settings become a configuration if none of them is out of range. The names of regions are trimmed
first and empty ones left out; the names that are left have to be distinct.
-/
namespace Lanes.Demo

/-- What is wrong with settings. -/
inductive ConfigFault where
  | noLanes
  | noCapacity
  | sessionsNotPositive
  | noProducers
  | ratioOutside (ratio : Binary64)
  | noTickPeriod
  | noRegions
  | repeatedRegion (name : String)
  deriving DecidableEq, Repr

def ConfigFault.message : ConfigFault → String
  | noLanes => "LANES must be greater than 0"
  | noCapacity => "QUEUE_CAPACITY must be greater than 0"
  | sessionsNotPositive => "SESSIONS must be greater than 0"
  | noProducers => "PRODUCERS must be greater than 0"
  | ratioOutside ratio => "CLOSE_RATIO (" ++ ratio.text ++ ") must be within [0, 1]"
  | noTickPeriod => "TICK_MS must be greater than 0"
  | noRegions => "REGIONS must name at least one region"
  | repeatedRegion name => "REGIONS lists `" ++ name ++ "` more than once"

/-- A configuration that a run can start from. -/
structure Config where
  lanes : Nat
  queueCapacity : Nat
  sessions : Int
  producers : Nat
  closeRatio : Binary64
  duration : Duration
  tickPeriod : Duration
  idleTimeout : Duration
  regions : List String
  seed : Option Nat

namespace Config

/-- The names without surrounding blanks, apart from those that are nothing else. -/
def regionNames (regions : List String) : List String :=
  (regions.map Blank.trim).filter (· ≠ "")

/-- The first name that is among those seen or occurred before. -/
def firstRepeatedFrom? (seen : List String) : List String → Option String
  | [] => none
  | name :: rest => if name ∈ seen then some name else firstRepeatedFrom? (name :: seen) rest

/-- The first name that occurred before. -/
def firstRepeated? (names : List String) : Option String := firstRepeatedFrom? [] names

/-- The first fault of some settings. -/
def fault? (s : Settings) : Option ConfigFault :=
  let regions := regionNames s.regions
  if s.lanes = 0 then some .noLanes
  else if s.queueCapacity = 0 then some .noCapacity
  else if s.sessions ≤ 0 then some .sessionsNotPositive
  else if s.producers = 0 then some .noProducers
  else if !s.closeRatio.inUnitInterval then some (.ratioOutside s.closeRatio)
  else if s.tickMs = 0 then some .noTickPeriod
  else if regions.isEmpty then some .noRegions
  else (firstRepeated? regions).map .repeatedRegion

/-- The configuration that settings make. -/
def ofSettings (s : Settings) : Except ConfigFault Config :=
  match fault? s with
  | some fault => .error fault
  | none => .ok {
      lanes := s.lanes
      queueCapacity := s.queueCapacity
      sessions := s.sessions
      producers := s.producers
      closeRatio := s.closeRatio
      duration := .ofSeconds s.durationSecs
      tickPeriod := .ofMillis s.tickMs
      idleTimeout := .ofMillis s.idleTimeoutMs
      regions := regionNames s.regions
      seed := s.seed }

end Config
end Lanes.Demo
