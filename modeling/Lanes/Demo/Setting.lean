import Lanes.Number.Decimal
import Lanes.Number.Reading
import Lanes.Text.Blank

/-!
# Settings of the demo

Each setting has an option on the command line and a variable in the environment. `Choices` holds
what was set so far; `Choices.complete` puts defaults in place of the rest. Settings take one value,
apart from the regions: their values are lists between commas, and lists that are set one after the
other are joined.
-/
namespace Lanes.Demo

/-- What can be set. -/
inductive Setting where
  | lanes
  | queueCapacity
  | sessions
  | producers
  | closeRatio
  | durationSecs
  | tickMs
  | idleTimeoutMs
  | regions
  | seed
  deriving DecidableEq, Repr

namespace Setting

def all : List Setting :=
  [lanes, queueCapacity, sessions, producers, closeRatio, durationSecs, tickMs, idleTimeoutMs,
    regions, seed]

/-- The name of the option, without its dashes. -/
def optionName : Setting → String
  | lanes => "lanes"
  | queueCapacity => "queue-capacity"
  | sessions => "sessions"
  | producers => "producers"
  | closeRatio => "close-ratio"
  | durationSecs => "duration-secs"
  | tickMs => "tick-ms"
  | idleTimeoutMs => "idle-timeout-ms"
  | regions => "regions"
  | seed => "seed"

/-- The name of the environment variable. -/
def variableName : Setting → String
  | lanes => "LANES"
  | queueCapacity => "QUEUE_CAPACITY"
  | sessions => "SESSIONS"
  | producers => "PRODUCERS"
  | closeRatio => "CLOSE_RATIO"
  | durationSecs => "DURATION_SECS"
  | tickMs => "TICK_MS"
  | idleTimeoutMs => "IDLE_TIMEOUT_MS"
  | regions => "REGIONS"
  | seed => "SEED"

/-- The setting with an option of this name. -/
def ofOption? (name : String) : Option Setting := all.find? (fun s => s.optionName = name)

theorem ofOption?_optionName (s : Setting) : ofOption? s.optionName = some s := by
  cases s <;> decide +kernel

end Setting

/-- Why the settings cannot be used, or are not wanted. -/
inductive Rejection where
  | helpWanted
  | versionWanted
  /-- No option has this name, or it is no option at all. -/
  | unknownArgument (argument : String)
  /-- The option ended without a value. -/
  | missingValue (setting : Setting)
  /-- The value cannot be read. -/
  | invalidValue (setting : Setting) (value : String)
  /-- The option takes one value and has got one already. -/
  | repeated (setting : Setting)
  /-- The option takes no value and has got one. -/
  | needlessValue (name : String)
  deriving DecidableEq, Repr

namespace Rejection

def message : Rejection → String
  | helpWanted => "help wanted"
  | versionWanted => "version wanted"
  | unknownArgument argument => "unknown argument " ++ argument
  | missingValue setting => "option --" ++ setting.optionName ++ " needs a value"
  | invalidValue setting value => "invalid value " ++ value ++ " for " ++ setting.optionName
  | repeated setting => "option --" ++ setting.optionName ++ " given more than once"
  | needlessValue name => "option --" ++ name ++ " takes no value"

/-- Help and version are no failures. -/
def exitCode : Rejection → Nat
  | helpWanted | versionWanted => 0
  | _ => 2

end Rejection

/-- What was set so far. -/
structure Choices where
  lanes : Option Nat
  queueCapacity : Option Nat
  sessions : Option Int
  producers : Option Nat
  closeRatio : Option Binary64
  durationSecs : Option Nat
  tickMs : Option Nat
  idleTimeoutMs : Option Nat
  regions : Option (List String)
  seed : Option Nat

/-- All settings; without a seed one is drawn. -/
structure Settings where
  lanes : Nat
  queueCapacity : Nat
  sessions : Int
  producers : Nat
  closeRatio : Binary64
  durationSecs : Nat
  tickMs : Nat
  idleTimeoutMs : Nat
  regions : List String
  seed : Option Nat

namespace Choices

def none : Choices := ⟨.none, .none, .none, .none, .none, .none, .none, .none, .none, .none⟩

def isSet (c : Choices) : Setting → Bool
  | .lanes => c.lanes.isSome
  | .queueCapacity => c.queueCapacity.isSome
  | .sessions => c.sessions.isSome
  | .producers => c.producers.isSome
  | .closeRatio => c.closeRatio.isSome
  | .durationSecs => c.durationSecs.isSome
  | .tickMs => c.tickMs.isSome
  | .idleTimeoutMs => c.idleTimeoutMs.isSome
  | .regions => c.regions.isSome
  | .seed => c.seed.isSome

/-- Natural numbers of 64 bits. -/
def natural? (value : String) : Option Nat := Decimal.naturalBelow? 0x10000000000000000 value.toList

/-- The names between commas. -/
def names (value : String) : List String := (Blank.splitComma value.toList).map String.ofList

/-- Sets something that takes one value: a second one is refused before it is read. -/
def once {α : Type} (setting : Setting) (current : Option α) (value : String)
    (reading : Option α) : Except Rejection (Option α) :=
  match current, reading with
  | some _, _ => .error (.repeated setting)
  | .none, .none => .error (.invalidValue setting value)
  | .none, some read => .ok (some read)

/-- Sets one setting to a value that is still a text. -/
def set (c : Choices) (setting : Setting) (value : String) : Except Rejection Choices :=
  match setting with
  | .lanes =>
    (once setting c.lanes value (natural? value)).map (fun v => { c with lanes := v })
  | .queueCapacity =>
    (once setting c.queueCapacity value (natural? value)).map
      (fun v => { c with queueCapacity := v })
  | .sessions =>
    (once setting c.sessions value (Decimal.int64? value.toList)).map
      (fun v => { c with sessions := v })
  | .producers =>
    (once setting c.producers value (natural? value)).map (fun v => { c with producers := v })
  | .closeRatio =>
    (once setting c.closeRatio value (Reading.float? value.toList)).map
      (fun v => { c with closeRatio := v })
  | .durationSecs =>
    (once setting c.durationSecs value (natural? value)).map
      (fun v => { c with durationSecs := v })
  | .tickMs =>
    (once setting c.tickMs value (natural? value)).map (fun v => { c with tickMs := v })
  | .idleTimeoutMs =>
    (once setting c.idleTimeoutMs value (natural? value)).map
      (fun v => { c with idleTimeoutMs := v })
  | .regions => .ok { c with regions := some (c.regions.getD [] ++ names value) }
  | .seed =>
    (once setting c.seed value (natural? value)).map (fun v => { c with seed := v })

/-- Sets what has not been set yet and has a value in the environment. -/
def setFrom (environment : List (String × String)) (c : Choices) (setting : Setting) :
    Except Rejection Choices :=
  if c.isSet setting then .ok c
  else
    match environment.lookup setting.variableName with
    | some value => c.set setting value
    | .none => .ok c

def setAllFrom (environment : List (String × String)) (c : Choices) : Except Rejection Choices :=
  Setting.all.foldlM (setFrom environment) c

/-- Puts defaults in place of what was not set. -/
def complete (c : Choices) : Settings where
  lanes := c.lanes.getD 4
  queueCapacity := c.queueCapacity.getD 1024
  sessions := c.sessions.getD 1000
  producers := c.producers.getD 4
  closeRatio := c.closeRatio.getD (.nearest false 5 100)
  durationSecs := c.durationSecs.getD 5
  tickMs := c.tickMs.getD 500
  idleTimeoutMs := c.idleTimeoutMs.getD 2000
  regions := c.regions.getD ["eu-west", "us-east", "ap-south"]
  seed := c.seed

end Choices
end Lanes.Demo
