import Lanes.OrderedMap
import Lanes.Simulation.Scheduler
import Lanes.Simulation.Script
import Lanes.Ticker

/-!
# Simulated tickers

A ticker whose checkers follow scripts. A checker counts its calls and does the actions of its
script in turn, over and over; with no actions it just succeeds.
-/
namespace Lanes.Simulation

/-- What a checker does on one call. -/
inductive TickAction where
  | ending (ending : Ending)
  /-- Changes the period of its own ticker. -/
  | period (seconds : Binary64)
  /-- Puts another checker in its own place. -/
  | swap (tag : String) (script : List TickAction)
  /-- Abandons its own ticker. -/
  | drop

/-- What callbacks put on record. -/
inductive TickEntry where
  | checked (tag : String) (call : Nat) (moment : Moment)
  | retimed (result : Except Error Unit)
  | quit (tag : String) (moment : Moment)

/-- What the callbacks remember: the calls of each checker, by the number that it got when it was
made, how many checkers were made, and the record with the latest entry first. -/
structure TickMemory where
  calls : OrderedMap Nat Nat
  made : Nat
  entries : List TickEntry

namespace TickMemory

def empty : TickMemory := ⟨.empty, 0, []⟩

def record (memory : TickMemory) (entry : TickEntry) : TickMemory :=
  { memory with entries := entry :: memory.entries }

end TickMemory

/-- What an action does, given what callbacks remember. -/
abbrev TickEffect := TickMemory → Reaction TickMemory

/-- The checker with a number and a tag that goes through some effects in turn. -/
def scriptedChecker (number : Nat) (tag : String) (effects : List TickEffect) :
    Checker TickMemory :=
  fun now memory =>
    let call := (memory.calls.get? number).getD 0
    let noted := { memory with calls := memory.calls.insert number (call + 1) }.record
      (.checked tag call now)
    match effects[call % effects.length]? with
    | none => .done (.returned ()) noted
    | some effect => effect noted

mutual

/-- The effect of an action. -/
def TickAction.effect : TickAction → TickEffect
  | .ending e => fun memory => .done e.conclusion memory
  | .period seconds => fun memory =>
    .retime seconds (fun answer => match answer with
      | none => .done (.failed (gone "ticker")) memory
      | some result => .done (.ofExcept result) (memory.record (.retimed result)))
  | .swap tag script =>
    let effects := TickAction.effects script
    fun memory =>
      .replace (scriptedChecker memory.made tag effects) (fun answer => match answer with
        | none => .done (.failed (gone "ticker")) memory
        | some _ => .done (.returned ()) { memory with made := memory.made + 1 })
  | .drop => fun memory => .abandon (.done (.returned ()) memory)

/-- The effects of a script. -/
def TickAction.effects : List TickAction → List TickEffect
  | [] => []
  | action :: rest => action.effect :: TickAction.effects rest

end

/-- The quit callback with a tag, which may panic after its entry. -/
def tickerFarewell (tag : String) (panics : Bool) : TickerFarewell TickMemory :=
  fun now memory =>
    (if panics then .panicked (.text "quit panic") else .returned (),
      memory.record (.quit tag now))

/-- Operations on a simulated ticker. -/
inductive TickerOp where
  | setChecker (tag : String) (script : List TickAction)
  | setFarewell (tag : String) (panics : Bool)
  | retime (seconds : Binary64)
  | quit
  | drop
  | info

/-- Their answers. -/
inductive TickerAnswer where
  | unit
  | flag (value : Bool)
  | failed (cause : Error)
  | info (period : Duration) (closed : Bool)
  | dropped

/-- A call that waits for the end of the task. -/
inductive TickerWait where
  | quit

abbrev ScriptedTicker := Ticker TickMemory

namespace ScriptedTicker

def ofResult : Except Error Unit → TickerAnswer
  | .ok _ => .unit
  | .error cause => .failed cause

/-- Installs a newly made checker. -/
def install (tag : String) (script : List TickAction) (t : ScriptedTicker) : ScriptedTicker :=
  let number := t.memory.made
  { t.setChecker (scriptedChecker number tag (TickAction.effects script)) with
    memory := { t.memory with made := number + 1 } }

def poll (_ : Moment) (call : TickerWait) (t : ScriptedTicker) :
    Sum TickerAnswer TickerWait × ScriptedTicker :=
  if t.released then (.inl .unit, t.acknowledge) else (.inr call, t)

def begin_ (now : Moment) (op : TickerOp) (t : ScriptedTicker) :
    Sum TickerAnswer TickerWait × ScriptedTicker :=
  match op with
  | .setChecker tag script => (.inl .unit, install tag script t)
  | .setFarewell tag panics =>
    let set := t.setFarewell (tickerFarewell tag panics)
    (.inl (.flag set.1), set.2)
  | .retime seconds =>
    let retimed := t.retime seconds
    (.inl (ofResult retimed.1), retimed.2)
  | .quit =>
    let closed := t.close
    match closed.1 with
    | .error cause => (.inl (.failed cause), closed.2)
    | .ok _ => poll now .quit closed.2
  | .drop => (.inl .unit, t.drop)
  | .info => (.inl (.info t.metronome.period t.metronome.closed), t)

def signals (event : Metronome.Event) : List (Signal Unit) :=
  match event with
  | .cancelled => [.wake ()]
  | .resting wakeAt => [.sleep () wakeAt]
  | _ => if event.rousesCaller then [.caller] else []

/-- The ticker with its task. -/
def system : System ScriptedTicker Unit TickerOp TickerWait TickerAnswer where
  due now _ t := t.metronome.due now
  step now _ t := t.wake now
  begin_ := begin_
  gone? t := if t.metronome.dropped then some .dropped else none
  poll := poll
  collect t :=
    let events := t.journal.reverse
    ((events.flatMap signals, events.flatMap (·.lines)), { t with journal := [] })
  abort t := t.abort
  ofBool := .flag

/-- A ticker in its world, with a checker or without. -/
def world (period : Duration) (checker : Option (String × List TickAction)) (hosted : Bool) :
    World ScriptedTicker Unit TickerWait TickerAnswer :=
  let bare : ScriptedTicker := .new period none .empty
  let ticker := match checker with
    | none => bare
    | some c => install c.1 c.2 bare
  .start ticker [()] hosted

/-- Takes the record of the callbacks out, the oldest entry first. -/
def takeEntries (w : World ScriptedTicker Unit TickerWait TickerAnswer) :
    List TickEntry × World ScriptedTicker Unit TickerWait TickerAnswer :=
  let memory := w.component.memory
  (memory.entries.reverse,
    { w with component := { w.component with memory := { memory with entries := [] } } })

end ScriptedTicker
end Lanes.Simulation
