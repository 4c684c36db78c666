import Lanes.Pool.Tasks

/-!
# Shutdown of a pool

A pool that is told to quit forgets its lanes and routes at once, so that it looks empty from then
on. Then it stops each of these lanes: first the ticker, whose last tick is still queued, and when
its task has ended the mailbox, which is drained. Dropping a pool abandons its lanes instead; and
the host of the tasks may go down under it.
-/
namespace Lanes

/-- What a lane that is being stopped is waiting for. -/
inductive StopStage where
  | ticker
  | consumer
  | finished
  deriving DecidableEq, Repr

/-- A lane that is being stopped. -/
structure LaneStop where
  place : Nat
  stage : StopStage

namespace Pool
variable {α β γ σ : Type}

/-- Closes the mailbox of the lane at a place. -/
def closeMailbox (p : Pool α β γ σ) (place : Nat) (lane : Lane α β γ) : Pool α β γ σ :=
  match lane.mailbox.close? with
  | .error _ => p
  | .ok mailbox =>
    (p.updateLane place (fun l => { l with mailbox })).note (.mailbox place lane.id .closed)

/-- Goes on once the ticker of a lane has ended: its mailbox is closed. -/
def passTicker (p : Pool α β γ σ) (stop : LaneStop) : LaneStop × Pool α β γ σ :=
  match stop.stage, p.lanes[stop.place]? with
  | .ticker, some lane =>
    match lane.metronome with
    | none => (⟨stop.place, .consumer⟩, p.closeMailbox stop.place lane)
    | some metronome =>
      if metronome.phase.ended then
        let known :=
          if metronome.phase = .aborted then p.noteTicker stop.place lane.id .foundAborted else p
        (⟨stop.place, .consumer⟩, known.closeMailbox stop.place lane)
      else (stop, p)
  | _, _ => (stop, p)

/-- Goes on once the consumer of a lane has ended: the lane has stopped. -/
def passConsumer (p : Pool α β γ σ) (stop : LaneStop) : LaneStop × Pool α β γ σ :=
  match stop.stage, p.lanes[stop.place]? with
  | .consumer, some lane =>
    if lane.mailbox.phase.ended then
      let known :=
        if lane.mailbox.phase = .aborted then
          p.note (.mailbox stop.place lane.id .foundAborted)
        else p
      (⟨stop.place, .finished⟩, known.note (.stopped lane.id))
    else (stop, p)
  | _, _ => (stop, p)

/-- Takes the stop of a lane as far as it can go now. -/
def advanceStop (p : Pool α β γ σ) (stop : LaneStop) : LaneStop × Pool α β γ σ :=
  let passed := p.passTicker stop
  passed.2.passConsumer passed.1

/-- Begins to stop the lane at a place: its ticker is closed, if it has one. -/
def beginStop (p : Pool α β γ σ) (place : Nat) : LaneStop × Pool α β γ σ :=
  match p.lanes[place]? with
  | none => (⟨place, .finished⟩, p)
  | some lane =>
    match lane.metronome with
    | none => p.advanceStop ⟨place, .ticker⟩
    | some metronome =>
      match metronome.close? with
      | .error _ => p.advanceStop ⟨place, .ticker⟩
      | .ok closed =>
        let cancelled := (p.updateMetronome place (fun _ => closed)).noteTicker place lane.id
          .cancelled
        cancelled.advanceStop ⟨place, .ticker⟩

/-- Does something with one lane after the other. -/
def forEach {ι : Type} (f : Pool α β γ σ → ι → LaneStop × Pool α β γ σ) :
    List ι → Pool α β γ σ → List LaneStop × Pool α β γ σ
  | [], p => ([], p)
  | x :: rest, p =>
    let first := f p x
    let others := forEach f rest first.2
    (first.1 :: others.1, others.2)

def stopsFinished (stops : List LaneStop) : Bool :=
  stops.all (fun stop => stop.stage = .finished)

/-- The shutdown is complete when all lanes have stopped. -/
def concludeQuit (quitting : List LaneStop × Pool α β γ σ) : List LaneStop × Pool α β γ σ :=
  if stopsFinished quitting.1 then (quitting.1, quitting.2.note .shutdownComplete) else quitting

/-- Tells the pool to quit. Who does so waits for all the stops to finish. -/
def beginQuit (p : Pool α β γ σ) : List LaneStop × Pool α β γ σ :=
  let places := p.roster.entries.map Prod.snd
  let emptied := { p with roster := .empty, routes := .empty, laneCount := 0 }.note
    (.stopping places.length)
  concludeQuit (forEach beginStop places emptied)

/-- Takes a shutdown that has not finished as far as it can go now. -/
def advanceQuit (p : Pool α β γ σ) (stops : List LaneStop) : List LaneStop × Pool α β γ σ :=
  if stopsFinished stops then (stops, p) else concludeQuit (forEach advanceStop stops p)

/-! ### Abandonment -/

/-- The only holder of a lane goes away. Its ticker beats a last time; its mailbox has no senders
any more once the ticker has ended. -/
def abandonLane (p : Pool α β γ σ) (place : Nat) : Pool α β γ σ :=
  match p.lanes[place]? with
  | none => p
  | some lane =>
    let dropped := p.updateLane place (fun l => { l with dropped := true })
    if lane.tickerEnded then dropped.orphanIfAbandoned place lane.id true
    else
      (dropped.updateMetronome place (·.drop)).noteTicker place lane.id .cancelled

/-- The pool is dropped while nobody holds one of its lanes. -/
def abandon (p : Pool α β γ σ) : Pool α β γ σ :=
  let places := p.roster.entries.map Prod.snd
  places.foldl abandonLane { p with roster := .empty, routes := .empty, laneCount := 0 }

/-- The host of the tasks of the lane at a place goes down. -/
def abortLane (p : Pool α β γ σ) (place : Nat) : Pool α β γ σ :=
  match p.lanes[place]? with
  | none => p
  | some lane =>
    let silenced :=
      if lane.tickerEnded then p
      else (p.updateMetronome place (·.abort)).noteTicker place lane.id .aborted
    if lane.mailbox.phase.ended then silenced
    else
      (silenced.updateLane place (fun l => { l with mailbox := l.mailbox.abort })).note
        (.mailbox place lane.id .aborted)

/-- The host of all tasks goes down. -/
def abort (p : Pool α β γ σ) : Pool α β γ σ :=
  (List.range p.lanes.length).foldl abortLane p

end Pool
end Lanes
