import Lanes.Pool.Traffic

/-!
# Background tasks of a pool

Each lane has a consumer, which hands requests and ticks to the pool's handler, and possibly the
task of a ticker. A handler may push requests to any live lane while it handles one.
-/
namespace Lanes

/-- A push to a live lane, asked for by the handler. -/
structure Forward (α : Type) where
  lane : LaneId
  request : α

/-- The behaviour that all lanes of a pool share. Each call knows the lane, the moment, the table of
the lane and what the handler remembers. -/
structure Handler (α β γ σ : Type) where
  process : LaneId → Moment → α → Table γ → σ →
    Call (Forward α) (Except Error Unit) (Outcome β × Table γ × σ)
  onTick : LaneId → Moment → Table γ → σ → Outcome Unit × Table γ × σ :=
    fun _ _ table memory => (.returned (), table, memory)
  onQuit : LaneId → Moment → σ → Outcome Unit × σ :=
    fun _ _ memory => (.returned (), memory)

namespace Pool
variable {α β γ σ : Type}

/-- Whether the consumer of the lane at a place has something to do. -/
def consumerDue (p : Pool α β γ σ) (place : Nat) : Bool :=
  match p.lanes[place]? with
  | none => false
  | some lane =>
    match lane.mailbox.turn with
    | .wait => false
    | _ => true

/-- Does what a handler asks for. -/
def forward (question : Forward α) (p : Pool α β γ σ) : Except Error Unit × Pool α β γ σ :=
  match p.place? question.lane with
  | .error cause => (.error cause, p)
  | .ok place => p.push place question.request

/-- Calls the handler for a message that was taken out of the mailbox of a lane. -/
def handle (h : Handler α β γ σ) (now : Moment) (id : LaneId) (table : Table γ)
    (message : LaneMessage α) (p : Pool α β γ σ) :
    (Outcome (Option β) × Table γ × σ) × Pool α β γ σ :=
  match message with
  | .request request =>
    let ran := (h.process id now request table p.memory).run forward p
    ((ran.1.1.map some, ran.1.2), ran.2)
  | .tick =>
    let ticked := h.onTick id now table p.memory
    ((ticked.1.map (fun _ => none), ticked.2), p)

/-- Takes the oldest message of a lane, has it handled and leaves the reply. -/
def dispatch (h : Handler α β γ σ) (now : Moment) (place : Nat) (lane : Lane α β γ)
    (envelope : Envelope (LaneMessage α)) (p : Pool α β γ σ) : Pool α β γ σ :=
  let taken := p.updateLane place (fun l => l.take envelope.payload)
  let handled := handle h now lane.id lane.table envelope.payload taken
  let outcome := handled.1.1
  let remembered := { handled.2 with memory := handled.1.2.2 }
  (remembered.updateLane place (fun l => { l with
      table := handled.1.2.1
      mailbox := l.mailbox.answer envelope (Mailbox.verdict (some outcome)) })).note
    (.mailbox place lane.id (.dispatched envelope (some outcome)))

/-- Moves the consumer of a lane on to another phase. -/
def enter (p : Pool α β γ σ) (place : Nat) (id : LaneId) (phase : ConsumerPhase)
    (event : Mailbox.Event (LaneMessage α) (Option β)) : Pool α β γ σ :=
  (p.updateLane place (fun l => { l with mailbox := l.mailbox.enter phase })).note
    (.mailbox place id event)

/-- The handler's last call for a lane. -/
def finish (h : Handler α β γ σ) (now : Moment) (place : Nat) (id : LaneId)
    (p : Pool α β γ σ) : Pool α β γ σ :=
  let ran := h.onQuit id now p.memory
  ({ p with memory := ran.2 }.note (.mailbox place id (.farewell ran.1))).enter place id .stopped
    .stopped

/-- The next step of the consumer of the lane at a place. -/
def consume (h : Handler α β γ σ) (now : Moment) (place : Nat) (p : Pool α β γ σ) :
    Pool α β γ σ :=
  match p.lanes[place]? with
  | none => p
  | some lane =>
    match lane.mailbox.turn with
    | .wait => p
    | .start => p.enter place lane.id .receiving .started
    | .drain => p.enter place lane.id .draining (.draining lane.mailbox.size)
    | .dispatch envelope => p.dispatch h now place lane envelope
    | .finish => p.finish h now place lane.id

/-! ### Tickers -/

/-- Whether the ticker of the lane at a place has something to do. -/
def tickerDue (p : Pool α β γ σ) (now : Moment) (place : Nat) : Bool :=
  match (p.lanes[place]?).bind (·.metronome) with
  | none => false
  | some metronome => metronome.due now

def noteTicker (p : Pool α β γ σ) (place : Nat) (id : LaneId) (event : Metronome.Event) :
    Pool α β γ σ :=
  p.note (.ticker place id event)

/-- One beat of the ticker of the lane at a place. -/
def fire (place : Nat) (lane : Lane α β γ) (p : Pool α β γ σ) : Pool α β γ σ :=
  let beaten := lane.beat
  let changed := p.updateLane place (fun _ => beaten.2.2)
  let heard := match beaten.2.1 with
    | some envelope => changed.note (.mailbox place lane.id (.accepted envelope))
    | none => changed
  heard.noteTicker place lane.id (.fired beaten.1)

/-- Changes the metronome of the lane at a place. -/
def updateMetronome (p : Pool α β γ σ) (place : Nat) (f : Metronome → Metronome) :
    Pool α β γ σ :=
  p.updateLane place (fun lane => { lane with metronome := lane.metronome.map f })

/-- A lane that nobody holds has no senders once its ticker has ended. -/
def orphanIfAbandoned (place : Nat) (id : LaneId) (dropped : Bool) (p : Pool α β γ σ) :
    Pool α β γ σ :=
  if dropped then
    (p.updateLane place (fun lane => { lane with mailbox := lane.mailbox.orphan })).note
      (.mailbox place id .orphaned)
  else p

/-- What the task of a ticker does when it wakes up: a beat and a new sleep, or the last beat and
the end. -/
def tick (now : Moment) (place : Nat) (p : Pool α β γ σ) : Pool α β γ σ :=
  match p.lanes[place]? with
  | none => p
  | some lane =>
    match lane.metronome with
    | none => p
    | some metronome =>
      if metronome.due now then
        let started :=
          if metronome.phase = .spawned then p.noteTicker place lane.id (.started metronome.period)
          else p
        let fired := started.fire place lane
        if metronome.cancelled then
          ((fired.updateMetronome place (·.stop)).noteTicker place lane.id .stopped)
            |>.orphanIfAbandoned place lane.id lane.dropped
        else
          (fired.updateMetronome place (·.rest now)).noteTicker place lane.id
            (.resting (now.after metronome.period))
      else p

end Pool
end Lanes
