import Lanes.Mailbox
import Lanes.Metronome
import Lanes.Table

/-!
# Lanes

A lane handles its requests one at a time: it has a mailbox with one consumer, a table of bound
objects and possibly a ticker. The ticker does not call the handler. Each beat puts a tick into the
mailbox, behind the requests that wait there, unless the last tick is still waiting.
-/
namespace Lanes

/-- What the mailbox of a lane carries. -/
inductive LaneMessage (α : Type) where
  | request (payload : α)
  | tick
  deriving DecidableEq

/-- One lane, handling requests `α` with replies `β` on objects `γ`. -/
structure Lane (α β γ : Type) where
  id : LaneId
  mailbox : Mailbox (LaneMessage α) (Option β)
  metronome : Option Metronome
  /-- Whether a tick waits in the mailbox. -/
  tickPending : Bool
  table : Table γ
  /-- Whether nobody holds the lane any more. -/
  dropped : Bool

namespace Lane
variable {α β γ : Type}

def new (id : LaneId) (capacity : Nat) (tick : Option Duration) : Lane α β γ :=
  ⟨id, .new capacity, tick.map .new, false, .empty, false⟩

/-- Number of requests and ticks that wait. -/
def pending (lane : Lane α β γ) : Nat := lane.mailbox.size

/-- The period of the ticker, if there is one. -/
def tickPeriod (lane : Lane α β γ) : Option Duration := lane.metronome.map (·.period)

/-- Changes the period of the ticker. -/
def retime (lane : Lane α β γ) (seconds : Binary64) : Except Error (Lane α β γ) :=
  match lane.metronome with
  | none => .error (.unconfigured "lane ticker")
  | some metronome => (metronome.retime seconds).map (fun m => { lane with metronome := some m })

/-- A beat of the ticker: how it ended, the tick that it put into the mailbox, and the lane
afterwards. A mailbox that is closed already is no failure. -/
def beat (lane : Lane α β γ) :
    Outcome Unit × Option (Envelope (LaneMessage α)) × Lane α β γ :=
  if lane.tickPending then (.returned (), none, lane)
  else
    match lane.mailbox.accept? .tick false with
    | .ok (envelope, mailbox) =>
      (.returned (), some envelope, { lane with mailbox, tickPending := true })
    | .error .alreadyClosed => (.returned (), none, lane)
    | .error cause => (.failed cause, none, lane)

/-- Takes the oldest message out of the mailbox. -/
def take (lane : Lane α β γ) (message : LaneMessage α) : Lane α β γ :=
  match message with
  | .request _ => { lane with mailbox := lane.mailbox.take }
  | .tick => { lane with mailbox := lane.mailbox.take, tickPending := false }

/-- Whether the task of the ticker is over, or there is none. -/
def tickerEnded (lane : Lane α β γ) : Bool :=
  match lane.metronome with
  | none => true
  | some metronome => metronome.phase.ended

end Lane
end Lanes
