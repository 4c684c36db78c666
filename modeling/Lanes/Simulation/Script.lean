import Lanes.Callback

/-!
# Scripted callbacks

In a simulation, what a callback does is written in what it is given: each request, item or tick
names an action. The actions that every callback knows only end it in one way or another.
-/
namespace Lanes.Simulation

/-- An action that every callback knows. -/
inductive Ending where
  | ok (n : Int)
  | fail (reason : String)
  | err (cause : Error)
  | panic (panic : Panic)
  /-- The name of no action. -/
  | unknown (name : String)

namespace Ending

def outcome : Ending → Outcome Int
  | ok n => .returned n
  | fail reason => .failed (.callback reason)
  | err cause => .failed cause
  | panic p => .panicked p
  | unknown name => .failed (.callback ("unknown request " ++ name))

/-- The outcome where no value is wanted. -/
def conclusion (e : Ending) : Outcome Unit := e.outcome.map (fun _ => ())

end Ending

/-- What a callback says when the component that it calls back into is gone. -/
def gone (component : String) : Error := .callback (component ++ " dropped")

end Lanes.Simulation
