import Lanes.Error
import Lanes.Log

/-!
# Callbacks

A callback ends in an `Outcome`: it returns, it fails, or it panics. `Outcome.contain` is the
boundary that turns a panic into an error, so that whoever ran the callback goes on.

While it runs, a callback may call back into the component that runs it. A `Call` is such a run,
written as a tree: it ends, or it asks one thing and goes on with the answer. Every branch is
finite, so running a call (`Call.run`) always comes to an end.
-/
namespace Lanes

/-- What a panic carries: a text, or something that is no text. -/
inductive Panic where
  | text (message : String)
  | other
  deriving DecidableEq, Repr

def Panic.message : Panic → String
  | text message => message
  | other => "unknown panic payload"

/-- How a callback ended. -/
inductive Outcome (α : Type) where
  | returned (value : α)
  | failed (cause : Error)
  | panicked (panic : Panic)
  deriving DecidableEq, Repr

/-- Where a callback runs. -/
inductive Site where
  | queue
  | queueQuit
  | backlog
  | ticker
  | tickerQuit
  deriving DecidableEq, Repr

def Site.name : Site → String
  | queue => "queue"
  | queueQuit => "queue quit"
  | backlog => "list consumer"
  | ticker => "ticker"
  | tickerQuit => "ticker quit"

namespace Outcome
variable {α β : Type}

/-- The outcome as seen from outside: a panic has become an internal error that names the site. -/
def contain (site : Site) : Outcome α → Except Error α
  | returned value => .ok value
  | failed cause => .error cause
  | panicked panic => .error (.internal (site.name ++ ": " ++ panic.message))

/-- The line that a contained panic leaves in the log. -/
def alarm (site : Site) : Outcome α → List LogLine
  | panicked panic => [⟨.error, .callback, site.name ++ " callback panicked: " ++ panic.message⟩]
  | _ => []

def map (f : α → β) : Outcome α → Outcome β
  | returned value => .returned (f value)
  | failed cause => .failed cause
  | panicked panic => .panicked panic

def ofExcept : Except Error α → Outcome α
  | .ok value => .returned value
  | .error cause => .failed cause

@[simp] theorem contain_returned (site : Site) (value : α) :
    (returned value).contain site = .ok value := rfl

@[simp] theorem contain_failed (site : Site) (cause : Error) :
    (failed cause : Outcome α).contain site = .error cause := rfl

@[simp] theorem contain_ofExcept (site : Site) (result : Except Error α) :
    (ofExcept result).contain site = result := by
  cases result <;> rfl

end Outcome

/-- A run of a callback that may ask things of type `ask`, each answered by an `answer`. -/
inductive Call (ask answer result : Type) where
  | done (value : result)
  | ask (question : ask) (resume : answer → Call ask answer result)

namespace Call
variable {ask answer result world : Type}

/-- Runs a call in a world that answers its questions one after the other. -/
def run (perform : ask → world → answer × world) :
    Call ask answer result → world → result × world
  | done value, w => (value, w)
  | .ask question resume, w =>
    let answered := perform question w
    (resume answered.1).run perform answered.2

@[simp] theorem run_done (perform : ask → world → answer × world) (value : result) (w : world) :
    (done value : Call ask answer result).run perform w = (value, w) := rfl

theorem run_ask (perform : ask → world → answer × world) (question : ask)
    (resume : answer → Call ask answer result) (w : world) :
    (Call.ask question resume).run perform w =
      (resume (perform question w).1).run perform (perform question w).2 := rfl

end Call
end Lanes
