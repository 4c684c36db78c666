/-!
# Log lines

What a component has to tell is a level, the component itself and a text. Components keep their own
events and word them as lines; who shows which lines is decided elsewhere.
-/
namespace Lanes

/-- How serious a line is, the gravest last. -/
inductive Level where
  | trace
  | debug
  | info
  | warn
  | error
  deriving DecidableEq, Repr

namespace Level

def name : Level → String
  | trace => "TRACE"
  | debug => "DEBUG"
  | info => "INFO"
  | warn => "WARN"
  | error => "ERROR"

/-- Position on the scale of gravity, `trace` being zero. -/
def rank : Level → Nat
  | trace => 0
  | debug => 1
  | info => 2
  | warn => 3
  | error => 4

end Level

/-- Who has something to tell. -/
inductive LogSource where
  | callback
  | queue
  | backlog
  | ticker
  | pool
  | lane
  | session
  | demo
  deriving DecidableEq, Repr

/-- The name under which the lines of a source are selected. -/
def LogSource.target : LogSource → String
  | callback => "lanepool::guard"
  | queue => "lanepool::queue::bounded"
  | backlog => "lanepool::list::draining"
  | ticker => "lanepool::ticker::periodic"
  | pool => "lanepool::pool::manager"
  | lane => "lanepool::pool::lane"
  | session => "lanepool_demo::session"
  | demo => "lanepool_demo"

/-- One line of the log. -/
structure LogLine where
  level : Level
  source : LogSource
  text : String
  deriving DecidableEq, Repr

/-- A line as it is shown; its source is not. -/
def LogLine.render (line : LogLine) : String :=
  line.level.name ++ " " ++ line.text

end Lanes
