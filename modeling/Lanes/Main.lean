import Lanes.Demo.Program

/-!
# The command line

Reads the environment, runs the demo and prints what it tells.
-/
namespace Lanes.Demo

/-- The variables that matter and are set, with their values. -/
def readEnvironment : IO (List (String × String)) := do
  let found ← variableNames.mapM (fun name => do return (← IO.getEnv name).map (fun v => (name, v)))
  return found.filterMap id

/-- Runs the demo, its log going to the output, and gives its exit code. -/
def perform (arguments : List String) : IO Nat := do
  let environment ← readEnvironment
  let spareSeed ← IO.rand 0 0xffffffffffffffff
  let ended := execute arguments environment (.ofNat spareSeed)
  for line in ended.2 do
    IO.println line.render
  match ended.1.remark? with
  | some (.answer text) => IO.println text
  | some (.complaint text) => IO.eprintln text
  | none => pure ()
  return ended.1.code

end Lanes.Demo

def main (arguments : List String) : IO UInt32 := do
  return .ofNat (← Lanes.Demo.perform arguments)
