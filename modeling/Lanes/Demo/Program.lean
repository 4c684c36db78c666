import Lanes.Demo.Arguments
import Lanes.Demo.LogFilter
import Lanes.Demo.Run

/-!
# The demo as a program

A program run goes from arguments and environment to an exit code, possibly a text that explains a
failure, and the log lines that the filter lets through.
-/
namespace Lanes.Demo

/-- How a program run ends. -/
inductive Exit where
  /-- The settings could not be read, or only help was wanted. -/
  | rejected (reason : Rejection)
  | misconfigured (fault : ConfigFault)
  /-- The log filter broke the program off. -/
  | aborted
  | failed (cause : Error)
  | finished (totals : Totals)
  deriving DecidableEq, Repr

namespace Exit

def code : Exit → Nat
  | rejected reason => reason.exitCode
  | misconfigured _ | failed _ => 1
  | aborted => 101
  | finished _ => 0

/-- The line that explains a failure of the run itself. -/
def explanation? : Exit → Option String
  | misconfigured fault => some ("Error: " ++ fault.message)
  | failed cause => some ("Error: " ++ cause.message)
  | rejected _ | aborted | finished _ => none

end Exit

/-- One line for every option. -/
def help : String :=
  "Drives a sharded worker pool with simulated session traffic\n\nOptions:" ++
    String.join (Setting.all.map (fun s =>
      "\n  --" ++ s.optionName ++ " <VALUE>  (variable " ++ s.variableName ++ ")")) ++
    "\n  -h, --help\n  -V, --version"

def version : String := "lanes 0.1.0"

/-- What the program has to say besides its log. -/
inductive Remark where
  /-- What was asked for. -/
  | answer (text : String)
  /-- What went wrong. -/
  | complaint (text : String)
  deriving DecidableEq, Repr

def Exit.remark? : Exit → Option Remark
  | .rejected .helpWanted => some (.answer help)
  | .rejected .versionWanted => some (.answer version)
  | .rejected reason => some (.complaint ("error: " ++ reason.message))
  | exit => exit.explanation?.map .complaint

/-- The variable that holds the log filter. -/
def filterVariable : String := "RUST_LOG"

/-- All variables that matter. -/
def variableNames : List String := filterVariable :: Setting.all.map Setting.variableName

/-- Runs the program. The spare seed is used where none is set. -/
def execute (arguments : List String) (environment : List (String × String)) (spareSeed : UInt64) :
    Exit × List LogLine :=
  match Settings.read arguments environment with
  | .error reason => (.rejected reason, [])
  | .ok settings =>
    match Config.ofSettings settings with
    | .error fault => (.misconfigured fault, [])
    | .ok config =>
      match LogFilter.ofSetting? (environment.lookup filterVariable) with
      | none => (.aborted, [])
      | some filter =>
        let ran := config.run ((config.seed.map UInt64.ofNat).getD spareSeed)
        let exit := match ran.1 with
          | .error cause => Exit.failed cause
          | .ok totals => Exit.finished totals
        (exit, ran.2.filter filter.shows)

end Lanes.Demo
