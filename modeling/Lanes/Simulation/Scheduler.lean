import Lanes.Log
import Lanes.Moment

/-!
# Simulated time

A simulation runs the background tasks of a component and one caller on one virtual clock. Who has
something to do waits in a list, first in, first out. The one in front runs until it has to wait,
gives way to the others or has used up its allowance. Those who gave way or ran out are let in
again, the latest first, when nobody else is ready or after a number of runs. The clock stands still
until nobody can run; then it may jump to the next timer. Tasks whose host is not running never run.

The caller runs like the tasks. It begins its commands, waits for their answers, and then gives way
until it finds that nobody but itself can run.
-/
namespace Lanes.Simulation

/-- What an event in a component means for its tasks. -/
inductive Signal (τ : Type) where
  /-- The task may have something to do. -/
  | wake (task : τ)
  /-- The task sleeps until a moment. -/
  | sleep (task : τ) (wakeAt : Moment)
  /-- The task gives way. -/
  | yield (task : τ)
  /-- A call may be able to go on. -/
  | caller

/-- A component with tasks `τ`, whose operations `op` give an answer `ρ` at once or leave a call
`ω` that waits. -/
structure System (state τ op ω ρ : Type) where
  /-- Whether a task has something to do. -/
  due : Moment → τ → state → Bool
  /-- One step of a task. -/
  step : Moment → τ → state → state
  /-- Whether a task needs some of its allowance to go on, be it only to find nothing to do. -/
  rationed : τ → state → Bool := fun _ _ => false
  /-- What the next step of a task takes from its allowance. -/
  cost : τ → state → Nat := fun _ _ => 0
  begin_ : Moment → op → state → Sum ρ ω × state
  /-- What every command answers once the caller has let go of the component. -/
  gone? : state → Option ρ := fun _ => none
  /-- Takes a waiting call as far as it can go. -/
  poll : Moment → ω → state → Sum ρ ω × state
  /-- Takes the new events out of the component's journal. -/
  collect : state → (List (Signal τ) × List LogLine) × state
  /-- The host of the tasks goes down. -/
  abort : state → state
  ofBool : Bool → ρ

/-- Whose turn it is. -/
inductive Runner (τ : Type) where
  | task (name : τ)
  | caller
  deriving DecidableEq

/-- What the caller is about. -/
inductive CallerMode where
  /-- It has the floor. -/
  | active
  /-- It waits for answers to its calls. -/
  | waiting
  | asleep
  /-- It gives way until nobody else can run. -/
  | settling
  deriving DecidableEq

/-- A component, the clock and who waits for what. -/
structure World (state τ ω ρ : Type) where
  component : state
  now : Moment
  /-- Who can run, the next in front. -/
  ready : List (Runner τ)
  /-- Who gave way, the latest in front. -/
  deferred : List (Runner τ)
  /-- How many runs have ended since those who gave way were let in. -/
  runs : Nat
  /-- What the task in front has used of its allowance. -/
  spent : Nat
  /-- Who sleeps until when, in order of falling asleep. -/
  timers : List (Moment × Runner τ)
  /-- Whether tasks belong to a host that is not running. -/
  hosted : Bool
  caller : CallerMode
  /-- Calls of the caller in order, each with its answer or still waiting. -/
  calls : List (Sum ρ ω)
  lines : List LogLine

variable {state τ op ω ρ : Type} [DecidableEq τ]

namespace World

/-- The world of a component whose first tasks have just been spawned. -/
def start (component : state) (tasks : List τ) (hosted : Bool) : World state τ ω ρ :=
  ⟨component, 0, if hosted then [] else tasks.map .task, [], 0, 0, [], hosted, .active, [], []⟩

def waits (w : World state τ ω ρ) : Bool := w.calls.any Sum.isRight

/-- Whether nobody can run. -/
def idle (w : World state τ ω ρ) : Bool := w.ready.isEmpty && w.deferred.isEmpty

/-- Puts a runner behind the others, unless it has its place already. -/
def enqueue (w : World state τ ω ρ) (runner : Runner τ) : World state τ ω ρ :=
  if runner ∈ w.ready ∨ runner ∈ w.deferred then w else { w with ready := w.ready ++ [runner] }

/-- Has a runner give way. -/
def defer (w : World state τ ω ρ) (runner : Runner τ) : World state τ ω ρ :=
  { w with deferred := runner :: w.deferred }

/-- Lets in those who gave way. -/
def admitDeferred (w : World state τ ω ρ) : World state τ ω ρ :=
  { w with ready := w.ready ++ w.deferred, deferred := [], runs := 0 }

/-- The number of runs after which those who gave way are let in though others are ready. -/
def stretch : Nat := 61

/-- The runner that was in front comes to a halt. -/
def endRun (w : World state τ ω ρ) : World state τ ω ρ :=
  if w.runs + 1 = stretch then { w with spent := 0 }.admitDeferred
  else { w with spent := 0, runs := w.runs + 1 }

/-- Follows a signal that came up while a task was running; what concerns this task itself is seen
when it goes on. -/
def follow (running : Option τ) (w : World state τ ω ρ) : Signal τ → World state τ ω ρ
  | .wake task => if w.hosted ∨ running = some task then w else w.enqueue (.task task)
  | .sleep task wakeAt =>
    if w.hosted then w else { w with timers := w.timers ++ [(wakeAt, .task task)] }
  | .yield task => if w.hosted then w else w.defer (.task task)
  | .caller => if w.waits then w.enqueue .caller else w

/-- Takes in what has happened in the component. -/
def absorb (sys : System state τ op ω ρ) (running : Option τ) (w : World state τ ω ρ) :
    World state τ ω ρ :=
  let collected := sys.collect w.component
  collected.1.1.foldl (follow running)
    { w with component := collected.2, lines := w.lines ++ collected.1.2 }

/-- Takes all waiting calls as far as they can go, in order. -/
def pollAll (sys : System state τ op ω ρ) (now : Moment) :
    List (Sum ρ ω) → state → List (Sum ρ ω) × state
  | [], s => ([], s)
  | .inl answer :: rest, s =>
    let others := pollAll sys now rest s
    (.inl answer :: others.1, others.2)
  | .inr call :: rest, s =>
    let polled := sys.poll now call s
    let others := pollAll sys now rest polled.2
    (polled.1 :: others.1, others.2)

/-- What a task may spend before it has to let the others run. -/
def allowance : Nat := 128

/-- Whether a task in front cannot go on for want of allowance. -/
def exhausted (sys : System state τ op ω ρ) (task : τ) (w : World state τ ω ρ) : Bool :=
  sys.rationed task w.component && allowance ≤ w.spent

/-- One step of a task that is due. It stays in front until it gives way or has to wait. -/
def runTask (sys : System state τ op ω ρ) (task : τ) (rest : List (Runner τ))
    (w : World state τ ω ρ) : World state τ ω ρ :=
  let stepped := absorb sys (some task) { w with
    component := sys.step w.now task w.component
    ready := rest
    spent := w.spent + sys.cost task w.component
    timers := w.timers.filter (fun timer => timer.2 ≠ .task task) }
  if .task task ∉ stepped.deferred ∧
      (sys.due stepped.now task stepped.component ∨ exhausted sys task stepped) then
    { stepped with ready := .task task :: stepped.ready }
  else stepped.endRun

/-- The caller gives way to all others. -/
def giveWay (w : World state τ ω ρ) : World state τ ω ρ :=
  ({ w with caller := .settling }.defer .caller).endRun

/-- The caller waits for answers, or gives way if it has them all. -/
def awaitAnswers (w : World state τ ω ρ) : World state τ ω ρ :=
  if w.waits then { w with caller := .waiting }.endRun else w.giveWay

/-- A run of the caller, which has left its place in front. -/
def runCaller (sys : System state τ op ω ρ) (w : World state τ ω ρ) : World state τ ω ρ :=
  match w.caller with
  | .active => w
  | .waiting =>
    let polled := pollAll sys w.now w.calls w.component
    (absorb sys none { w with calls := polled.1, component := polled.2 }).awaitAnswers
  | .asleep => w.giveWay
  | .settling => if w.idle then { w with caller := .active } else w.giveWay

/-- Lets the runner in front run. With nobody ready, those who gave way are let in. -/
def turn (sys : System state τ op ω ρ) (w : World state τ ω ρ) : World state τ ω ρ :=
  match w.ready with
  | [] => w.admitDeferred
  | .caller :: rest => runCaller sys { w with ready := rest }
  | .task task :: rest =>
    if exhausted sys task w then ({ w with ready := rest }.defer (.task task)).endRun
    else if sys.due w.now task w.component then runTask sys task rest w
    else { w with ready := rest }.endRun

/-- Lets tasks run until the caller has the floor or nobody can run, for at most so many turns. -/
def run (sys : System state τ op ω ρ) : Nat → World state τ ω ρ → World state τ ω ρ
  | 0, w => w
  | fuel + 1, w => if w.caller = .active ∨ w.idle then w else run sys fuel (turn sys w)

/-- Turns that may be taken without moving the clock. -/
def budget : Nat := 1000000

/-- Lets tasks run until nobody can. -/
def settle (sys : System state τ op ω ρ) (w : World state τ ω ρ) : World state τ ω ρ :=
  run sys budget w.giveWay

/-- The first moment at which a sleeper wakes up. -/
def nextTimer (w : World state τ ω ρ) : Option Moment :=
  (w.timers.map Prod.fst).min?

/-- Moves the clock and wakes the sleepers whose time has come. -/
def jump (w : World state τ ω ρ) (moment : Moment) : World state τ ω ρ :=
  let woken := w.timers.filter (fun timer => timer.1 ≤ moment)
  let moved := { w with
    now := moment
    runs := 0
    timers := w.timers.filter (fun timer => moment < timer.1) }
  woken.foldl (fun v timer => v.enqueue timer.2) moved

/-- Lets time pass as long as the caller sleeps, through at most so many timers. -/
def sleepOn (sys : System state τ op ω ρ) : Nat → World state τ ω ρ → World state τ ω ρ
  | 0, w => w
  | fuel + 1, w =>
    let ran := run sys budget w
    match ran.caller, ran.nextTimer with
    | .asleep, some moment => sleepOn sys fuel (ran.jump moment)
    | _, _ => ran

/-- Sleeps for so many milliseconds and lets tasks run. Timers lie on whole milliseconds, so their
number is bounded. -/
def advance (sys : System state τ op ω ρ) (millis : Nat) (w : World state τ ω ρ) :
    World state τ ω ρ :=
  if millis = 0 then settle sys w
  else
    sleepOn sys (millis + 2) { w with
      caller := .asleep
      timers := w.timers ++ [(w.now.after (.ofMillis millis), Runner.caller)] }.endRun

/-- What the caller does: an operation, or the shutdown of the tasks' host. -/
inductive Command (op : Type) where
  | operate (operation : op)
  | shutdown

/-- Begins a command, up to its first wait. -/
def begin_ (sys : System state τ op ω ρ) (w : World state τ ω ρ) (command : Command op) :
    World state τ ω ρ :=
  match sys.gone? w.component, command with
  | some answer, _ => { w with calls := w.calls ++ [.inl answer] }
  | none, .operate operation =>
    let begun := sys.begin_ w.now operation w.component
    absorb sys none { w with calls := w.calls ++ [begun.1], component := begun.2 }
  | none, .shutdown =>
    let answer : Sum ρ ω := .inl (sys.ofBool w.hosted)
    let down := if w.hosted then sys.abort w.component else w.component
    absorb sys none { w with calls := w.calls ++ [answer], component := down, hosted := false }

/-- Answers of the calls; a call that still waits has none. -/
def answers (w : World state τ ω ρ) : List (Option ρ) :=
  w.calls.map (fun call => match call with
    | .inl answer => some answer
    | .inr _ => none)

/-- Begins several commands, waits for all of them and lets tasks run. -/
def perform (sys : System state τ op ω ρ) (commands : List (Command op)) (w : World state τ ω ρ) :
    World state τ ω ρ :=
  run sys budget (commands.foldl (begin_ sys) w).awaitAnswers

/-- What the caller does with its commands. -/
inductive Step (op : Type) where
  /-- Begins a command that answers at once, and leaves the tasks alone. -/
  | call (command : Command op)
  /-- Performs several commands together. -/
  | concurrent (commands : List (Command op))
  /-- Performs one command after the other, and lets tasks run. -/
  | inTurn (commands : List (Command op))
  | settle
  | advance (millis : Nat)

/-- Takes a step: the answers to its commands, the lines that it left in the log, and the world
afterwards. -/
def take (sys : System state τ op ω ρ) (w : World state τ ω ρ) (step : Step op) :
    (List (Option ρ) × List LogLine) × World state τ ω ρ :=
  let taken := match step with
    | .call command => w.begin_ sys command
    | .concurrent commands => w.perform sys commands
    | .inTurn commands => settle sys (commands.foldl (fun v command => v.perform sys [command]) w)
    | .settle => settle sys w
    | .advance millis => advance sys millis w
  ((taken.answers, taken.lines), { taken with caller := .active, calls := [], lines := [] })

end World
end Lanes.Simulation
