import Lanes.Demo.Config
import Lanes.Random.Wide
import Lanes.Simulation.Session

/-!
# A run of the demo

Producers send random session events to a pool that keeps sessions, on the virtual clock: one event
each at the beginning and after every millisecond of the run. Then the pool quits, and the audit
after it. The run tells in log lines what it does and how much came of it.
-/
namespace Lanes.Demo

open Simulation

/-- What a run amounted to. -/
structure Totals where
  sent : Nat
  rejected : Nat
  stats : SessionStats
  /-- Sessions that were open when the shutdown began. -/
  openAtShutdown : Nat
  audited : Nat
  deriving DecidableEq, Repr

namespace Totals

/-- Events in a second. A run without any duration counts as one of `2 ^ -52` seconds. -/
def rate (t : Totals) (elapsed : Duration) : Nat :=
  if elapsed.isZero then t.sent <<< 52
  else Rounding.halfEven (t.sent * Duration.perSecond) elapsed.nanos

def sentText (t : Totals) (elapsed : Duration) : String :=
  s!"Sent {t.sent} events in " ++ elapsed.roundedText ++ s!" ({t.rate elapsed}/s), " ++
    s!"{t.rejected} rejected by full lanes"

def sessionsText (t : Totals) : String :=
  s!"Sessions: {t.stats.opened} opened, {t.stats.closed} closed, {t.stats.expired} expired, " ++
    s!"{t.openAtShutdown} open at shutdown; {t.stats.ticks} maintenance ticks; " ++
    s!"{t.audited} audit records"

end Totals

/-! ### Producers -/

/-- A source of session events. -/
structure Producer where
  generator : Generator
  sent : Nat
  rejected : Nat

namespace Producer

/-- The producers of a run, each with a seed of its own. -/
def all (count : Nat) (seed : UInt64) : List Producer :=
  (List.range count).map (fun i => ⟨.seeded (seed + .ofNat (i + 1)), 0, 0⟩)

/-- Draws an event for one of the sessions. -/
def draw (config : Config) (p : Producer) : (ObjectId × SessionEvent) × Producer :=
  let session := p.generator.belowWide config.sessions.toNat
  let closing := session.2.chance config.closeRatio
  ((((session.1 + 1 : Nat) : Int), if closing.1 then .close else .touch),
    { p with generator := closing.2 })

/-- Counts what became of an event for a session. -/
def count (session : ObjectId) (answer : PoolAnswer Nat Session BookAnswer) (p : Producer) :
    List LogLine × Producer :=
  match answer with
  | .replies values =>
    match values.get? session with
    | some (.error (.queueFull _)) => ([], { p with rejected := p.rejected + 1 })
    | some (.error cause) =>
      ([⟨.warn, .demo, s!"Event for session {session} failed: " ++ cause.message⟩], p)
    | _ => ([], { p with sent := p.sent + 1 })
  | .failed cause => ([⟨.error, .demo, "Producer stopped: " ++ cause.message⟩], p)
  | _ => ([], p)

end Producer

/-! ### The audit -/

namespace Audit

/-- How long the reader of the audit pauses when it finds nothing. -/
def rate : Duration := .ofMillis 50

/-- Reads a record and counts it. -/
def reader : Consumer AuditRecord Nat := fun _ _ count => .done (.returned (), count + 1)

/-- The lines of an event of the audit backlog; a record that is read is told in full. -/
def lines : BacklogEvent AuditRecord → List LogLine
  | .delivered record outcome =>
    ⟨.trace, .demo, record.text⟩ :: (BacklogEvent.delivered record outcome).lines
  | event => event.lines

/-- Lets the reader work, for at most so many steps. -/
def work (now : Moment) : Nat → Backlog AuditRecord Nat → Backlog AuditRecord Nat
  | 0, audit => audit
  | n + 1, audit => if audit.due now then work now n (audit.wake now) else audit

/-- Lets the reader work until it pauses. -/
def workAll (now : Moment) (audit : Backlog AuditRecord Nat) : Backlog AuditRecord Nat :=
  work now (audit.size + 1) audit

/-- Ends the audit: the reader stops, and the records that are left are handed to it. -/
def quit (now : Moment) (audit : Backlog AuditRecord Nat) : Backlog AuditRecord Nat :=
  (workAll now audit.close.2).acknowledgeEnd.finish false now

end Audit

/-! ### The stage -/

/-- A run under way; the lines told so far have the latest first. -/
structure Stage where
  world : SessionWorld
  producers : List Producer
  lines : List LogLine

namespace Stage

def tell (s : Stage) (lines : List LogLine) : Stage :=
  { s with lines := lines.reverse ++ s.lines }

def say (s : Stage) (text : String) : Stage := s.tell [⟨.info, .demo, text⟩]

/-- Takes the lines of the book and of the audit. -/
def takeLines (book : SessionBook) : List LogLine × SessionBook :=
  (book.lines.reverse ++ book.audit.journal.reverse.flatMap Audit.lines,
    { book with lines := [], audit := { book.audit with journal := [] } })

variable (rules : SessionRules)

/-- Takes a step in the world and gives the answer to its first command. -/
def take (step : World.Step SessionOp) (s : Stage) :
    Option (PoolAnswer Nat Session BookAnswer) × Stage :=
  let taken := s.world.take (PoolState.system rules.handler takeLines) step
  ((taken.1.1.head?).join, { s with world := taken.2 }.tell taken.1.2)

/-- Calls the pool, leaving its lanes alone. -/
def call (op : SessionOp) (s : Stage) : Option (PoolAnswer Nat Session BookAnswer) × Stage :=
  s.take rules (.call (.operate op))

/-- Changes the audit. -/
def onAudit (change : Moment → Backlog AuditRecord Nat → Backlog AuditRecord Nat) (s : Stage) :
    Stage :=
  (s.call rules (SessionPool.onBook (fun now book =>
    (.quit (.ok ()), { book with audit := change now book.audit })))).2

/-- One producer sends an event. -/
def produce (config : Config) (s : Stage) (p : Producer) : Producer × Stage :=
  let drawn := p.draw config
  let session := drawn.1.1
  let called := s.call rules (.sendEach drawn.1 [session] false)
  match called.1 with
  | none => (drawn.2, called.2)
  | some answer =>
    let counted := drawn.2.count session answer
    (counted.2, called.2.tell counted.1)

/-- One producer after the other sends an event. -/
def produceEach (config : Config) : List Producer → Stage → List Producer × Stage
  | [], s => ([], s)
  | p :: rest, s =>
    let first := s.produce rules config p
    let others := produceEach config rest first.2
    (first.1 :: others.1, others.2)

/-- Every producer sends an event; then the lanes and the audit work. -/
def round (config : Config) (s : Stage) : Stage :=
  let produced := produceEach rules config s.producers s
  (({ produced.2 with producers := produced.1 }.take rules .settle).2).onAudit rules Audit.workAll

/-- One round at once and another after every one of so many milliseconds. -/
def rounds (config : Config) : Nat → Stage → Stage
  | 0, s => s.round rules config
  | n + 1, s => rounds config n ((s.round rules config).take rules (.advance 1)).2

/-- Number of the sessions that live lanes keep. -/
def openSessions (s : Stage) : Nat :=
  let pool := s.world.component.pool
  (pool.roster.entries.flatMap (fun entry => (pool.tableAt entry.2).entries)).length

def totals (openAtShutdown : Nat) (s : Stage) : Totals :=
  let book := s.world.component.pool.memory
  ⟨s.producers.foldl (fun n p => n + p.sent) 0, s.producers.foldl (fun n p => n + p.rejected) 0,
    book.stats, openAtShutdown, book.audit.memory⟩

/-- The run once the pool has its lanes. -/
def perform (config : Config) (s : Stage) : Totals × Stage :=
  let ran := (s.rounds rules config (config.duration.nanos / Moment.resolution)).say
    ("Run finished after " ++ config.duration.text)
  let stopping := ran.say "Shutdown signal received, terminating gracefully..."
  let stopped := (stopping.take rules (.concurrent [.operate .quit])).2
  let ended := stopped.onAudit rules Audit.quit
  let totals := ended.totals ran.openSessions
  (totals, (ended.say (totals.sentText config.duration)).say totals.sessionsText)

end Stage

/-! ### The run -/

/-- The pool of a run, before it has lanes. -/
def startingPool (config : Config) (seed : UInt64) : SessionWorld :=
  let audit := ((Backlog.new 0).employ Audit.reader Audit.rate).2
  PoolState.world ⟨config.queueCapacity, config.tickPeriod⟩ seed ⟨⟨0, 0, 0, 0⟩, audit, []⟩ false

/-- Runs the demo: what it amounted to, or why it could not begin, and what it told. -/
def Config.run (config : Config) (seed : UInt64) : Except Error Totals × List LogLine :=
  let opening : Stage := ⟨startingPool config seed, Producer.all config.producers seed, []⟩
  let begun := opening.say
    s!"Starting session demo with {config.lanes} lanes and {config.producers} producers"
  match SessionPool.regionRing (config.regions.map (fun region => (region, 0))) with
  | .error cause => (.error cause, begun.lines.reverse)
  | .ok ring =>
    let rules : SessionRules := ⟨ring, config.idleTimeout⟩
    let created := begun.call rules (.create config.lanes (some ⟨0⟩))
    match created.1 with
    | some (.failed cause) => (.error cause, created.2.lines.reverse)
    | _ =>
      let performed := created.2.perform rules config
      (.ok performed.1, performed.2.lines.reverse)

end Lanes.Demo
