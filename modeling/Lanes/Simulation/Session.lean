import Lanes.Session.Handler
import Lanes.Simulation.Pool

/-!
# Simulated session pools

A pool that keeps sessions, with operations that look at the shared book. Its audit backlog has no
consumer, so records stay until they are popped.
-/
namespace Lanes.Simulation

/-- What looking at the book answers. -/
inductive BookAnswer where
  | record (popped : Option AuditRecord)
  | records (popped : List AuditRecord)
  | stats (stats : SessionStats) (audit : Nat)
  | quit (result : Except Error Unit)

abbrev SessionPool := Pool (ObjectId × SessionEvent) Nat Session SessionBook

abbrev SessionOp := PoolOp (ObjectId × SessionEvent) Nat Session SessionBook BookAnswer

abbrev SessionWorld :=
  World (PoolState (ObjectId × SessionEvent) Nat Session SessionBook) LaneTask PoolWait
    (PoolAnswer Nat Session BookAnswer)

namespace SessionPool

/-- An operation on the book. -/
def onBook (change : Moment → SessionBook → BookAnswer × SessionBook) : SessionOp :=
  .edit (fun now p =>
    let changed := change now p.memory
    (changed.1, { p with memory := changed.2 }))

/-- Pops the oldest audit record. -/
def popAudit : SessionOp := onBook (fun _ book =>
  let popped := book.audit.pop
  (.record popped.1, { book with audit := popped.2 }))

/-- Pops at most so many audit records. -/
def popRecords : Nat → Backlog AuditRecord Nat → List AuditRecord × Backlog AuditRecord Nat
  | 0, audit => ([], audit)
  | n + 1, audit =>
    match audit.pop with
    | (none, rest) => ([], rest)
    | (some entry, rest) =>
      let others := popRecords n rest
      (entry :: others.1, others.2)

/-- Pops all audit records. -/
def drainAudit : SessionOp := onBook (fun _ book =>
  let popped := popRecords book.audit.size book.audit
  (.records popped.1, { book with audit := popped.2 }))

/-- Tells the audit backlog to quit. It has no task to wait for. -/
def quitAudit (force : Bool) : SessionOp := onBook (fun now book =>
  let closed := book.audit.close
  match closed.1 with
  | .error cause => (.quit (.error cause), book)
  | .ok _ => (.quit (.ok ()), { book with audit := closed.2.finish force now }))

def stats : SessionOp := onBook (fun _ book => (.stats book.stats book.audit.size, book))

/-- Takes the lines of the book and of the audit backlog. -/
def takeLines (book : SessionBook) : List LogLine × SessionBook :=
  (book.lines.reverse ++ book.audit.journal.reverse.flatMap (·.lines),
    { book with lines := [], audit := { book.audit with journal := [] } })

def system (rules : SessionRules) :
    System (PoolState (ObjectId × SessionEvent) Nat Session SessionBook) LaneTask SessionOp
      PoolWait (PoolAnswer Nat Session BookAnswer) :=
  PoolState.system rules.handler takeLines

/-- The ring of the regions with their weights. -/
def regionRing (regions : List (String × Nat)) : Except Error WeightedRing :=
  regions.foldlM (fun ring region => ring.add region.1 region.2) .standard

end SessionPool
end Lanes.Simulation
