import Lanes.Callback
import Lanes.OrderedMap
import Lanes.Number.Shortest
import Lanes.Number.Reading
import Lanes.Duration
import Lanes.Text.Blank
import Lanes.Ring.Uniform
import Lanes.Ring.Weighted
import Lanes.Ring.Indexed
import Lanes.Random.Generator
import Lanes.Moment
import Lanes.Queue
import Lanes.Ticker
import Lanes.Backlog
import Lanes.Pool.Shutdown
import Lanes.Session.Handler
import Lanes.Ledger
import Lanes.Simulation.Scheduler
import Lanes.Simulation.Queue
import Lanes.Simulation.Backlog
import Lanes.Simulation.Ticker
import Lanes.Simulation.Pool
import Lanes.Simulation.Handler
import Lanes.Simulation.Session
import Lanes.Demo.Arguments
import Lanes.Demo.Config
import Lanes.Demo.LogFilter
import Lanes.Demo.Run
import Lanes.Demo.Program
import Lanes.Main
import Lanes.Proofs.Queue.Delivery
import Lanes.Proofs.Lane.Moves
import Lanes.Proofs.Pool.Affinity
import Lanes.Proofs.Pool.Homes
import Lanes.Proofs.Pool.Shutdown
import Lanes.Proofs.Ring.Changes
import Lanes.Proofs.Ring.Reference
import Lanes.Proofs.Mailbox.Replies
import Lanes.Proofs.Queue.Replies
import Lanes.Proofs.Queue.Room
import Lanes.Proofs.Ticker.Stops
import Lanes.Proofs.Ticker.Clock
import Lanes.Proofs.Pool.Calls
import Lanes.Proofs.Pool.Replies
import Lanes.Proofs.Lane.Ticks
import Lanes.Proofs.Pool.Ticks
import Lanes.Proofs.Pool.Returns
import Lanes.Proofs.Pool.Succession
import Lanes.Proofs.Pool.Targets
import Lanes.Proofs.Pool.Directory
import Lanes.Proofs.Lane.Dismissal
import Lanes.Proofs.Pool.Abandonment
import Lanes.Proofs.Backlog.Conservation
import Lanes.Proofs.Backlog.Quitting
import Lanes.Proofs.Ring.Renewal
import Lanes.Proofs.Ring.Shares
import Lanes.Proofs.Ring.Growth
import Lanes.Proofs.Mailbox.Copies
import Lanes.Proofs.Pool.Distribution
import Lanes.Proofs.Pool.Memory
import Lanes.Proofs.Pool.Tables
import Lanes.Proofs.Session.Calls
import Lanes.Proofs.Session.Ledger
import Lanes.Proofs.Pool.Likeness
import Lanes.Proofs.Pool.Offers
import Lanes.Proofs.Pool.Isolation
import Lanes.Proofs.Session.Expiry
import Lanes.Proofs.Pool.Periods
import Lanes.Proofs.Ring.Order
import Lanes.Proofs.Pool.Growth
import Lanes.Proofs.Pool.Draws
import Lanes.Proofs.Session.Audit
import Lanes.Proofs.Demo.Regions
import Lanes.Proofs.Demo.Start
import Lanes.Proofs.Ring.Numerals
import Lanes.Proofs.Ring.Indexed
