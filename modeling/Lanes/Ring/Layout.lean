import Lanes.Hash.Basic
import Lanes.OrderedMap

/-!
# Layouts of consistent hashing

A layout says which node owns which positions of the ring. Where two nodes claim one position the
one placed last owns it. A key belongs to the owner of the first position at or behind its own
hash, and behind the last position the ring starts over.
-/
namespace Lanes

/-- Owners by position, ascending. -/
abbrev Layout := OrderedMap UInt32 String

namespace Layout

/-- Gives positions to a node, one after the other. -/
def occupy (layout : Layout) (owner : String) (positions : List UInt32) : Layout :=
  positions.foldl (fun l position => l.insert position owner) layout

/-- The owner of the first position from `hash` on, wrapping round at the end. -/
def successor (layout : Layout) (hash : UInt32) : Option String :=
  ((layout.entries.find? (fun entry => hash ≤ entry.1)).or layout.entries.head?).map Prod.snd

end Layout
end Lanes
