import Lanes.Callback
import Lanes.Ring.Layout

/-!
# Circles of positions

A circle keeps the positions of a ring apart from their owners: the positions in an array, a
position once for each replica that lies there, and the owners in a map from positions. Replicas are
appended and the array is sorted afterwards. A look-up bisects the sorted array for the first
position at or behind a hash, takes the position out of the array by its index, and then asks the
map for the owner.
-/
namespace Lanes

/-- Bisection: the first index from `lo` on, below `hi`, whose item does not pass a test, where the
items that pass it come first. -/
def bisect (items : Array UInt32) (passes : UInt32 → Bool) (lo hi : Nat)
    (within : hi ≤ items.size) : Nat :=
  if nonempty : lo < hi then
    let middle := lo + (hi - lo) / 2
    have below : middle < hi := by omega
    if passes items[middle] then bisect items passes (middle + 1) hi within
    else bisect items passes lo middle (Nat.le_trans (Nat.le_of_lt below) within)
  else lo
termination_by hi - lo

/-- The number of items that pass a test, where these come first. -/
def partitionPoint (items : Array UInt32) (passes : UInt32 → Bool) : Nat :=
  bisect items passes 0 items.size (Nat.le_refl _)

/-- The index of the first position at or behind a hash, or the first index behind the last one. -/
def successorIndex (positions : Array UInt32) (hash : UInt32) : Nat :=
  let index := partitionPoint positions (· < hash)
  if index = positions.size then 0 else index

/-- The positions on a ring and their owners. -/
structure Circle where
  positions : Array UInt32
  owners : Layout

namespace Circle

def empty : Circle := ⟨#[], .empty⟩

/-- Appends a replica of a node. -/
def put (owner : String) (circle : Circle) (position : UInt32) : Circle :=
  ⟨circle.positions.push position, circle.owners.insert position owner⟩

/-- Appends the replicas of a node, one after the other. -/
def place (circle : Circle) (owner : String) (positions : List UInt32) : Circle :=
  positions.foldl (put owner) circle

/-- Puts the positions in ascending order. -/
def sort (circle : Circle) : Circle :=
  { circle with positions := (circle.positions.toList.mergeSort (· ≤ ·)).toArray }

/-- The owner of a hash. An index behind the end of the positions would be a panic, and a position
without an owner would have none. -/
def owner? (circle : Circle) (hash : UInt32) : Outcome (Option String) :=
  if circle.positions.isEmpty then .returned none
  else
    let index := successorIndex circle.positions hash
    match circle.positions[index]? with
    | none => .panicked (.text
        s!"index out of bounds: the len is {circle.positions.size} but the index is {index}")
    | some position => .returned (circle.owners.get? position)

end Circle
end Lanes
