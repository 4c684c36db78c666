import Lanes.Error
import Lanes.Hash.Crc32
import Lanes.Ring.Layout

/-!
# Rings with weighted nodes

A node has as many positions on the ring as its weight says; position `i` lies at the hash of the
name followed by the number `i`. Nodes come with a weight, can be weighed anew and can leave. A
node that comes is placed on top of the others. When one changes or leaves, the ring is laid out
again, node by node in the order in which they came, so that a contested position still goes to
the node that came last.
-/
namespace Lanes

/-- Weight of a node, where none is asked for. -/
def defaultWeight : Nat := 100

/-- A ring on which shares follow weights. -/
structure WeightedRing where
  hash : HashFunction
  /-- Names with their weights, in the order in which they came. -/
  members : List (String × Nat)
  layout : Layout

namespace WeightedRing

def new (hash : HashFunction) : WeightedRing := ⟨hash, [], .empty⟩

/-- The empty ring hashing by CRC-32. -/
def standard : WeightedRing := new Hash.crc32

/-- Names in the order in which they came. -/
def nodes (ring : WeightedRing) : List String := ring.members.map Prod.fst

def weight? (ring : WeightedRing) (node : String) : Option Nat :=
  (ring.members.find? (fun member => member.1 = node)).map Prod.snd

/-- All nodes with their weights, by name. -/
def weights (ring : WeightedRing) : OrderedMap String Nat :=
  ring.members.foldl (fun map member => map.insert member.1 member.2) .empty

def contains (ring : WeightedRing) (node : String) : Bool :=
  (ring.weight? node).isSome

def size (ring : WeightedRing) : Nat := ring.members.length

def isEmpty (ring : WeightedRing) : Bool := ring.members.isEmpty

/-- Where a node of some weight has its positions. -/
def positions (hash : HashFunction) (node : String) (weight : Nat) : List UInt32 :=
  (List.range weight).map (fun i => hash (Bytes.ofText (node ++ toString i)))

/-- Lays one node on top of a layout. -/
def occupy (hash : HashFunction) (layout : Layout) (member : String × Nat) : Layout :=
  layout.occupy member.1 (positions hash member.1 member.2)

/-- The ring with these members, all laid out anew. -/
def rebuilt (hash : HashFunction) (members : List (String × Nat)) : WeightedRing :=
  ⟨hash, members, members.foldl (occupy hash) .empty⟩

/-- Adds a node; the weight zero means the default. -/
def add (ring : WeightedRing) (node : String) (weight : Nat) : Except Error WeightedRing :=
  if node = "" then .error .emptyNodeName
  else if ring.contains node then .error (.duplicateNode node)
  else
    let member := (node, if weight = 0 then defaultWeight else weight)
    .ok ⟨ring.hash, ring.members ++ [member], occupy ring.hash ring.layout member⟩

/-- Takes a node off the ring, and says whether it was there. -/
def remove (ring : WeightedRing) (node : String) : Except Error (Bool × WeightedRing) :=
  if node = "" then .error .emptyNodeName
  else if ring.contains node then
    .ok (true, rebuilt ring.hash (ring.members.filter (fun member => member.1 ≠ node)))
  else .ok (false, ring)

/-- Gives a node another weight, and says whether it was there. The weight zero removes it, and the
weight that it has changes nothing. -/
def reweigh (ring : WeightedRing) (node : String) (weight : Nat) :
    Except Error (Bool × WeightedRing) :=
  if node = "" then .error .emptyNodeName
  else if weight = 0 then ring.remove node
  else
    match ring.weight? node with
    | none => .ok (false, ring)
    | some current =>
      if current = weight then .ok (true, ring)
      else
        let members := ring.members.map (fun member =>
          if member.1 = node then (node, weight) else member)
        .ok (true, rebuilt ring.hash members)

/-- The node that owns a key. -/
def owner? (ring : WeightedRing) (key : String) : Option String :=
  ring.layout.successor (ring.hash (Bytes.ofText key))

end WeightedRing
end Lanes
