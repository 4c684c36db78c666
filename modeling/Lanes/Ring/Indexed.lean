import Lanes.Ring.Circle
import Lanes.Ring.Uniform
import Lanes.Ring.Weighted

/-!
# Indexed rings

A ring keeps its nodes several times over: their names in the order in which they came, an index of
the names by which it is found out at once whether a node is there, and a circle with the positions
of the replicas. What such a ring shows to the outside is a plain ring, with the owners of the
circle as its layout.
-/
namespace Lanes

/-! ### Equal nodes -/

/-- A ring with equal nodes; `members` has the names again. -/
structure IndexedUniformRing where
  hash : HashFunction
  replicas : Nat
  circle : Circle
  nodes : List String
  members : OrderedMap String Unit

namespace IndexedUniformRing

def new (replicas : Nat) (hash : HashFunction) : IndexedUniformRing :=
  ⟨hash, if replicas = 0 then defaultReplicas else replicas, .empty, [], .empty⟩

def standard : IndexedUniformRing := new defaultHashedReplicas Hash.crc32

def numeric : IndexedUniformRing := new defaultReplicas Hash.number

/-- Where the replicas of a node lie. -/
def positions (ring : IndexedUniformRing) (node : String) : List UInt32 :=
  (List.range ring.replicas).map (fun i => ring.hash (Bytes.ofText (toString i ++ node)))

/-- Appends a node that is not there yet. The positions are left unsorted. -/
def addNode (ring : IndexedUniformRing) (node : String) : IndexedUniformRing :=
  if ring.members.contains node then ring
  else { ring with
    members := ring.members.insert node ()
    nodes := ring.nodes ++ [node]
    circle := ring.circle.place node (ring.positions node) }

def sort (ring : IndexedUniformRing) : IndexedUniformRing :=
  { ring with circle := ring.circle.sort }

/-- Adds the nodes that are not yet on the ring, and sorts the positions once. -/
def add (ring : IndexedUniformRing) (nodes : List String) : IndexedUniformRing :=
  (nodes.foldl addNode ring).sort

/-- The node that owns a key. -/
def owner? (ring : IndexedUniformRing) (key : String) : Outcome (Option String) :=
  ring.circle.owner? (ring.hash (Bytes.ofText key))

def size (ring : IndexedUniformRing) : Nat := ring.nodes.length

def isEmpty (ring : IndexedUniformRing) : Bool := ring.circle.positions.isEmpty

/-- What is seen of the ring from outside. -/
def plain (ring : IndexedUniformRing) : UniformRing :=
  ⟨ring.hash, ring.replicas, ring.nodes, ring.circle.owners⟩

end IndexedUniformRing

/-! ### Weighted nodes -/

/-- A ring with weighted nodes; `weights` has the names again, with the number of positions of
each. -/
structure IndexedWeightedRing where
  hash : HashFunction
  circle : Circle
  nodes : List String
  weights : OrderedMap String Nat

namespace IndexedWeightedRing

def new (hash : HashFunction) : IndexedWeightedRing := ⟨hash, .empty, [], .empty⟩

def standard : IndexedWeightedRing := new Hash.crc32

def contains (ring : IndexedWeightedRing) (node : String) : Bool := ring.weights.contains node

def weight? (ring : IndexedWeightedRing) (node : String) : Option Nat := ring.weights.get? node

/-- The weight with which a node is laid out. -/
def weightOf (ring : IndexedWeightedRing) (node : String) : Nat :=
  (ring.weights.get? node).getD 0

/-- The names with their weights, in the order in which they came. -/
def members (ring : IndexedWeightedRing) : List (String × Nat) :=
  ring.nodes.map (fun node => (node, ring.weightOf node))

/-- Appends a node with its weight to a circle. -/
def place (hash : HashFunction) (circle : Circle) (member : String × Nat) : Circle :=
  circle.place member.1 (WeightedRing.positions hash member.1 member.2)

/-- Lays all nodes out anew, in the order in which they came. -/
def rebuild (ring : IndexedWeightedRing) : IndexedWeightedRing :=
  { ring with circle := (ring.members.foldl (place ring.hash) .empty).sort }

/-- The ring once a node was appended with a weight. -/
def appended (ring : IndexedWeightedRing) (node : String) (weight : Nat) : IndexedWeightedRing :=
  { ring with
    nodes := ring.nodes ++ [node]
    weights := ring.weights.insert node weight
    circle := (place ring.hash ring.circle (node, weight)).sort }

/-- Adds a node; the weight zero means the default. -/
def add (ring : IndexedWeightedRing) (node : String) (weight : Nat) :
    Except Error IndexedWeightedRing :=
  if node = "" then .error .emptyNodeName
  else
    let count := if weight = 0 then defaultWeight else weight
    if ring.contains node then .error (.duplicateNode node)
    else .ok (ring.appended node count)

/-- Takes a node off the ring, and says whether it was there. -/
def remove (ring : IndexedWeightedRing) (node : String) :
    Except Error (Bool × IndexedWeightedRing) :=
  if node = "" then .error .emptyNodeName
  else if ring.contains node then
    .ok (true, rebuild { ring with
      weights := ring.weights.erase node
      nodes := ring.nodes.filter (· ≠ node) })
  else .ok (false, ring)

/-- Gives a node another weight, and says whether it was there. The weight zero removes it, and the
weight that it has changes nothing. -/
def reweigh (ring : IndexedWeightedRing) (node : String) (weight : Nat) :
    Except Error (Bool × IndexedWeightedRing) :=
  if node = "" then .error .emptyNodeName
  else if weight = 0 then ring.remove node
  else
    match ring.weights.get? node with
    | none => .ok (false, ring)
    | some current =>
      if current = weight then .ok (true, ring)
      else .ok (true, rebuild { ring with weights := ring.weights.insert node weight })

/-- The node that owns a key. -/
def owner? (ring : IndexedWeightedRing) (key : String) : Outcome (Option String) :=
  ring.circle.owner? (ring.hash (Bytes.ofText key))

def size (ring : IndexedWeightedRing) : Nat := ring.nodes.length

def isEmpty (ring : IndexedWeightedRing) : Bool := ring.nodes.isEmpty

/-- What is seen of the ring from outside. -/
def plain (ring : IndexedWeightedRing) : WeightedRing :=
  ⟨ring.hash, ring.members, ring.circle.owners⟩

end IndexedWeightedRing
end Lanes
