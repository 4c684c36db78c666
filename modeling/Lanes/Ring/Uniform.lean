import Lanes.Hash.Crc32
import Lanes.Hash.Number
import Lanes.Ring.Layout

/-!
# Rings with equal nodes

Every node has the same number of replicas on the ring; replica `i` of a node lies at the hash of
the number `i` followed by the name. Adding a node that is already there changes nothing.
-/
namespace Lanes

/-- Replicas of a node, where none are asked for. -/
def defaultReplicas : Nat := 3

/-- Replicas of a node on the default ring, which hashes by CRC-32. -/
def defaultHashedReplicas : Nat := 32

/-- A ring whose nodes all have the same share. -/
structure UniformRing where
  hash : HashFunction
  replicas : Nat
  /-- Names in the order in which they came. -/
  nodes : List String
  layout : Layout

namespace UniformRing

/-- An empty ring; no replicas means the default number of them. -/
def new (replicas : Nat) (hash : HashFunction) : UniformRing :=
  ⟨hash, if replicas = 0 then defaultReplicas else replicas, [], .empty⟩

/-- The ring hashing by CRC-32. -/
def standard : UniformRing := new defaultHashedReplicas Hash.crc32

/-- The ring on which numbers hash to themselves. -/
def numeric : UniformRing := new defaultReplicas Hash.number

/-- Where the replicas of a node lie. -/
def positions (ring : UniformRing) (node : String) : List UInt32 :=
  (List.range ring.replicas).map (fun i => ring.hash (Bytes.ofText (toString i ++ node)))

def addNode (ring : UniformRing) (node : String) : UniformRing :=
  if node ∈ ring.nodes then ring
  else { ring with
    nodes := ring.nodes ++ [node]
    layout := ring.layout.occupy node (ring.positions node) }

/-- Adds the nodes that are not yet on the ring. -/
def add (ring : UniformRing) (nodes : List String) : UniformRing :=
  nodes.foldl addNode ring

/-- The node that owns a key. -/
def owner? (ring : UniformRing) (key : String) : Option String :=
  ring.layout.successor (ring.hash (Bytes.ofText key))

def size (ring : UniformRing) : Nat := ring.nodes.length

def isEmpty (ring : UniformRing) : Bool := ring.layout.isEmpty

end UniformRing
end Lanes
