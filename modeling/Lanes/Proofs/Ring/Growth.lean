import Lanes.Ring.Uniform
import Lanes.Proofs.Ring.Lookup

/-!
# Growth of rings with equal nodes

A node that comes to a ring is laid on top of the nodes that are there, so that it can take keys to
itself but moves none between the others. A batch of names brings its nodes one after the other;
names that the ring knows, and names that come again within the batch, bring nothing. Hence a key
keeps its owner or goes to a node that is new with the batch, whatever positions collide.
-/
namespace Lanes
namespace UniformRing
variable {ring : UniformRing} {node other : String} {batch : List String}

/-! ### One node -/

theorem addNode_of_mem (there : node ∈ ring.nodes) : ring.addNode node = ring := if_pos there

theorem mem_nodes_addNode :
    other ∈ (ring.addNode node).nodes ↔ other ∈ ring.nodes ∨ other = node := by
  by_cases there : node ∈ ring.nodes
  · rw [addNode_of_mem there, or_iff_left_of_imp]
    rintro rfl
    exact there
  · simp [addNode, there]

theorem addNode_hash (ring : UniformRing) (node : String) :
    (ring.addNode node).hash = ring.hash := by
  unfold addNode
  split <;> rfl

/-- The ring with the node lies on top of the ring without it. -/
theorem addNode_overlays (ring : UniformRing) (node : String) :
    Layout.Overlays node ring.layout (ring.addNode node).layout := by
  unfold addNode
  split
  · exact .refl ring.layout
  · exact (Layout.Overlays.refl ring.layout).occupy_upper (ring.positions node)

theorem owner?_addNode (ring : UniformRing) (node key : String) :
    (ring.addNode node).owner? key = ring.owner? key ∨
      node ∉ ring.nodes ∧ (ring.addNode node).owner? key = some node := by
  by_cases there : node ∈ ring.nodes
  · rw [addNode_of_mem there]
    exact .inl rfl
  · unfold owner?
    rw [addNode_hash]
    exact ((ring.addNode_overlays node).successor _).imp_right fun taken => ⟨there, taken⟩

/-! ### A batch of nodes -/

theorem mem_nodes_add : other ∈ (ring.add batch).nodes ↔ other ∈ ring.nodes ∨ other ∈ batch := by
  unfold add
  induction batch generalizing ring with
  | nil => simp
  | cons node rest ih => rw [List.foldl_cons, ih, mem_nodes_addNode, List.mem_cons, or_assoc]

/-- Only a name that the ring does not know changes anything. -/
theorem add_eq_self_iff : ring.add batch = ring ↔ ∀ node ∈ batch, node ∈ ring.nodes := by
  constructor
  · intro same node mem
    rw [← same]
    exact mem_nodes_add.mpr (.inr mem)
  · intro known
    unfold add
    induction batch with
    | nil => rfl
    | cons node rest ih =>
      obtain ⟨there, others⟩ := List.forall_mem_cons.mp known
      rw [List.foldl_cons, addNode_of_mem there]
      exact ih others

/-- By induction on the batch: the first node may take the key, and so may each of the later ones,
which were new when they came and therefore before. -/
theorem owner?_add (ring : UniformRing) (batch : List String) (key : String) :
    (ring.add batch).owner? key = ring.owner? key ∨
      ∃ node ∈ batch, node ∉ ring.nodes ∧ (ring.add batch).owner? key = some node := by
  induction batch generalizing ring with
  | nil => exact .inl rfl
  | cons first rest ih =>
    have step : ring.add (first :: rest) = (ring.addNode first).add rest := rfl
    rw [step]
    rcases ih (ring.addNode first) with same | ⟨node, mem, new, taken⟩
    · rcases ring.owner?_addNode first key with kept | ⟨new, taken⟩
      · exact .inl (same.trans kept)
      · exact .inr ⟨first, List.mem_cons_self, new, same.trans taken⟩
    · have before : node ∉ ring.nodes := fun there => new (mem_nodes_addNode.mpr (.inl there))
      exact .inr ⟨node, List.mem_cons_of_mem _ mem, before, taken⟩

/-- After any history of batches one more batch moves keys only to nodes that are new with it, and
leaves the ring as it is if it brings no new name. -/
theorem growth_moves_keys_to_new_nodes (replicas : Nat) (hash : HashFunction)
    (history : List (List String)) (batch : List String) (key : String) :
    let ring := history.foldl add (new replicas hash)
    let grown := ring.add batch
    (grown.owner? key = ring.owner? key ∨
      ∃ node ∈ batch, node ∉ ring.nodes ∧ grown.owner? key = some node) ∧
    (grown = ring ↔ ∀ node ∈ batch, node ∈ ring.nodes) :=
  ⟨owner?_add .., add_eq_self_iff⟩

end UniformRing
end Lanes
