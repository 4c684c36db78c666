import Lanes.Proofs.Ring.History

/-!
# Changes of one node

A request that raises the weight of a node takes keys only to this node, and one that lowers the
weight takes keys only from it; every other request leaves all keys where they are. Either way the
layouts before and after are two of which one lies on top of the other and differs from it only in
positions of the node, because both lay the members out in the same order.
-/
namespace Lanes
namespace WeightedRing
variable {hash : HashFunction} {node : String} {lower upper : Layout}

open Layout (Overlays)

theorem positions_subset (hash : HashFunction) (node : String) {fewer more : Nat}
    (le : fewer ≤ more) : positions hash node fewer ⊆ positions hash node more := by
  intro p mem
  obtain ⟨i, below, rfl⟩ := List.mem_map.mp mem
  have lt : i < more := Nat.lt_of_lt_of_le (List.mem_range.mp below) le
  exact List.mem_map_of_mem (List.mem_range.mpr lt)

/-- The members lie on top of the members without the node. -/
theorem overlays_without (members : List (String × Nat)) (lies : Overlays node lower upper) :
    Overlays node ((without members node).foldl (occupy hash) lower)
      (members.foldl (occupy hash) upper) := by
  induction members generalizing lower upper with
  | nil => exact lies
  | cons member rest ih =>
    by_cases same : member.1 = node
    · subst same
      rw [without, List.filter_cons_of_neg (by simp)]
      exact ih (lies.occupy_upper (positions hash member.1 member.2))
    · rw [without, List.filter_cons_of_pos (by simp [same])]
      exact ih (lies.occupy member.1 (positions hash member.1 member.2))

/-- The members with a greater weight for the node lie on top of those with a lesser one. -/
theorem overlays_reweighed (members : List (String × Nat)) {fewer more : Nat} (le : fewer ≤ more)
    (lies : Overlays node lower upper) :
    Overlays node ((reweighed members node fewer).foldl (occupy hash) lower)
      ((reweighed members node more).foldl (occupy hash) upper) := by
  induction members generalizing lower upper with
  | nil => exact lies
  | cons member rest ih =>
    simp only [reweighed, List.map_cons, List.foldl_cons]
    refine ih ?_
    by_cases same : member.1 = node
    · simp only [same, if_true]
      exact lies.occupy_more (positions_subset hash node le)
    · simp only [same, if_false]
      exact lies.occupy member.1 (positions hash member.1 member.2)

/-- Who gives a node the weight that it has changes nothing. -/
theorem Sound.reweighed_self {ring : WeightedRing} (sound : ring.Sound) {current : Nat}
    (there : (node, current) ∈ ring.members) :
    WeightedRing.reweighed ring.members node current = ring.members := by
  rw [WeightedRing.reweighed]
  refine (List.map_congr_left fun member mem => ?_).trans (List.map_id _)
  by_cases same : member.1 = node
  · simp [sound.unique there mem same]
  · simp [same]

/-- With a raised weight the layout lies on top of the one before; with a lowered weight it lies
beneath. -/
def Effect.Moves (before after : Layout) : Effect → Prop
  | .raises node => Overlays node before after
  | .lowers node => Overlays node after before
  | .none => after = before

theorem Change.moves {ring after : WeightedRing} {effect : Effect}
    (change : Change ring effect after) (sound : ring.Sound) :
    effect.Moves ring.layout after.layout := by
  have again {node : String} {current : Nat} (there : (node, current) ∈ ring.members) :
      ring.layout = (WeightedRing.reweighed ring.members node current).foldl
        (occupy ring.hash) .empty := by
    rw [sound.reweighed_self there, sound.laid]
  cases change with
  | added => exact (Overlays.refl ring.layout).occupy_upper _
  | removed =>
    simp only [Effect.Moves]
    rw [sound.laid]
    exact overlays_without ring.members (.refl .empty)
  | raised there more =>
    simp only [Effect.Moves]
    rw [again there]
    exact overlays_reweighed ring.members (Nat.le_of_lt more) (.refl .empty)
  | lowered there pos less =>
    simp only [Effect.Moves]
    rw [again there]
    exact overlays_reweighed ring.members (Nat.le_of_lt less) (.refl .empty)
  | none => rfl

/-- After any history a request moves keys only to the node whose weight it raises, or only away
from the node whose weight it lowers; any other request moves none. -/
theorem moves_only_keys_of_node (hash : HashFunction) (history : List Request) (request : Request)
    (key : String) :
    let ring := run history (new hash)
    let after := ring.apply request
    match ring.effect request with
    | .raises node => after.owner? key = ring.owner? key ∨ after.owner? key = some node
    | .lowers node => after.owner? key = ring.owner? key ∨ ring.owner? key = some node
    | .none => after.owner? key = ring.owner? key := by
  intro ring after
  have sound : ring.Sound := run_sound hash history
  have change : Change ring (ring.effect request) after := sound.changes request
  have moves := change.moves sound
  have place : after.hash = ring.hash := change.hash
  simp only [owner?, place]
  cases is : ring.effect request with
  | raises node =>
    rw [is] at moves
    exact moves.successor _
  | lowers node =>
    rw [is] at moves
    exact (moves.successor _).imp_left Eq.symm
  | none =>
    rw [is] at moves
    exact congrArg (fun layout => layout.successor (ring.hash (Bytes.ofText key))) moves

end WeightedRing
end Lanes
