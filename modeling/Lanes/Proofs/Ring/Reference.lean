import Lanes.Ring.Uniform
import Lanes.Proofs.Ring.History

/-!
# The owner of a key

What a ring answers for a key can be said without its layout: of the positions of all replicas of
its present nodes the least from the hash of the key on, or the least of all if there is none; and
of the nodes with a replica there the one that came last. The layouts of both kinds of rings answer
so, and a ring with equal nodes keeps no trace of the batches in which its nodes came.
-/
namespace Lanes

/-! ### The reference -/

/-- The least of the taken positions from a hash on, or the least of all. -/
def nextPosition (taken : List UInt32) (hash : UInt32) : Option UInt32 :=
  ((taken.filter (hash ≤ ·)).min?).or taken.min?

/-- The owner of a hash, read off the nodes and the positions of their replicas. -/
def referenceOwner (nodes : List String) (positions : String → List UInt32) (hash : UInt32) :
    Option String :=
  (nextPosition (nodes.flatMap positions) hash).bind (Layout.lastHolder nodes positions)

theorem nextPosition_eq_some {taken : List UInt32} {hash p : UInt32}
    (next : nextPosition taken hash = some p) : Layout.Follows (· ∈ taken) hash p := by
  unfold nextPosition at next
  cases ahead : (taken.filter (hash ≤ ·)).min? with
  | some q =>
    obtain rfl : q = p := by simpa [ahead] using next
    obtain ⟨mem, least⟩ := List.min?_eq_some_iff.mp ahead
    obtain ⟨there, behind⟩ := List.mem_filter.mp mem
    refine ⟨there, .inl ⟨by simpa using behind, fun r mem above => least r ?_⟩⟩
    exact List.mem_filter.mpr ⟨mem, by simpa using above⟩
  | none =>
    rw [ahead, Option.none_or] at next
    obtain ⟨there, least⟩ := List.min?_eq_some_iff.mp next
    refine ⟨there, .inr ⟨fun r mem => ?_, least⟩⟩
    simpa using List.filter_eq_nil_iff.mp (List.min?_eq_none_iff.mp ahead) r mem

theorem nextPosition_eq_none_iff {taken : List UInt32} {hash : UInt32} :
    nextPosition taken hash = none ↔ taken = [] := by
  constructor
  · intro none
    exact List.min?_eq_none_iff.mp (Option.or_eq_none_iff.mp none).2
  · rintro rfl
    rfl

/-- Look-up in the layout of some nodes answers as the reference does. -/
theorem Layout.successor_laid (nodes : List String) (positions : String → List UInt32)
    (hash : UInt32) :
    (laid nodes positions).successor hash = referenceOwner nodes positions hash := by
  unfold referenceOwner
  cases next : nextPosition (nodes.flatMap positions) hash with
  | none =>
    have free := nextPosition_eq_none_iff.mp next
    refine successor_eq_none_iff.mpr fun p => ?_
    have taken : (lastHolder nodes positions p).isSome ↔ p ∈ nodes.flatMap positions :=
      lastHolder_isSome_iff
    rw [get?_laid]
    simpa [free] using taken
  | some p =>
    have follows := nextPosition_eq_some next
    have same : (fun q => ((laid nodes positions).get? q).isSome = true) =
        (· ∈ nodes.flatMap positions) := by
      funext q
      rw [get?_laid, lastHolder_isSome_iff]
    obtain ⟨owner, held⟩ := Option.isSome_iff_exists.mp (lastHolder_isSome_iff.mpr follows.1)
    rw [Option.bind_some, held]
    refine successor_eq_some_iff.mpr ⟨p, by rw [get?_laid, held], ?_⟩
    rw [same]
    exact follows

/-- Where every node has a replica, only a ring without nodes has no owner. -/
theorem referenceOwner_eq_none_iff {nodes : List String} {positions : String → List UInt32}
    {hash : UInt32} (placed : ∀ node ∈ nodes, positions node ≠ []) :
    referenceOwner nodes positions hash = none ↔ nodes = [] := by
  constructor
  · intro missed
    cases next : nextPosition (nodes.flatMap positions) hash with
    | none =>
      have free := nextPosition_eq_none_iff.mp next
      cases nodes with
      | nil => rfl
      | cons node rest =>
        have empty := (List.append_eq_nil_iff.mp free).1
        exact absurd empty (placed node List.mem_cons_self)
    | some p =>
      have held := Layout.lastHolder_isSome_iff.mpr (nextPosition_eq_some next).1
      rw [referenceOwner, next, Option.bind_some] at missed
      simp [missed] at held
  · rintro rfl
    rfl

/-! ### Rings with equal nodes -/

namespace UniformRing

/-- The ring of some nodes, laid out one after the other. -/
def ofNodes (replicas : Nat) (hash : HashFunction) (nodes : List String) : UniformRing :=
  { new replicas hash with
    nodes
    layout := .laid nodes (new replicas hash).positions }

/-- Of a node that comes again the ring takes no notice. -/
theorem addNode_ofNodes (replicas : Nat) (hash : HashFunction) (seen : List String)
    (node : String) :
    (ofNodes replicas hash seen.eraseDups).addNode node =
      ofNodes replicas hash (seen ++ [node]).eraseDups := by
  unfold addNode
  rw [List.eraseDups_append]
  by_cases known : node ∈ seen
  · have there : node ∈ (ofNodes replicas hash seen.eraseDups).nodes :=
      List.mem_eraseDups.mpr known
    simp [there, known, List.removeAll]
  · have absent : node ∉ (ofNodes replicas hash seen.eraseDups).nodes :=
      mt List.mem_eraseDups.mp known
    have new : [node].removeAll seen = [node] := by simp [List.removeAll, known]
    rw [if_neg absent, new]
    have one : [node].eraseDups = [node] := rfl
    simp only [one, ofNodes, Layout.laid, List.foldl_append]
    rfl

theorem foldl_addNode_ofNodes (replicas : Nat) (hash : HashFunction) (seen names : List String) :
    names.foldl addNode (ofNodes replicas hash seen.eraseDups) =
      ofNodes replicas hash (seen ++ names).eraseDups := by
  induction names generalizing seen with
  | nil => simp
  | cons node rest ih => rw [List.foldl_cons, addNode_ofNodes, ih, ← List.append_cons]

/-- The nodes are the first occurrences of all names that ever came, and the layout is theirs. -/
theorem foldl_add_new (replicas : Nat) (hash : HashFunction) (batches : List (List String)) :
    batches.foldl add (new replicas hash) = ofNodes replicas hash batches.flatten.eraseDups := by
  calc batches.foldl add (new replicas hash)
      = batches.flatten.foldl addNode (new replicas hash) := List.foldl_flatten.symm
    _ = ofNodes replicas hash batches.flatten.eraseDups :=
      foldl_addNode_ofNodes replicas hash [] batches.flatten

theorem positions_ne_nil (replicas : Nat) (hash : HashFunction) (node : String) :
    (new replicas hash).positions node ≠ [] := by
  have some : (new replicas hash).replicas ≠ 0 := by
    by_cases zero : replicas = 0 <;> simp [new, zero, defaultReplicas]
  simpa [positions] using some

end UniformRing

/-! ### Rings with weighted nodes -/

namespace WeightedRing

/-- Where a ring has the positions of its nodes. -/
def positionsOf (ring : WeightedRing) (node : String) : List UInt32 :=
  positions ring.hash node ((ring.weight? node).getD 0)

theorem Sound.layout_eq {ring : WeightedRing} (sound : ring.Sound) :
    ring.layout = .laid ring.nodes ring.positionsOf := by
  rw [sound.laid, Layout.laid, nodes, List.foldl_map]
  refine List.foldl_ext _ _ _ fun layout member mem => ?_
  rw [occupy, positionsOf, sound.weight?_of_mem mem, Option.getD_some]

theorem Sound.positionsOf_ne_nil {ring : WeightedRing} (sound : ring.Sound) {node : String}
    (there : node ∈ ring.nodes) : ring.positionsOf node ≠ [] := by
  obtain ⟨member, mem, rfl⟩ := List.mem_map.mp there
  have pos := sound.weighty member mem
  simpa [positionsOf, sound.weight?_of_mem mem, positions] using Nat.ne_of_gt pos

end WeightedRing

end Lanes
