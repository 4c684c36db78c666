import Lanes.Proofs.Ring.Changes

/-!
# Rings without a past

A weighted ring is no more than its nodes in their order with their weights. Additions place one
node on top of the layout that is there, and all other changes lay out everything anew, but either
way the ring is the one that the same nodes make of a fresh ring. So whatever was added, weighed
anew and removed on the way leaves no trace.
-/
namespace Lanes
namespace WeightedRing
variable {hash : HashFunction} {ring after : WeightedRing} {node : String} {weight : Nat}

/-- A fresh ring to which nodes are added one after the other, with the weights listed for them. -/
def refilled (hash : HashFunction) (nodes : List String) (weights : OrderedMap String Nat) :
    Except Error WeightedRing :=
  nodes.foldlM (fun fresh node => fresh.add node ((weights.get? node).getD 0)) (new hash)

/-! ### Weights by name -/

theorem get?_foldl_insert (members : List (String × Nat)) (map : OrderedMap String Nat)
    (distinct : (members.map Prod.fst).Nodup) :
    (members.foldl (fun map member => map.insert member.1 member.2) map).get? node =
      ((members.find? (fun member => member.1 = node)).map Prod.snd).or (map.get? node) := by
  induction members generalizing map with
  | nil => rfl
  | cons member rest ih =>
    obtain ⟨first, others⟩ := List.nodup_cons.mp distinct
    rw [List.foldl_cons, ih _ others, OrderedMap.get?_insert]
    by_cases same : member.1 = node
    · have last : rest.find? (fun member => member.1 = node) = none := by
        refine List.find?_eq_none.mpr fun other mem is => first ?_
        have named : other.1 = node := by simpa using is
        exact same.trans named.symm ▸ List.mem_map_of_mem mem
      simp [same, last]
    · simp [same]

theorem Sound.get?_weights (sound : ring.Sound) (node : String) :
    ring.weights.get? node = ring.weight? node := by
  rw [weights, get?_foldl_insert _ _ sound.distinct, OrderedMap.get?_empty, Option.or_none, weight?]

theorem Sound.mem_keys_weights (sound : ring.Sound) :
    node ∈ ring.weights.keys ↔ node ∈ ring.nodes := by
  rw [← not_iff_not, ← weight?_eq_none_iff, ← sound.get?_weights, Option.eq_none_iff_forall_ne_some]
  simp [OrderedMap.keys, OrderedMap.get?_eq_some_iff]

theorem Sound.keys_weights (sound : ring.Sound) : ring.weights.keys.Perm ring.nodes :=
  (List.perm_ext_iff_of_nodup ring.weights.nodup_keys sound.distinct).mpr
    fun _ => sound.mem_keys_weights

/-! ### One layout, however it came about -/

theorem Sound.rebuilt (sound : ring.Sound) :
    WeightedRing.rebuilt ring.hash ring.members = ring := by
  rw [WeightedRing.rebuilt, ← sound.laid]

/-- A node laid on top of the others lies where it does when all are laid out anew. -/
theorem add_rebuilt (hash : HashFunction) {members : List (String × Nat)} (named : node ≠ "")
    (absent : node ∉ members.map Prod.fst) (weight : Nat) :
    (rebuilt hash members).add node weight =
      .ok (rebuilt hash (members ++ [(node, granted weight)])) := by
  have new : ¬ (rebuilt hash members).contains node = true := mt contains_iff.mp absent
  rw [add, if_neg named, if_neg new]
  simp [rebuilt, granted]

/-- Distinct members added to a ring with others make the ring of all of them. -/
theorem foldlM_add (hash : HashFunction) (members : List (String × Nat))
    {rest : List (String × Nat)} (named : "" ∉ rest.map Prod.fst)
    (distinct : ((members ++ rest).map Prod.fst).Nodup) :
    rest.foldlM (fun fresh member => fresh.add member.1 member.2) (rebuilt hash members) =
      .ok (rebuilt hash (members ++ rest.map fun member => (member.1, granted member.2))) := by
  induction rest generalizing members with
  | nil => simp [pure, Except.pure]
  | cons member rest ih =>
    obtain ⟨name, weight⟩ := member
    have given : name ≠ "" := fun empty => named (empty ▸ List.mem_cons_self)
    have absent : name ∉ members.map Prod.fst := by
      rw [List.map_append] at distinct
      exact fun mem => (List.nodup_append.mp distinct).2.2 name mem name List.mem_cons_self rfl
    have regroup : (members ++ (name, weight) :: rest).map Prod.fst =
        ((members ++ [(name, granted weight)]) ++ rest).map Prod.fst := by simp
    rw [List.foldlM_cons, add_rebuilt hash given absent]
    refine (ih _ (fun mem => named (List.mem_cons_of_mem _ mem)) (regroup ▸ distinct)).trans ?_
    simp

theorem Sound.refilled (sound : ring.Sound) :
    WeightedRing.refilled ring.hash ring.nodes ring.weights = .ok ring := by
  have listed (member : String × Nat) (mem : member ∈ ring.members) :
      granted ((ring.weights.get? member.1).getD 0) = member.2 := by
    rw [sound.get?_weights, sound.weight?_of_mem mem, Option.getD_some]
    exact if_neg (Nat.ne_of_gt (sound.weighty member mem))
  have names : (ring.nodes.map fun name => (name, (ring.weights.get? name).getD 0)).map Prod.fst =
      ring.nodes := by simp [Function.comp_def]
  have added := foldlM_add ring.hash [] (names.symm ▸ sound.named) (names.symm ▸ sound.distinct)
  have same : (ring.nodes.map fun name =>
      (name, granted ((ring.weights.get? name).getD 0))) = ring.members := by
    rw [nodes, List.map_map]
    refine (List.map_congr_left fun member mem => ?_).trans (List.map_id _)
    exact Prod.ext rfl (listed member mem)
  rw [List.foldlM_map, List.map_map, List.nil_append] at added
  exact added.trans (congrArg _ ((congrArg _ same).trans sound.rebuilt))

/-! ### Requests that change nothing -/

/-- A request that is denied leaves the ring as it is. -/
theorem eq_of_answer_false {request : Request} (denied : ring.answer request = .ok (false, after)) :
    after = ring := by
  have of_remove {node : String} (denied : ring.remove node = .ok (false, after)) :
      after = ring := by
    by_cases named : node = ""
    · simp [remove, named] at denied
    · by_cases there : node ∈ ring.nodes
      · simp [remove_of_mem named there] at denied
      · simpa [remove_of_not_mem named there] using denied.symm
  cases request with
  | add node weight =>
    rw [answer] at denied
    cases done : ring.add node weight <;> simp [done, Except.map] at denied
  | remove node => exact of_remove denied
  | reweigh node weight =>
    rw [answer] at denied
    by_cases named : node = ""
    · simp [reweigh, named] at denied
    · by_cases zero : weight = 0
      · rw [reweigh, if_neg named, if_pos zero] at denied
        exact of_remove denied
      · cases found : ring.weight? node with
        | none => simpa [reweigh, named, zero, found] using denied.symm
        | some current =>
          simp only [reweigh, if_neg named, if_neg zero, found] at denied
          split at denied <;> simp at denied

theorem apply_of_not_granted {request : Request}
    (refused : ∀ after, ring.answer request ≠ .ok (true, after)) : ring.apply request = ring := by
  rw [apply]
  cases found : ring.answer request with
  | error cause => rfl
  | ok answered =>
    obtain ⟨granted, after⟩ := answered
    cases granted with
    | true => exact absurd found (refused after)
    | false => exact eq_of_answer_false found

/-- Who gives a node the weight that it has is told that the node is there, and the ring is the one
that laying out anew would give. -/
theorem Sound.reweigh_self (sound : ring.Sound) (found : ring.weight? node = some weight) :
    ring.reweigh node weight = .ok (true, ring) ∧
      WeightedRing.rebuilt ring.hash (WeightedRing.reweighed ring.members node weight) = ring := by
  have there := mem_of_weight? found
  have named : node ≠ "" := fun empty => sound.named (empty ▸ List.mem_map_of_mem there)
  have pos : weight ≠ 0 := Nat.ne_of_gt (sound.weighty _ there)
  refine ⟨by simp [reweigh, named, pos, found], ?_⟩
  rw [sound.reweighed_self there, sound.rebuilt]

/-- A node that comes and goes leaves the ring that there was. -/
theorem Sound.add_remove (sound : ring.Sound) (named : node ≠ "") (absent : node ∉ ring.nodes)
    (weight : Nat) :
    ∃ larger, ring.add node weight = .ok larger ∧ larger.remove node = .ok (true, ring) := by
  have added := add_rebuilt ring.hash named absent weight
  rw [sound.rebuilt] at added
  refine ⟨_, added, ?_⟩
  rw [remove_of_mem named (by simp [nodes, WeightedRing.rebuilt])]
  have stay : ring.members.filter (fun member => member.1 ≠ node) = ring.members := by
    refine List.filter_eq_self.mpr fun member mem => ?_
    have other : member.1 ≠ node := fun same => absent (same ▸ List.mem_map_of_mem mem)
    simpa using other
  simp only [WeightedRing.rebuilt, without, List.filter_append, stay]
  simp [← sound.laid]

/-! ### Whatever the history -/

/-- The ring is its nodes in their order with their weights, and nothing else. -/
structure Memoryless (hash : HashFunction) (ring : WeightedRing) : Prop where
  /-- A fresh ring that gets the same nodes is the same ring. -/
  refilled : refilled hash ring.nodes ring.weights = .ok ring
  /-- Another history that ends with the same nodes ends with the same ring. -/
  only : ∀ history, (run history (new hash)).nodes = ring.nodes →
    (run history (new hash)).weights = ring.weights → run history (new hash) = ring
  /-- Laying out everything anew gives the ring that there is. -/
  rebuilt : rebuilt hash ring.members = ring
  /-- The weight that a node has is granted at once, and laying out anew would give the same. -/
  early : ∀ node weight, ring.weight? node = some weight →
    ring.reweigh node weight = .ok (true, ring) ∧
      WeightedRing.rebuilt hash (reweighed ring.members node weight) = ring
  /-- Requests that fail or are denied change nothing. -/
  refused : ∀ request, (∀ after, ring.answer request ≠ .ok (true, after)) →
    ring.apply request = ring
  /-- A node that comes and goes is added and removed indeed, and leaves the ring as it was. -/
  undone : ∀ node weight, node ≠ "" → node ∉ ring.nodes →
    ∃ larger, ring.add node weight = .ok larger ∧ larger.remove node = .ok (true, ring)
  distinct : ring.nodes.Nodup
  /-- The weights are those of the nodes. -/
  domain : ring.weights.keys.Perm ring.nodes
  listed : ∀ node, ring.weights.get? node = ring.weight? node
  weighty : ∀ node weight, ring.weight? node = some weight → 1 ≤ weight

theorem Sound.memoryless (sound : ring.Sound) (hashes : ring.hash = hash) :
    Memoryless hash ring where
  refilled := hashes ▸ sound.refilled
  only history sameNodes sameWeights := by
    have theirs := (run_sound hash history).refilled
    rw [run_hash, sameNodes, sameWeights, ← hashes, sound.refilled] at theirs
    simpa [hashes] using theirs.symm
  rebuilt := hashes ▸ sound.rebuilt
  early _ _ found := hashes ▸ sound.reweigh_self found
  refused _ refused := apply_of_not_granted refused
  undone _ weight named absent := sound.add_remove named absent weight
  distinct := sound.distinct
  domain := sound.keys_weights
  listed := sound.get?_weights
  weighty _ _ found := sound.weighty _ (mem_of_weight? found)

/-- After any history a ring keeps no trace of how its nodes and weights came about. -/
theorem run_memoryless (hash : HashFunction) (history : List Request) :
    Memoryless hash (run history (new hash)) :=
  (run_sound hash history).memoryless (run_hash hash history)

end WeightedRing
end Lanes
