import Lanes.Hash.Number
import Lanes.Proofs.Ring.Reference

/-!
# The order of changes

Who owns a contested position depends on the order in which the nodes came, and nothing else does.
Where no two nodes of a ring contest a position, its owners follow from the nodes and the positions
of their replicas, so that two rings with the same nodes and the same shares send every key to the
same node, whatever their histories are. Nodes may come in any order and in any batches, and a node
may leave and come back.
-/
namespace Lanes
namespace Layout
variable {nodes others : List String} {positions positions' : String → List UInt32}

/-- No two of the nodes have a replica at the same position. -/
def Uncontested (nodes : List String) (positions : String → List UInt32) : Prop :=
  ∀ a ∈ nodes, ∀ b ∈ nodes, a ≠ b → ∀ p ∈ positions a, p ∉ positions b

-- The positions of the nodes are looked through, not all those that there can be.
instance : Decidable (Uncontested nodes positions) :=
  have (a b : String) : Decidable (∀ p ∈ positions a, p ∉ positions b) :=
    List.decidableBAll _ _
  inferInstanceAs (Decidable (∀ a ∈ nodes, ∀ b ∈ nodes, a ≠ b → ∀ p ∈ positions a, p ∉ positions b))

theorem lastHolder_holds {p : UInt32} {node : String}
    (last : lastHolder nodes positions p = some node) : node ∈ nodes ∧ p ∈ positions node := by
  simpa using List.mem_filter.mp (List.mem_of_getLast? last)

/-- An uncontested position belongs to the one node that has a replica there. -/
theorem Uncontested.lastHolder_eq_some_iff (alone : Uncontested nodes positions) {p : UInt32}
    {node : String} :
    lastHolder nodes positions p = some node ↔ node ∈ nodes ∧ p ∈ positions node := by
  refine ⟨lastHolder_holds, fun ⟨there, replica⟩ => ?_⟩
  have taken : p ∈ nodes.flatMap positions := List.mem_flatMap.mpr ⟨node, there, replica⟩
  obtain ⟨holder, last⟩ := Option.isSome_iff_exists.mp (lastHolder_isSome_iff.mpr taken)
  obtain ⟨there', replica'⟩ := lastHolder_holds last
  by_cases same : holder = node
  · rw [last, same]
  · exact absurd replica (alone holder there' node there same p replica')

/-- Uncontested positions have the same holders in whatever order the nodes come. -/
theorem Uncontested.lastHolder_congr (alone : Uncontested nodes positions)
    (same : ∀ node, node ∈ nodes ↔ node ∈ others)
    (agree : ∀ node ∈ nodes, positions node = positions' node) (p : UInt32) :
    lastHolder nodes positions p = lastHolder others positions' p := by
  have alone' : Uncontested others positions' := by
    intro a memA b memB apart
    rw [← agree a ((same a).mpr memA), ← agree b ((same b).mpr memB)]
    exact alone a ((same a).mpr memA) b ((same b).mpr memB) apart
  refine Option.ext fun node => ?_
  rw [alone.lastHolder_eq_some_iff, alone'.lastHolder_eq_some_iff, ← same node]
  exact and_congr_right fun there => by rw [agree node there]

/-- A key goes to the same owner on layouts whose positions have the same owners. -/
theorem successor_congr {layout layout' : Layout} (same : ∀ p, layout.get? p = layout'.get? p)
    (hash : UInt32) : layout.successor hash = layout'.successor hash := by
  refine Option.ext fun owner => ?_
  simp only [successor_eq_some_iff, same]

theorem Uncontested.successor_laid (alone : Uncontested nodes positions)
    (same : ∀ node, node ∈ nodes ↔ node ∈ others)
    (agree : ∀ node ∈ nodes, positions node = positions' node) (hash : UInt32) :
    (laid nodes positions).successor hash = (laid others positions').successor hash := by
  refine successor_congr (fun p => ?_) hash
  rw [get?_laid, get?_laid, alone.lastHolder_congr same agree]

end Layout

open Layout (Uncontested)

/-! ### Rings with equal nodes -/

namespace UniformRing

theorem owner?_congr {replicas replicas' : Nat} {hash : HashFunction} {nodes others : List String}
    (shares : (new replicas hash).replicas = (new replicas' hash).replicas)
    (same : ∀ node, node ∈ nodes ↔ node ∈ others)
    (alone : Uncontested nodes (ofNodes replicas hash nodes).positions) (key : String) :
    (ofNodes replicas hash nodes).owner? key = (ofNodes replicas' hash others).owner? key := by
  refine alone.successor_laid same (fun node _ => ?_) (hash (Bytes.ofText key))
  have placed : (ofNodes replicas hash nodes).positions node =
      (new replicas hash).positions node := rfl
  rw [placed, positions, positions, shares]
  rfl

end UniformRing

/-! ### Rings with weighted nodes -/

namespace WeightedRing
variable {ring other : WeightedRing} {node : String} {weight : Nat}

theorem Sound.owner?_congr (sound : ring.Sound) (sound' : other.Sound)
    (hashes : ring.hash = other.hash) (weights : ∀ node, ring.weight? node = other.weight? node)
    (alone : Uncontested ring.nodes ring.positionsOf) (key : String) :
    ring.owner? key = other.owner? key := by
  have same (node : String) : node ∈ ring.nodes ↔ node ∈ other.nodes := by
    rw [← contains_iff, ← contains_iff, contains, contains, weights]
  have agree (node : String) : ring.positionsOf node = other.positionsOf node := by
    rw [positionsOf, positionsOf, hashes, weights]
  rw [owner?, owner?, sound.layout_eq, sound'.layout_eq, hashes]
  exact alone.successor_laid same (fun node _ => agree node) _

theorem apply_add_of_refused (refused : node = "" ∨ node ∈ ring.nodes) (weight : Nat) :
    ring.apply (.add node weight) = ring := by
  by_cases named : node = ""
  · simp [apply, answer, add, named, Except.map]
  · have there : ring.contains node = true := contains_iff.mpr (refused.resolve_left named)
    simp [apply, answer, add, named, there, Except.map]

theorem members_apply_add (named : node ≠ "") (absent : node ∉ ring.nodes) (weight : Nat) :
    (ring.apply (.add node weight)).members = ring.members ++ [(node, granted weight)] := by
  have new : ring.contains node = false := Bool.eq_false_iff.mpr (mt contains_iff.mp absent)
  simp [apply, answer, add, named, new, Except.map, granted]

/-- An addition gives a weight to a node that has a name and none yet. -/
theorem weight?_apply_add (ring : WeightedRing) (node : String) (weight : Nat) (name : String) :
    (ring.apply (.add node weight)).weight? name =
      (ring.weight? name).or
        (if node = name ∧ node ≠ "" then some (granted weight) else none) := by
  by_cases refused : node = "" ∨ node ∈ ring.nodes
  · rw [apply_add_of_refused refused]
    by_cases same : node = name ∧ node ≠ ""
    · obtain ⟨rfl, named⟩ := same
      have there : ring.contains node = true := contains_iff.mpr (refused.resolve_left named)
      obtain ⟨current, found⟩ := Option.isSome_iff_exists.mp there
      rw [found, Option.some_or]
    · rw [if_neg same, Option.or_none]
  · obtain ⟨named, absent⟩ := not_or.mp refused
    rw [weight?, members_apply_add named absent, List.find?_append, Option.map_or, weight?]
    by_cases same : node = name
    · subst same
      simp [named]
    · simp [same]

theorem weight?_apply_remove (named : node ≠ "") (name : String) :
    (ring.apply (.remove node)).weight? name =
      if node = name then none else ring.weight? name := by
  by_cases there : node ∈ ring.nodes
  · have left : (ring.apply (.remove node)).members = without ring.members node := by
      simp [apply, answer, remove_of_mem named there, rebuilt]
    rw [weight?, left, without, List.find?_filter, weight?]
    by_cases same : node = name
    · subst same
      simp
    · rw [if_neg same]
      congr 2
      funext member
      by_cases here : member.1 = name <;> simp [here, Ne.symm same]
  · have left : ring.apply (.remove node) = ring := by
      simp [apply, answer, remove_of_not_mem named there]
    rw [left]
    split
    · next same => rw [← same, weight?_eq_none_iff.mpr there]
    · rfl

/-- The requests to add some nodes, each with a number. -/
def additions (members : List (String × Nat)) : List Request :=
  members.map (fun member => .add member.1 member.2)

/-- Of the additions of a name the first one counts, if the ring does not know the name. -/
theorem weight?_run_additions (members : List (String × Nat)) (ring : WeightedRing)
    (name : String) :
    (run (additions members) ring).weight? name = (ring.weight? name).or
      (if name = "" then none
        else (members.find? (fun member => member.1 = name)).map (granted ·.2)) := by
  induction members generalizing ring with
  | nil => simp [additions, run]
  | cons member rest ih =>
    have first : run (additions (member :: rest)) ring =
        run (additions rest) (ring.apply (.add member.1 member.2)) := rfl
    rw [first, ih, weight?_apply_add, Option.or_assoc]
    congr 1
    by_cases named : name = ""
    · subst named
      simp only [if_true, Option.or_none, ite_eq_right_iff, and_imp]
      exact fun same other => absurd same other
    · by_cases same : member.1 = name
      · simp [same, named]
      · simp [same, named]

/-- Among members with distinct names the one with a name is found wherever it stands. -/
theorem find?_of_perm {members others : List (String × Nat)} (perm : members.Perm others)
    (distinct : (members.map Prod.fst).Nodup) (name : String) :
    members.find? (fun member => member.1 = name) =
      others.find? (fun member => member.1 = name) := by
  have found {list : List (String × Nat)} (distinct : (list.map Prod.fst).Nodup)
      (member : String × Nat) :
      list.find? (fun member => member.1 = name) = some member ↔
        member ∈ list ∧ member.1 = name := by
    constructor
    · intro found
      exact ⟨List.mem_of_find?_eq_some found, by simpa using List.find?_some found⟩
    · rintro ⟨mem, same⟩
      cases first : list.find? (fun member => member.1 = name) with
      | none => simpa [same] using List.find?_eq_none.mp first member mem
      | some other =>
        have theirs : other.1 = name := by simpa using List.find?_some first
        rw [List.inj_on_of_nodup_map distinct (List.mem_of_find?_eq_some first) mem
          (theirs.trans same.symm)]
  refine Option.ext fun member => ?_
  rw [found distinct, found ((perm.map Prod.fst).nodup_iff.mp distinct), perm.mem_iff]

theorem run_append (history more : List Request) (ring : WeightedRing) :
    run (history ++ more) ring = run more (run history ring) := List.foldl_append ..

/-- A node that leaves and comes back with its weight leaves all weights as they were. -/
theorem Sound.weight?_return (sound : ring.Sound) (found : ring.weight? node = some weight)
    (name : String) :
    (run [.remove node, .add node weight] ring).weight? name = ring.weight? name := by
  have there := mem_of_weight? found
  have named : node ≠ "" := fun empty => sound.named (empty ▸ List.mem_map_of_mem there)
  have same : granted weight = weight := if_neg (Nat.ne_of_gt (sound.weighty _ there))
  have twice : run [.remove node, .add node weight] ring =
      (ring.apply (.remove node)).apply (.add node weight) := rfl
  rw [twice, weight?_apply_add, weight?_apply_remove named, same]
  by_cases own : node = name
  · subst own
    simp [named, found]
  · simp [own]

end WeightedRing

/-! ### Both kinds -/

/-- Where no two nodes of a ring contest a position, the owner of a key follows from the nodes and
their shares. So it does not depend on the order or the batches in which nodes came, and a node that
leaves and comes back gets its keys back. -/
theorem owner_independent_of_order (hash : HashFunction) (key : String) :
    (∀ (replicas replicas' : Nat) (batches batches' : List (List String)),
      let ring := batches.foldl UniformRing.add (.new replicas hash)
      let other := batches'.foldl UniformRing.add (.new replicas' hash)
      Uncontested ring.nodes ring.positions → ring.replicas = other.replicas →
      ((∀ node, node ∈ ring.nodes ↔ node ∈ other.nodes) → ring.owner? key = other.owner? key) ∧
      (batches.flatten.Perm batches'.flatten → ring.owner? key = other.owner? key)) ∧
    ∀ history : List WeightedRing.Request,
      let ring := WeightedRing.run history (.new hash)
      Uncontested ring.nodes ring.positionsOf →
      (∀ history' : List WeightedRing.Request,
        let other := WeightedRing.run history' (.new hash)
        (∀ node, ring.weight? node = other.weight? node) → ring.owner? key = other.owner? key) ∧
      (∀ earlier members members', history = earlier ++ WeightedRing.additions members →
        members.Perm members' → (members.map Prod.fst).Nodup →
        ring.owner? key = (WeightedRing.run (earlier ++ WeightedRing.additions members')
          (.new hash)).owner? key) ∧
      ∀ node weight, ring.weight? node = some weight →
        ring.owner? key =
          (WeightedRing.run (history ++ [.remove node, .add node weight]) (.new hash)).owner? key := by
  refine ⟨fun replicas replicas' batches batches' => ?_, fun history => ?_⟩
  · intro ring other alone shares
    have laid : ring = .ofNodes replicas hash batches.flatten.eraseDups :=
      UniformRing.foldl_add_new replicas hash batches
    have laid' : other = .ofNodes replicas' hash batches'.flatten.eraseDups :=
      UniformRing.foldl_add_new replicas' hash batches'
    have owners (same : ∀ node, node ∈ ring.nodes ↔ node ∈ other.nodes) :
        ring.owner? key = other.owner? key := by
      rw [laid, laid'] at same shares
      rw [laid] at alone
      rw [laid, laid']
      exact UniformRing.owner?_congr shares same alone key
    refine ⟨owners, fun perm => owners fun node => ?_⟩
    have names : ring.nodes = batches.flatten.eraseDups := by rw [laid]; rfl
    have names' : other.nodes = batches'.flatten.eraseDups := by rw [laid']; rfl
    rw [names, names', List.mem_eraseDups, List.mem_eraseDups, perm.mem_iff]
  · intro ring alone
    have owners (history' : List WeightedRing.Request)
        (weights : ∀ node, ring.weight? node =
          (WeightedRing.run history' (.new hash)).weight? node) :
        ring.owner? key = (WeightedRing.run history' (.new hash)).owner? key := by
      refine WeightedRing.Sound.owner?_congr (WeightedRing.run_sound hash history)
        (WeightedRing.run_sound hash history') ?_ weights alone key
      rw [WeightedRing.run_hash, WeightedRing.run_hash]
    refine ⟨owners, ?_, ?_⟩
    · rintro earlier members members' rfl perm distinct
      refine owners _ fun node => ?_
      simp only [ring, WeightedRing.run_append, WeightedRing.weight?_run_additions,
        WeightedRing.find?_of_perm perm distinct]
    · intro node weight found
      refine owners _ fun name => ?_
      rw [WeightedRing.run_append, (WeightedRing.run_sound hash history).weight?_return found]

/-- Three nodes in other batches, and a node that leaves a ring and comes back. -/
theorem shuffled_nodes_keep_their_keys :
    let uniform := [["0", "1"], ["9"]].foldl UniformRing.add (.new 3 Hash.number)
    let shuffled := [["9"], [], ["1", "0"]].foldl UniformRing.add (.new 0 Hash.number)
    let weighted := WeightedRing.run [.add "3" 2, .add "1" 3] (.new Hash.number)
    let returned := WeightedRing.run [.add "3" 2, .add "1" 3, .remove "3", .add "3" 2]
      (.new Hash.number)
    (uniform.owner? "23" = some "9" ∧ shuffled.owner? "23" = some "9") ∧
      weighted.owner? "23" = some "3" ∧ returned.owner? "23" = some "3" := by
  intro uniform shuffled weighted returned
  obtain ⟨ofUniform, ofWeighted⟩ := owner_independent_of_order Hash.number "23"
  have batches := (ofUniform 3 0 [["0", "1"], ["9"]] [["9"], [], ["1", "0"]]
    (by decide +kernel) rfl).2 (by decide)
  have comesBack := (ofWeighted [.add "3" 2, .add "1" 3]
    (by decide +kernel)).2.2 "3" 2 (by decide +kernel)
  have first : uniform.owner? "23" = some "9" := by decide +kernel
  have second : weighted.owner? "23" = some "3" := by decide +kernel
  exact ⟨⟨first, batches.symm.trans first⟩, second, comesBack.symm.trans second⟩

/-- A contested position goes to the node that comes last. -/
example :
    let ring := WeightedRing.run [.add "a" 1, .add "b" 1] (.new fun _ => 0)
    let other := WeightedRing.run [.add "b" 1, .add "a" 1] (.new fun _ => 0)
    ring.owner? "key" = some "b" ∧ other.owner? "key" = some "a" := by
  decide +kernel

end Lanes
