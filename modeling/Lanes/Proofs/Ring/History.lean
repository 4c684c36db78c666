import Mathlib.Data.List.Nodup
import Lanes.Ring.Weighted
import Lanes.Proofs.Ring.Lookup

/-!
# Histories of weighted rings

A weighted ring changes by requests to add a node, to remove one or to give one another weight; a
request that is refused changes nothing. Whatever was asked of a ring, its nodes have distinct names
and positive weights, and its layout is that of its present members laid out one after the other, in
the order in which they came.
-/
namespace Lanes
namespace WeightedRing

/-- What can be asked of a ring. -/
inductive Request where
  | add (node : String) (weight : Nat)
  | remove (node : String)
  | reweigh (node : String) (weight : Nat)

/-- The answer to a request, with the ring that it leaves. -/
def answer (ring : WeightedRing) : Request → Except Error (Bool × WeightedRing)
  | .add node weight => (ring.add node weight).map (true, ·)
  | .remove node => ring.remove node
  | .reweigh node weight => ring.reweigh node weight

/-- The ring after a request. -/
def apply (ring : WeightedRing) (request : Request) : WeightedRing :=
  match ring.answer request with
  | .ok answered => answered.2
  | .error _ => ring

/-- The ring after a list of requests. -/
def run (history : List Request) (ring : WeightedRing) : WeightedRing := history.foldl apply ring

/-- What every request keeps, every history keeps. -/
theorem run_keeps {P : WeightedRing → Prop} (each : ∀ ring request, P ring → P (ring.apply request))
    (history : List Request) {ring : WeightedRing} (start : P ring) : P (run history ring) := by
  induction history generalizing ring with
  | nil => exact start
  | cons request rest ih => exact ih (each ring request start)

/-! ### What a request does -/

/-- Whose weight a request raises or lowers. -/
inductive Effect where
  | raises (node : String)
  | lowers (node : String)
  | none

/-- An addition that succeeds raises a weight, a removal that succeeds lowers one, and a new weight
does either or, if it is the present one or nobody's, neither. -/
def effect (ring : WeightedRing) : Request → Effect
  | .add node weight =>
    match ring.add node weight with
    | .ok _ => .raises node
    | .error _ => .none
  | .remove node =>
    match ring.remove node with
    | .ok (true, _) => .lowers node
    | _ => .none
  | .reweigh node weight =>
    match ring.weight? node with
    | Option.none => .none
    | some current =>
      if current < weight then .raises node
      else if weight < current then .lowers node
      else .none

/-- The weight that a node gets that is added with a number. -/
def granted (weight : Nat) : Nat := if weight = 0 then defaultWeight else weight

/-- The members without a node. -/
def without (members : List (String × Nat)) (node : String) : List (String × Nat) :=
  members.filter (fun member => member.1 ≠ node)

/-- The members with another weight for a node. -/
def reweighed (members : List (String × Nat)) (node : String) (weight : Nat) :
    List (String × Nat) :=
  members.map (fun member => if member.1 = node then (node, weight) else member)

/-- All that a request can do to a ring. -/
inductive Change (ring : WeightedRing) : Effect → WeightedRing → Prop
  | added {node : String} {weight : Nat} (named : node ≠ "") (new : node ∉ ring.nodes)
      (pos : 0 < weight) :
      Change ring (.raises node)
        ⟨ring.hash, ring.members ++ [(node, weight)], occupy ring.hash ring.layout (node, weight)⟩
  | removed {node : String} (there : node ∈ ring.nodes) :
      Change ring (.lowers node) (rebuilt ring.hash (without ring.members node))
  | raised {node : String} {current weight : Nat} (there : (node, current) ∈ ring.members)
      (more : current < weight) :
      Change ring (.raises node) (rebuilt ring.hash (reweighed ring.members node weight))
  | lowered {node : String} {current weight : Nat} (there : (node, current) ∈ ring.members)
      (pos : 0 < weight) (less : weight < current) :
      Change ring (.lowers node) (rebuilt ring.hash (reweighed ring.members node weight))
  | none : Change ring .none ring

/-- What holds of a ring after any history. -/
structure Sound (ring : WeightedRing) : Prop where
  named : "" ∉ ring.nodes
  distinct : ring.nodes.Nodup
  weighty : ∀ member ∈ ring.members, 0 < member.2
  laid : ring.layout = ring.members.foldl (occupy ring.hash) .empty

variable {ring : WeightedRing} {node : String} {weight : Nat}

theorem weight?_eq_none_iff : ring.weight? node = none ↔ node ∉ ring.nodes := by
  simp only [weight?, nodes, Option.map_eq_none_iff, List.find?_eq_none, List.mem_map,
    decide_eq_true_eq, not_exists, not_and]

theorem mem_of_weight? (h : ring.weight? node = some weight) : (node, weight) ∈ ring.members := by
  obtain ⟨member, found, rfl⟩ := Option.map_eq_some_iff.mp h
  have same : member.1 = node := by simpa using List.find?_some found
  exact same ▸ List.mem_of_find?_eq_some found

/-- A node has one entry among the members. -/
theorem Sound.unique (sound : ring.Sound) (there : (node, weight) ∈ ring.members)
    {member : String × Nat} (mem : member ∈ ring.members) (same : member.1 = node) :
    member = (node, weight) :=
  List.inj_on_of_nodup_map sound.distinct mem there same

theorem Sound.weight?_of_mem (sound : ring.Sound) (there : (node, weight) ∈ ring.members) :
    ring.weight? node = some weight := by
  cases found : ring.weight? node with
  | none => exact absurd (List.mem_map_of_mem there) (weight?_eq_none_iff.mp found)
  | some other =>
    have one : (node, other) = (node, weight) := sound.unique there (mem_of_weight? found) rfl
    rw [(Prod.mk.inj one).2]

theorem contains_iff : ring.contains node = true ↔ node ∈ ring.nodes := by
  rw [contains, Option.isSome_iff_ne_none, ne_eq, weight?_eq_none_iff, Decidable.not_not]

/-! ### What a request does to a ring -/

theorem add_changes (ring : WeightedRing) (node : String) (weight : Nat) :
    Change ring (ring.effect (.add node weight)) (ring.apply (.add node weight)) := by
  simp only [effect, apply, answer, add]
  by_cases named : node = ""
  · simp only [if_pos named]
    exact .none
  · by_cases there : ring.contains node = true
    · simp only [if_neg named, if_pos there]
      exact .none
    · simp only [if_neg named, if_neg there]
      refine .added named (mt contains_iff.mpr there) ?_
      split
      · decide
      · omega

theorem remove_of_mem (named : node ≠ "") (there : node ∈ ring.nodes) :
    ring.remove node = .ok (true, rebuilt ring.hash (without ring.members node)) := by
  rw [remove, if_neg named, if_pos (contains_iff.mpr there)]
  rfl

theorem remove_of_not_mem (named : node ≠ "") (absent : node ∉ ring.nodes) :
    ring.remove node = .ok (false, ring) := by
  rw [remove, if_neg named, if_neg (mt contains_iff.mp absent)]

theorem remove_changes (ring : WeightedRing) (node : String) :
    Change ring (ring.effect (.remove node)) (ring.apply (.remove node)) := by
  simp only [effect, apply, answer]
  by_cases named : node = ""
  · simp only [remove, if_pos named]
    exact .none
  · by_cases there : node ∈ ring.nodes
    · simp only [remove_of_mem named there]
      exact .removed there
    · simp only [remove_of_not_mem named there]
      exact .none

theorem reweigh_of_weight? (named : node ≠ "") (pos : weight ≠ 0) {current : Nat}
    (found : ring.weight? node = some current) (apart : current ≠ weight) :
    ring.reweigh node weight =
      .ok (true, rebuilt ring.hash (reweighed ring.members node weight)) := by
  simp only [reweigh, if_neg named, if_neg pos, found, if_neg apart]
  rfl

theorem Sound.reweigh_changes (sound : ring.Sound) (node : String) (weight : Nat) :
    Change ring (ring.effect (.reweigh node weight)) (ring.apply (.reweigh node weight)) := by
  simp only [effect, apply, answer]
  cases found : ring.weight? node with
  | none =>
    have absent : node ∉ ring.nodes := weight?_eq_none_iff.mp found
    by_cases named : node = ""
    · simp only [reweigh, if_pos named]
      exact .none
    · by_cases zero : weight = 0
      · simp only [reweigh, if_neg named, if_pos zero, remove_of_not_mem named absent]
        exact .none
      · simp only [reweigh, if_neg named, if_neg zero, found]
        exact .none
  | some current =>
    have there : (node, current) ∈ ring.members := mem_of_weight? found
    have listed : node ∈ ring.nodes := List.mem_map_of_mem there
    have named : node ≠ "" := fun empty => sound.named (empty ▸ listed)
    by_cases zero : weight = 0
    · subst zero
      simp only [reweigh, if_neg named, if_true, remove_of_mem named listed, Nat.not_lt_zero,
        if_false, if_pos (sound.weighty _ there)]
      exact .removed listed
    · have changed := reweigh_of_weight? named zero found
      rcases Nat.lt_trichotomy current weight with more | same | less
      · simp only [if_pos more, changed (Nat.ne_of_lt more)]
        exact .raised there more
      · simp only [same, Nat.lt_irrefl, if_false, reweigh, if_neg named, if_neg zero, found,
          if_true]
        exact .none
      · simp only [if_neg (Nat.lt_asymm less), if_pos less, changed (Nat.ne_of_gt less)]
        exact .lowered there (Nat.pos_of_ne_zero zero) less

theorem Sound.changes (sound : ring.Sound) (request : Request) :
    Change ring (ring.effect request) (ring.apply request) := by
  cases request with
  | add node weight => exact ring.add_changes node weight
  | remove node => exact ring.remove_changes node
  | reweigh node weight => exact sound.reweigh_changes node weight

/-! ### What every history keeps -/

theorem Change.hash {effect : Effect} {after : WeightedRing} (change : Change ring effect after) :
    after.hash = ring.hash := by
  cases change <;> rfl

theorem nodes_reweighed (members : List (String × Nat)) (node : String) (weight : Nat) :
    (reweighed members node weight).map Prod.fst = members.map Prod.fst := by
  rw [reweighed, List.map_map]
  refine List.map_congr_left fun member _ => ?_
  by_cases same : member.1 = node <;> simp [same]

theorem Sound.reweighed (sound : ring.Sound) (node : String) (pos : 0 < weight) :
    (rebuilt ring.hash (reweighed ring.members node weight)).Sound := by
  have names : (rebuilt ring.hash (WeightedRing.reweighed ring.members node weight)).nodes =
      ring.nodes := nodes_reweighed ring.members node weight
  refine ⟨names ▸ sound.named, names ▸ sound.distinct, ?_, rfl⟩
  intro member mem
  obtain ⟨before, was, rfl⟩ := List.mem_map.mp mem
  by_cases same : before.1 = node
  · simpa [same] using pos
  · simpa [same] using sound.weighty before was

theorem Change.sound {effect : Effect} {after : WeightedRing} (change : Change ring effect after)
    (sound : ring.Sound) : after.Sound := by
  cases change with
  | @added node weight named new pos =>
    have names : (ring.members ++ [(node, weight)]).map Prod.fst = ring.nodes ++ [node] := by
      simp [nodes]
    constructor
    · rw [nodes, names]
      simpa [Ne.symm named] using sound.named
    · rw [nodes, names]
      refine List.nodup_append.mpr ⟨sound.distinct, List.nodup_singleton _, ?_⟩
      intro old mem latest is same
      exact new (List.mem_singleton.mp is ▸ same ▸ mem)
    · intro member mem
      rcases List.mem_append.mp mem with old | latest
      · exact sound.weighty member old
      · obtain rfl := List.mem_singleton.mp latest
        exact pos
    · simp [sound.laid]
  | @removed node there =>
    have fewer : List.Sublist ((without ring.members node).map Prod.fst) ring.nodes :=
      (List.filter_sublist).map _
    exact ⟨fun empty => sound.named (fewer.subset empty), sound.distinct.sublist fewer,
      fun member mem => sound.weighty member (List.mem_of_mem_filter mem), rfl⟩
  | raised there more => exact sound.reweighed _ (Nat.zero_lt_of_lt more)
  | lowered there pos less => exact sound.reweighed _ pos
  | none => exact sound

theorem Sound.new (hash : HashFunction) : (new hash).Sound :=
  ⟨List.not_mem_nil, List.nodup_nil, by simp [WeightedRing.new], rfl⟩

theorem Sound.apply (sound : ring.Sound) (request : Request) : (ring.apply request).Sound :=
  (sound.changes request).sound sound

theorem run_sound (hash : HashFunction) (history : List Request) :
    (run history (new hash)).Sound :=
  run_keeps (fun _ request sound => sound.apply request) history (.new hash)

theorem run_hash (hash : HashFunction) (history : List Request) :
    (run history (new hash)).hash = hash :=
  (run_keeps (P := fun ring => ring.Sound ∧ ring.hash = hash)
    (fun _ request kept =>
      ⟨kept.1.apply request, (kept.1.changes request).hash.trans kept.2⟩)
    history ⟨.new hash, rfl⟩).2

end WeightedRing
end Lanes
