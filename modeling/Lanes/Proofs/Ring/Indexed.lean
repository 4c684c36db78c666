import Lanes.Ring.Indexed
import Lanes.Proofs.Ring.Circle
import Lanes.Proofs.Ring.Reference

/-!
# Indexed rings and plain ones

An indexed ring keeps its nodes in several places. Every operation keeps these in step: the index of
the names has the names that are listed, the circle holds the positions of all their replicas, with
repetitions and in ascending order, and a contested position belongs to the node that came last.
What is seen of an indexed ring changes as a plain ring does, so both answer alike; and the index
into the positions and the owner of a position are always found.
-/
namespace Lanes

/-! ### What is kept, and what is found -/

namespace Circle
variable {circle : Circle} {nodes : List String} {positions : String → List UInt32} {hash : UInt32}

/-- The circle of some nodes: it has each position as often as replicas lie there, in ascending
order, and a position belongs to the node that came last among those with a replica there. -/
structure Represents (circle : Circle) (nodes : List String) (positions : String → List UInt32) :
    Prop where
  ascending : Ascending circle.positions
  replicas : circle.positions.toList.Perm (nodes.flatMap positions)
  owners : ∀ p, circle.owners.get? p = Layout.lastHolder nodes positions p

/-- What is answered for a hash: what the reference says, and nobody only if there are no nodes. If
there are some the next position is there, and so is its owner. -/
structure Finds (circle : Circle) (nodes : List String) (positions : String → List UInt32)
    (hash : UInt32) (answer : Outcome (Option String)) : Prop where
  reference : answer = .returned (referenceOwner nodes positions hash)
  nobody : answer = .returned none ↔ nodes = []
  hits : nodes ≠ [] → ∃ p owner,
    circle.positions[successorIndex circle.positions hash]? = some p ∧
      circle.owners.get? p = some owner ∧ answer = .returned (some owner)

theorem Represents.holds (kept : circle.Represents nodes positions) :
    circle.Holds (nodes.flatMap positions) :=
  ⟨kept.replicas, fun p => by rw [kept.owners, Layout.lastHolder_isSome_iff]⟩

theorem Represents.owners_eq (kept : circle.Represents nodes positions) :
    circle.owners = .laid nodes positions :=
  OrderedMap.eq_of_get? fun p => by rw [kept.owners, Layout.get?_laid]

/-- Where every node has a replica the circle finds an owner whenever there are nodes. -/
theorem Represents.finds (kept : circle.Represents nodes positions)
    (placed : ∀ node ∈ nodes, positions node ≠ []) (hash : UInt32) :
    circle.Finds nodes positions hash (circle.owner? hash) := by
  have layout := kept.holds.owner?_eq kept.ascending hash
  have reference : circle.owner? hash = .returned (referenceOwner nodes positions hash) := by
    rw [layout, kept.owners_eq, Layout.successor_laid]
  refine ⟨reference, ?_, fun some => ?_⟩
  · rw [reference, Outcome.returned.injEq]
    exact referenceOwner_eq_none_iff placed
  · obtain ⟨node, there⟩ := List.exists_mem_of_ne_nil nodes some
    have used : nodes.flatMap positions ≠ [] := by
      intro none
      exact placed node there (List.flatMap_eq_nil_iff.mp none node there)
    obtain ⟨p, owner, found, held, answer⟩ := kept.holds.lookup kept.ascending used hash
    exact ⟨p, owner, found, held, by rw [layout, answer]⟩

end Circle

/-! ### Equal nodes -/

namespace IndexedUniformRing
variable {ring : IndexedUniformRing} {node : String}

/-- What holds of a ring also while its positions are not sorted. -/
structure Sound (ring : IndexedUniformRing) : Prop where
  members : ∀ node, ring.members.contains node = true ↔ node ∈ ring.nodes
  holds : ring.circle.Holds (ring.nodes.flatMap ring.positions)

theorem Sound.new (replicas : Nat) (hash : HashFunction) : (new replicas hash).Sound :=
  ⟨fun node => by simp [IndexedUniformRing.new, OrderedMap.contains], .empty⟩

theorem Sound.addNode (sound : ring.Sound) (node : String) : (ring.addNode node).Sound := by
  unfold IndexedUniformRing.addNode
  split
  · exact sound
  · constructor
    case members =>
      intro other
      have known := sound.members other
      rw [OrderedMap.contains] at known ⊢
      rw [OrderedMap.get?_insert, List.mem_append, List.mem_singleton, ← known]
      by_cases same : node = other
      · simp [same]
      · simp [same, Ne.symm same]
    case holds =>
      have placed := sound.holds.place node (ring.positions node)
      rwa [List.flatMap_append, List.flatMap_singleton]

/-- Appending a node looks the same from outside as adding it. -/
theorem Sound.plain_addNode (sound : ring.Sound) (node : String) :
    (ring.addNode node).plain = ring.plain.addNode node := by
  unfold IndexedUniformRing.addNode UniformRing.addNode
  by_cases there : node ∈ ring.nodes
  · have known := (sound.members node).mpr there
    simp [known, plain, there]
  · have unknown := mt (sound.members node).mp there
    simp [unknown, plain, there, Circle.owners_place, positions, UniformRing.positions]

theorem Sound.foldl_addNode (sound : ring.Sound) (nodes : List String) :
    (nodes.foldl IndexedUniformRing.addNode ring).Sound ∧
      (nodes.foldl IndexedUniformRing.addNode ring).plain =
        nodes.foldl UniformRing.addNode ring.plain := by
  induction nodes generalizing ring with
  | nil => exact ⟨sound, rfl⟩
  | cons node rest ih =>
    rw [List.foldl_cons, List.foldl_cons, ← sound.plain_addNode]
    exact ih (sound.addNode node)

/-- A batch is added as it is to a plain ring, and leaves the positions sorted. -/
theorem Sound.add (sound : ring.Sound) (nodes : List String) :
    (ring.add nodes).Sound ∧ (ring.add nodes).plain = ring.plain.add nodes ∧
      Ascending (ring.add nodes).circle.positions := by
  obtain ⟨added, seen⟩ := sound.foldl_addNode nodes
  exact ⟨⟨added.members, added.holds.sort⟩, seen, Circle.ascending_sort _⟩

theorem foldl_add_new (replicas : Nat) (hash : HashFunction) (batches : List (List String)) :
    let ring := batches.foldl add (new replicas hash)
    ring.Sound ∧ ring.plain = batches.foldl UniformRing.add (.new replicas hash) ∧
      Ascending ring.circle.positions := by
  suffices each : ∀ ring : IndexedUniformRing, ring.Sound → Ascending ring.circle.positions →
      (batches.foldl IndexedUniformRing.add ring).Sound ∧
        (batches.foldl IndexedUniformRing.add ring).plain =
          batches.foldl UniformRing.add ring.plain ∧
        Ascending (batches.foldl IndexedUniformRing.add ring).circle.positions from
    each _ (.new replicas hash) .nil
  induction batches with
  | nil => exact fun ring sound ascending => ⟨sound, rfl, ascending⟩
  | cons nodes rest ih =>
    intro ring sound _
    obtain ⟨added, seen, ascending⟩ := sound.add nodes
    rw [List.foldl_cons, List.foldl_cons, ← seen]
    exact ih _ added ascending

/-- After any batches the circle represents the first occurrences of all names that ever came. -/
theorem represents_foldl_add (replicas : Nat) (hash : HashFunction)
    (batches : List (List String)) :
    let ring := batches.foldl add (new replicas hash)
    ring.circle.Represents ring.nodes (UniformRing.new replicas hash).positions ∧
      ring.nodes = batches.flatten.eraseDups := by
  intro ring
  obtain ⟨sound, seen, ascending⟩ := foldl_add_new replicas hash batches
  have laid : ring.plain = .ofNodes replicas hash batches.flatten.eraseDups :=
    seen.trans (UniformRing.foldl_add_new replicas hash batches)
  have nodes : ring.nodes = batches.flatten.eraseDups := congrArg UniformRing.nodes laid
  have owners : ring.circle.owners = .laid ring.nodes (UniformRing.new replicas hash).positions := by
    rw [nodes]
    exact congrArg UniformRing.layout laid
  have positions : ring.positions = (UniformRing.new replicas hash).positions :=
    congrArg UniformRing.positions laid
  refine ⟨⟨ascending, ?_, fun p => by rw [owners, Layout.get?_laid]⟩, nodes⟩
  rw [← positions]
  exact sound.holds.perm

/-- What is kept of a ring is told by what is seen of it. -/
theorem Sound.unique {other : IndexedUniformRing} (sound : ring.Sound) (sound' : other.Sound)
    (ascending : Ascending ring.circle.positions) (ascending' : Ascending other.circle.positions)
    (same : other.plain = ring.plain) : other = ring := by
  obtain ⟨hash, replicas, ⟨positions, owners⟩, nodes, members⟩ := ring
  obtain ⟨hash', replicas', ⟨positions', owners'⟩, nodes', members'⟩ := other
  obtain ⟨rfl, rfl, rfl, rfl⟩ := UniformRing.mk.inj same
  have listed : positions'.toList = positions.toList :=
    (sound'.holds.perm.trans sound.holds.perm.symm).eq_of_pairwise
      (fun _ _ _ _ => Std.le_antisymm) ascending' ascending
  have known : members' = members := by
    refine OrderedMap.eq_of_get? fun node => ?_
    have agree := (sound'.members node).trans (sound.members node).symm
    simp only [OrderedMap.contains] at agree
    cases there : members.get? node <;> cases there' : members'.get? node <;> simp_all
  rw [Array.toList_inj.mp listed, known]

/-- Rings that ever got the same names in the same order are equal. -/
theorem foldl_add_eq {replicas : Nat} {hash : HashFunction} {batches others : List (List String)}
    (same : others.flatten.eraseDups = batches.flatten.eraseDups) :
    others.foldl add (new replicas hash) = batches.foldl add (new replicas hash) := by
  obtain ⟨sound, seen, ascending⟩ := foldl_add_new replicas hash batches
  obtain ⟨sound', seen', ascending'⟩ := foldl_add_new replicas hash others
  refine sound.unique sound' ascending ascending' ?_
  rw [seen, seen', UniformRing.foldl_add_new, UniformRing.foldl_add_new, same]

end IndexedUniformRing

/-! ### Weighted nodes -/

namespace IndexedWeightedRing
variable {ring : IndexedWeightedRing} {node : String} {weight : Nat}

/-- The answer to a request, with the ring that it leaves. -/
def answer (ring : IndexedWeightedRing) :
    WeightedRing.Request → Except Error (Bool × IndexedWeightedRing)
  | .add node weight => (ring.add node weight).map (true, ·)
  | .remove node => ring.remove node
  | .reweigh node weight => ring.reweigh node weight

/-- The ring after a request. -/
def apply (ring : IndexedWeightedRing) (request : WeightedRing.Request) : IndexedWeightedRing :=
  match ring.answer request with
  | .ok answered => answered.2
  | .error _ => ring

/-- The ring after a list of requests. -/
def run (history : List WeightedRing.Request) (ring : IndexedWeightedRing) :
    IndexedWeightedRing :=
  history.foldl apply ring

/-- Where the replicas of a node lie. -/
def positionsOf (ring : IndexedWeightedRing) (node : String) : List UInt32 :=
  WeightedRing.positions ring.hash node (ring.weightOf node)

/-- Weights are known for the names that are listed, and the circle holds their positions. -/
structure Sound (ring : IndexedWeightedRing) : Prop where
  weights : ∀ node, (ring.weights.get? node).isSome ↔ node ∈ ring.nodes
  ascending : Ascending ring.circle.positions
  holds : ring.circle.Holds (ring.nodes.flatMap ring.positionsOf)

theorem Sound.new (hash : HashFunction) : (new hash).Sound :=
  ⟨fun node => by simp [IndexedWeightedRing.new], .nil, .empty⟩

/-! #### What is seen of a ring -/

theorem plain_nodes (ring : IndexedWeightedRing) : ring.plain.nodes = ring.nodes := by
  simp [plain, WeightedRing.nodes, members, Function.comp_def]

theorem Sound.plain_weight? (sound : ring.Sound) (node : String) :
    ring.plain.weight? node = ring.weights.get? node := by
  cases known : ring.weights.get? node with
  | none =>
    refine WeightedRing.weight?_eq_none_iff.mpr ?_
    rw [plain_nodes, ← sound.weights, known]
    simp
  | some weight =>
    have there : node ∈ ring.nodes := (sound.weights node).mp (by simp [known])
    cases seen : ring.plain.weight? node with
    | none => exact absurd (ring.plain_nodes ▸ there) (WeightedRing.weight?_eq_none_iff.mp seen)
    | some other =>
      obtain ⟨name, -, is⟩ := List.mem_map.mp (WeightedRing.mem_of_weight? seen)
      obtain ⟨rfl, rfl⟩ := Prod.mk.inj is
      simp [weightOf, known]

theorem Sound.plain_contains (sound : ring.Sound) (node : String) :
    ring.plain.contains node = ring.contains node := by
  rw [WeightedRing.contains, sound.plain_weight?]
  rfl

/-! #### What the operations keep -/

theorem owners_foldl_place (hash : HashFunction) (members : List (String × Nat))
    (circle : Circle) : (members.foldl (place hash) circle).owners =
      members.foldl (WeightedRing.occupy hash) circle.owners := by
  induction members generalizing circle with
  | nil => rfl
  | cons member rest ih =>
    rw [List.foldl_cons, List.foldl_cons, ih, place, Circle.owners_place]
    rfl

theorem holds_foldl_place (hash : HashFunction) (members : List (String × Nat)) {circle : Circle}
    {taken : List UInt32} (holds : circle.Holds taken) :
    (members.foldl (place hash) circle).Holds
      (taken ++ members.flatMap (fun member => WeightedRing.positions hash member.1 member.2)) := by
  induction members generalizing circle taken with
  | nil => simpa using holds
  | cons member rest ih =>
    rw [List.flatMap_cons, ← List.append_assoc]
    exact ih (holds.place member.1 (WeightedRing.positions hash member.1 member.2))

theorem plain_rebuild (ring : IndexedWeightedRing) :
    ring.rebuild.plain = WeightedRing.rebuilt ring.hash ring.members := by
  have owners := owners_foldl_place ring.hash ring.members .empty
  exact congrArg (WeightedRing.mk ring.hash ring.members) owners

theorem Sound.rebuild (weights : ∀ node, (ring.weights.get? node).isSome ↔ node ∈ ring.nodes) :
    ring.rebuild.Sound where
  weights := weights
  ascending := Circle.ascending_sort _
  holds := by
    have holds := (holds_foldl_place ring.hash ring.members .empty).sort
    rw [List.nil_append, members, List.flatMap_map] at holds
    exact holds

theorem weightOf_appended (ring : IndexedWeightedRing) (node : String) (weight : Nat)
    (other : String) : (ring.appended node weight).weightOf other =
      if node = other then weight else ring.weightOf other := by
  rw [weightOf, appended, OrderedMap.get?_insert]
  split <;> rfl

/-- A node that is appended leaves the weights of the others as they are. -/
theorem weightOf_appended_of_mem {other : String} (absent : node ∉ ring.nodes)
    (there : other ∈ ring.nodes) :
    (ring.appended node weight).weightOf other = ring.weightOf other := by
  rw [weightOf_appended, if_neg]
  exact fun same => absent (same ▸ there)

theorem plain_appended (absent : node ∉ ring.nodes) :
    (ring.appended node weight).plain = ⟨ring.hash, ring.plain.members ++ [(node, weight)],
      WeightedRing.occupy ring.hash ring.plain.layout (node, weight)⟩ := by
  have members : (ring.appended node weight).members = ring.members ++ [(node, weight)] := by
    have others : ring.nodes.map (fun name => (name, (ring.appended node weight).weightOf name)) =
        ring.members :=
      List.map_congr_left fun name there => by rw [weightOf_appended_of_mem absent there]
    have its : (ring.appended node weight).weightOf node = weight := by
      rw [weightOf_appended, if_pos rfl]
    rw [IndexedWeightedRing.members, appended, List.map_append, ← appended, others, List.map_singleton,
      its]
  have owners : (ring.appended node weight).circle.owners =
      WeightedRing.occupy ring.hash ring.circle.owners (node, weight) := Circle.owners_place ..
  rw [plain, members, owners]
  rfl

theorem Sound.appended (sound : ring.Sound) (absent : node ∉ ring.nodes) :
    (ring.appended node weight).Sound where
  weights other := by
    have known := sound.weights other
    rw [IndexedWeightedRing.appended, OrderedMap.get?_insert, List.mem_append,
      List.mem_singleton, ← known]
    by_cases same : node = other
    · simp [same]
    · simp [same, Ne.symm same]
  ascending := Circle.ascending_sort _
  holds := by
    have placed := (sound.holds.place node (WeightedRing.positions ring.hash node weight)).sort
    have others : ring.nodes.flatMap (ring.appended node weight).positionsOf =
        ring.nodes.flatMap ring.positionsOf :=
      List.flatMap_congr fun name there => by
        rw [positionsOf, weightOf_appended_of_mem absent there]
        rfl
    have its : (ring.appended node weight).positionsOf node =
        WeightedRing.positions ring.hash node weight := by
      rw [positionsOf, weightOf_appended, if_pos rfl]
      rfl
    rw [IndexedWeightedRing.appended, List.flatMap_append, ← IndexedWeightedRing.appended, others,
      List.flatMap_singleton, its]
    exact placed

/-- What a request answers and leaves is, seen from outside, what it answers and leaves on a plain
ring. -/
structure Follows (answer : Except Error (Bool × IndexedWeightedRing))
    (plain : Except Error (Bool × WeightedRing)) : Prop where
  seen : answer.map (fun answered => (answered.1, answered.2.plain)) = plain
  sound : ∀ answered, answer = .ok answered → answered.2.Sound

theorem Follows.refused (cause : Error) : Follows (.error cause) (.error cause) := ⟨rfl, nofun⟩

theorem Follows.granted {after : IndexedWeightedRing} {plain : WeightedRing} {known : Bool}
    (seen : after.plain = plain) (sound : after.Sound) :
    Follows (.ok (known, after)) (.ok (known, plain)) := by
  refine ⟨by rw [← seen]; rfl, ?_⟩
  rintro answered ⟨⟩
  exact sound

theorem Sound.add (sound : ring.Sound) (node : String) (weight : Nat) :
    Follows ((ring.add node weight).map (true, ·)) ((ring.plain.add node weight).map (true, ·)) := by
  simp only [IndexedWeightedRing.add, WeightedRing.add, sound.plain_contains]
  by_cases named : node = ""
  · simp only [if_pos named]
    exact .refused _
  · by_cases there : ring.contains node = true
    · simp only [if_neg named, if_pos there]
      exact .refused _
    · have absent : node ∉ ring.nodes := mt (sound.weights node).mpr there
      simp only [if_neg named, if_neg there]
      exact .granted (plain_appended absent) (sound.appended absent)

theorem Sound.remove (sound : ring.Sound) (node : String) :
    Follows (ring.remove node) (ring.plain.remove node) := by
  simp only [IndexedWeightedRing.remove, WeightedRing.remove, sound.plain_contains]
  by_cases named : node = ""
  · simp only [if_pos named]
    exact .refused _
  · by_cases there : ring.contains node = true
    · simp only [if_neg named, if_pos there]
      refine .granted ?_ (.rebuild fun other => ?_)
      · rw [plain_rebuild]
        refine congrArg (WeightedRing.rebuilt ring.hash) ?_
        rw [plain, members, members, List.filter_map]
        refine List.map_congr_left fun name left => ?_
        have apart : node ≠ name := by
          rintro rfl
          simp at left
        simp [weightOf, OrderedMap.get?_erase, apart]
      · have known := sound.weights other
        rw [OrderedMap.get?_erase, List.mem_filter, ← known]
        by_cases same : node = other
        · simp [same]
        · simp [same, Ne.symm same]
    · simp only [if_neg named, if_neg there]
      exact .granted rfl sound

theorem Sound.reweigh (sound : ring.Sound) (node : String) (weight : Nat) :
    Follows (ring.reweigh node weight) (ring.plain.reweigh node weight) := by
  simp only [IndexedWeightedRing.reweigh, WeightedRing.reweigh, sound.plain_weight?]
  by_cases named : node = ""
  · simp only [if_pos named]
    exact .refused _
  · by_cases zero : weight = 0
    · simp only [if_neg named, if_pos zero]
      exact sound.remove node
    · simp only [if_neg named, if_neg zero]
      cases known : ring.weights.get? node with
      | none => exact .granted rfl sound
      | some current =>
        by_cases same : current = weight
        · simp only [if_pos same]
          exact .granted rfl sound
        · simp only [if_neg same]
          refine .granted ?_ (.rebuild fun other => ?_)
          · rw [plain_rebuild]
            refine congrArg (WeightedRing.rebuilt ring.hash) ?_
            rw [plain, members, members, List.map_map]
            refine List.map_congr_left fun name _ => ?_
            rw [weightOf, OrderedMap.get?_insert]
            by_cases here : node = name
            · simp [here]
            · simp [here, Ne.symm here, weightOf]
          · have known := sound.weights other
            rw [OrderedMap.get?_insert, ← known]
            by_cases same : node = other
            · simp_all
            · simp [same]

theorem Sound.answer (sound : ring.Sound) (request : WeightedRing.Request) :
    Follows (ring.answer request) (ring.plain.answer request) := by
  cases request with
  | add node weight => exact sound.add node weight
  | remove node => exact sound.remove node
  | reweigh node weight => exact sound.reweigh node weight

theorem Sound.apply (sound : ring.Sound) (request : WeightedRing.Request) :
    (ring.apply request).Sound ∧ (ring.apply request).plain = ring.plain.apply request := by
  obtain ⟨seen, kept⟩ := sound.answer request
  unfold IndexedWeightedRing.apply WeightedRing.apply
  rw [← seen]
  cases answered : ring.answer request with
  | error cause => exact ⟨sound, rfl⟩
  | ok after => exact ⟨kept after answered, rfl⟩

theorem Sound.run (sound : ring.Sound) (history : List WeightedRing.Request) :
    (run history ring).Sound ∧ (run history ring).plain = WeightedRing.run history ring.plain := by
  induction history generalizing ring with
  | nil => exact ⟨sound, rfl⟩
  | cons request rest ih =>
    obtain ⟨kept, seen⟩ := sound.apply request
    obtain ⟨last, same⟩ := ih kept
    exact ⟨last, same.trans (congrArg (WeightedRing.run rest) seen)⟩

theorem run_new (hash : HashFunction) (history : List WeightedRing.Request) :
    (run history (new hash)).Sound ∧
      (run history (new hash)).plain = WeightedRing.run history (.new hash) :=
  (Sound.new hash).run history

/-- After any history the circle represents the nodes that are left, with their weights. -/
theorem represents_run (hash : HashFunction) (history : List WeightedRing.Request) :
    let ring := run history (new hash)
    ring.circle.Represents ring.nodes ring.positionsOf ∧ ring.nodes.Nodup ∧
      ring.hash = hash ∧ ∀ node ∈ ring.nodes, ring.positionsOf node ≠ [] := by
  intro ring
  obtain ⟨sound, seen⟩ := run_new hash history
  have plain : ring.plain.Sound := seen ▸ WeightedRing.run_sound hash history
  have positions : ring.plain.positionsOf = ring.positionsOf := by
    funext node
    rw [WeightedRing.positionsOf, sound.plain_weight?]
    rfl
  have owners : ring.circle.owners = .laid ring.nodes ring.positionsOf := by
    rw [← ring.plain_nodes, ← positions]
    exact plain.layout_eq
  refine ⟨⟨sound.ascending, sound.holds.perm, fun p => by rw [owners, Layout.get?_laid]⟩,
    ring.plain_nodes ▸ plain.distinct, ?_, fun node there => ?_⟩
  · have same := WeightedRing.run_hash hash history
    rwa [← seen] at same
  · rw [← positions]
    exact plain.positionsOf_ne_nil (ring.plain_nodes ▸ there)

end IndexedWeightedRing

/-! ### Owners -/

/-- After any history a ring keeps what it is to keep, and the owner of a key is that of the
reference. What is seen of it is a plain ring after the same history, which answers all requests
alike. A ring with equal nodes has the first occurrences of all names that ever came as its nodes,
and depends on them alone. -/
theorem owner_eq_reference (hash : HashFunction) (key : String) :
    (∀ (replicas : Nat) (batches : List (List String)),
      let share := if replicas = 0 then defaultReplicas else replicas
      let positions := fun node =>
        (List.range share).map (fun i => hash (Bytes.ofText (toString i ++ node)))
      let ring := batches.foldl IndexedUniformRing.add (.new replicas hash)
      (ring.circle.Represents ring.nodes positions ∧
        ∀ node, ring.members.contains node = true ↔ node ∈ ring.nodes) ∧
      ring.circle.Finds ring.nodes positions (hash (Bytes.ofText key)) (ring.owner? key) ∧
      ring.nodes = batches.flatten.eraseDups ∧
      (∀ others : List (List String), others.flatten.eraseDups = batches.flatten.eraseDups →
        others.foldl IndexedUniformRing.add (.new replicas hash) = ring) ∧
      ring.plain = batches.foldl UniformRing.add (.new replicas hash) ∧
      ring.owner? key = .returned (ring.plain.owner? key)) ∧
    ∀ history : List WeightedRing.Request,
      let ring := IndexedWeightedRing.run history (.new hash)
      let positions := fun node => (List.range ((ring.weight? node).getD 0)).map
        (fun i => hash (Bytes.ofText (node ++ toString i)))
      (ring.circle.Represents ring.nodes positions ∧ ring.nodes.Nodup ∧
        ∀ node, ring.contains node = true ↔ node ∈ ring.nodes) ∧
      ring.circle.Finds ring.nodes positions (hash (Bytes.ofText key)) (ring.owner? key) ∧
      ring.plain = WeightedRing.run history (.new hash) ∧
      ring.owner? key = .returned (ring.plain.owner? key) ∧
      ∀ request, (ring.answer request).map (fun answered => (answered.1, answered.2.plain)) =
        ring.plain.answer request := by
  refine ⟨fun replicas batches => ?equal, fun history => ?weighted⟩
  case equal =>
    intro share positions ring
    obtain ⟨kept, nodes⟩ := IndexedUniformRing.represents_foldl_add replicas hash batches
    obtain ⟨sound, seen, ascending⟩ := IndexedUniformRing.foldl_add_new replicas hash batches
    have hashes : ring.hash = hash :=
      congrArg UniformRing.hash (seen.trans (UniformRing.foldl_add_new replicas hash batches))
    have owner : ring.owner? key = ring.circle.owner? (hash (Bytes.ofText key)) := by
      rw [IndexedUniformRing.owner?, hashes]
    refine ⟨⟨kept, sound.members⟩, ?_, nodes,
      fun others same => IndexedUniformRing.foldl_add_eq same, seen, ?_⟩
    · rw [owner]
      exact kept.finds (fun node _ => UniformRing.positions_ne_nil replicas hash node) _
    · exact sound.holds.owner?_eq ascending _
  case weighted =>
    intro ring positions
    obtain ⟨kept, distinct, hashes, placed⟩ := IndexedWeightedRing.represents_run hash history
    obtain ⟨sound, seen⟩ := IndexedWeightedRing.run_new hash history
    have same : ring.positionsOf = positions := by
      funext node
      rw [IndexedWeightedRing.positionsOf, hashes]
      rfl
    have owner : ring.owner? key = ring.circle.owner? (hash (Bytes.ofText key)) := by
      rw [IndexedWeightedRing.owner?, hashes]
    rw [same] at kept placed
    refine ⟨⟨kept, distinct, sound.weights⟩, ?_, seen, ?_, fun request => ?_⟩
    · rw [owner]
      exact kept.finds placed _
    · exact sound.holds.owner?_eq sound.ascending _
    · exact (sound.answer request).seen

/-- All replicas lie at one position, which goes to the node that came last. -/
example : let ring := ((IndexedUniformRing.new 2 fun _ => 7).add ["a"]).add ["b", "a"]
    ring.circle.positions = #[7, 7, 7, 7] ∧ ring.nodes = ["a", "b"] ∧
      ring.owner? "c" = .returned (some "b") := by
  cbv

end Lanes
