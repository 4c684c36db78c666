import Mathlib.Data.List.Nodup
import Lanes.Hash.Number
import Lanes.Proofs.Number.Texts
import Lanes.Proofs.Ring.Reference

/-!
# Shares of nodes

A node claims a position for each of its labels, its name together with a number. The labels of one
node are distinct, but two nodes can have a label in common, as `11` followed by `0` reads like `1`
followed by `10`. Where a hash function tells all labels of a ring apart, a node has exactly the
positions of those of its labels that no node after it has, so every node has its full share exactly
if no two nodes have a label in common. Names that do not begin with one another, or do not end with
one another on a ring that writes the number in front, are enough for this.
-/
namespace Lanes

/-- No two different labels are hashed to one position. -/
def Separates (hash : HashFunction) (labels : List Bytes) : Prop :=
  ∀ a ∈ labels, ∀ b ∈ labels, hash a = hash b → a = b

namespace Layout

/-- The positions that belong to a node. -/
def held (layout : Layout) (node : String) : List UInt32 :=
  (layout.entries.filter (fun entry => entry.2 = node)).map Prod.fst

/-- How many positions belong to a node. -/
def share (layout : Layout) (node : String) : Nat := (layout.held node).length

theorem mem_held_iff {layout : Layout} {node : String} {p : UInt32} :
    p ∈ layout.held node ↔ layout.get? p = some node := by
  simp [held, ← mem_entries_iff]

theorem nodup_held (layout : Layout) (node : String) : (layout.held node).Nodup :=
  layout.nodup_keys.sublist (List.filter_sublist.map _)

/-! ### Shares in a layout of some nodes -/

variable {nodes before after : List String} {node : String}

/-- The last one with a replica at a position has one there, and nobody after it has. -/
theorem lastHolder_eq_some_iff {positions : String → List UInt32} {p : UInt32}
    (distinct : nodes.Nodup) (split : nodes = before ++ node :: after) :
    lastHolder nodes positions p = some node ↔
      p ∈ positions node ∧ p ∉ after.flatMap positions := by
  subst split
  have absent : node ∉ after :=
    (List.nodup_cons.mp (List.nodup_append.mp distinct).2.1).1
  unfold lastHolder
  rw [List.filter_append, List.filter_cons]
  cases later : after.filter (fun other => p ∈ positions other) with
  | nil =>
    have free : p ∉ after.flatMap positions := by
      simpa [List.filter_eq_nil_iff] using later
    by_cases here : p ∈ positions node
    · simp [here, free]
    · simp only [here, decide_false, Bool.false_eq_true, if_false, List.append_nil, false_and,
        iff_false]
      intro last
      have mem := List.mem_of_getLast? last
      exact here (by simpa using (List.mem_filter.mp mem).2)
  | cons other rest =>
    have holders : ∀ holder ∈ other :: rest, holder ∈ after ∧ p ∈ positions holder := by
      intro holder mem
      simpa [← later] using mem
    have claimed : p ∈ after.flatMap positions := by
      obtain ⟨mem, holds⟩ := holders other List.mem_cons_self
      exact List.mem_flatMap.mpr ⟨other, mem, holds⟩
    simp only [claimed, not_true, and_false, iff_false]
    intro last
    have behind : (other :: rest).getLast? = some node := by
      by_cases here : p ∈ positions node <;> simpa [here, List.getLast?_cons] using last
    exact absent (holders node (List.mem_of_getLast? behind)).1

variable {labels : String → List Bytes} {hash : HashFunction}

/-- The nodes laid out at the hashes of their labels. -/
def labelled (hash : HashFunction) (labels : String → List Bytes) (nodes : List String) : Layout :=
  laid nodes (fun node => (labels node).map hash)

/-- Of its labels a node keeps the positions of those that no later node has. -/
theorem share_labelled (apart : Separates hash (nodes.flatMap labels)) (distinct : nodes.Nodup)
    (own : (labels node).Nodup) (split : nodes = before ++ node :: after) :
    (labelled hash labels nodes).share node =
      ((labels node).filter (· ∉ after.flatMap labels)).length := by
  have used {other : String} {label : Bytes} (mem : other ∈ nodes) (its : label ∈ labels other) :
      label ∈ nodes.flatMap labels := List.mem_flatMap.mpr ⟨other, mem, its⟩
  have there : node ∈ nodes := by simp [split]
  have behind {other : String} (mem : other ∈ after) : other ∈ nodes := by simp [split, mem]
  -- a later node has the position of a label only if it has the label itself
  have taken {label : Bytes} (its : label ∈ labels node) :
      hash label ∈ after.flatMap (fun other => (labels other).map hash) ↔
        label ∈ after.flatMap labels := by
    simp only [List.mem_flatMap, List.mem_map]
    constructor
    · rintro ⟨other, mem, rival, theirs, same⟩
      have eq : rival = label := apart rival (used (behind mem) theirs) label (used there its) same
      exact ⟨other, mem, eq ▸ theirs⟩
    · rintro ⟨other, mem, theirs⟩
      exact ⟨other, mem, label, theirs, rfl⟩
  have perm : ((labelled hash labels nodes).held node).Perm
      (((labels node).filter (· ∉ after.flatMap labels)).map hash) := by
    refine (List.perm_ext_iff_of_nodup (nodup_held ..) ?_).mpr fun p => ?_
    · refine List.Nodup.map_on ?_ (own.filter _)
      intro a memA b memB same
      exact apart a (used there (List.mem_of_mem_filter memA)) b
        (used there (List.mem_of_mem_filter memB)) same
    · rw [mem_held_iff, labelled, get?_laid, lastHolder_eq_some_iff distinct split]
      simp only [List.mem_map, List.mem_filter, decide_eq_true_eq]
      constructor
      · rintro ⟨⟨label, its, rfl⟩, free⟩
        exact ⟨label, ⟨its, mt (taken its).mpr free⟩, rfl⟩
      · rintro ⟨label, ⟨its, free⟩, rfl⟩
        exact ⟨⟨label, its, rfl⟩, mt (taken its).mp free⟩
  rw [share, perm.length_eq, List.length_map]

end Layout

/-- No node has a label of another one. -/
def LabelsApart (nodes : List String) (labels : String → List Bytes) : Prop :=
  nodes.Pairwise (fun a b => (labels a).Disjoint (labels b))

section Full
variable {nodes : List String} {labels : String → List Bytes} {hash : HashFunction}

/-- A relation holds pairwise if it holds between each element and all those behind it. -/
theorem pairwise_iff_splits {α : Type} {R : α → α → Prop} {list : List α} :
    list.Pairwise R ↔ ∀ before a after, list = before ++ a :: after → ∀ b ∈ after, R a b := by
  constructor
  · rintro pairwise before a after rfl
    exact (List.pairwise_cons.mp (List.pairwise_append.mp pairwise).2.1).1
  · induction list with
    | nil => exact fun _ => .nil
    | cons first rest ih =>
      intro splits
      refine List.pairwise_cons.mpr ⟨splits [] first rest rfl, ih fun before a after split => ?_⟩
      exact splits (first :: before) a after (by rw [split, List.cons_append])

/-- All nodes have their full share exactly if no two have a label in common. -/
theorem full_iff_labelsApart (apart : Separates hash (nodes.flatMap labels))
    (distinct : nodes.Nodup) (own : ∀ node ∈ nodes, (labels node).Nodup) :
    (∀ node ∈ nodes, (Layout.labelled hash labels nodes).share node = (labels node).length) ↔
      LabelsApart nodes labels := by
  have full {before after : List String} {node : String} (split : nodes = before ++ node :: after) :
      (Layout.labelled hash labels nodes).share node = (labels node).length ↔
        ∀ other ∈ after, (labels node).Disjoint (labels other) := by
    have there : node ∈ nodes := by simp [split]
    rw [Layout.share_labelled apart distinct (own node there) split,
      List.length_filter_eq_length_iff]
    simp only [List.mem_flatMap, not_exists, not_and, decide_eq_true_eq]
    exact ⟨fun free other mem label its theirs => free label its other mem theirs,
      fun free label its other mem theirs => free other mem its theirs⟩
  rw [LabelsApart, pairwise_iff_splits]
  constructor
  · intro all before node after split
    exact (full split).mp (all node (by simp [split]))
  · intro disjoint node there
    obtain ⟨before, after, split⟩ := List.append_of_mem there
    exact (full split).mpr (disjoint before node after split)

end Full

/-! ### Labels as texts -/

theorem Bytes.ofText_inj {a b : String} : Bytes.ofText a = Bytes.ofText b ↔ a = b := by
  refine ⟨fun same => ?_, congrArg _⟩
  exact String.toByteArray_inj.mp (ByteArray.ext (Array.ext' same))

/-- Where a text with a number behind it reads like another one, one begins with the other. -/
theorem prefix_of_numbered {a b : String} {i j : Nat} (same : a ++ toString i = b ++ toString j) :
    a.toList <+: b.toList ∨ b.toList <+: a.toList := by
  have lists := congrArg String.toList same
  rw [String.toList_append, String.toList_append] at lists
  rcases List.append_eq_append_iff.mp lists with ⟨rest, is, -⟩ | ⟨rest, is, -⟩
  · exact .inl ⟨rest, is.symm⟩
  · exact .inr ⟨rest, is.symm⟩

/-- Where a text with a number before it reads like another one, one ends with the other. -/
theorem suffix_of_numbered {a b : String} {i j : Nat} (same : toString i ++ a = toString j ++ b) :
    a.toList <:+ b.toList ∨ b.toList <:+ a.toList := by
  have lists := congrArg String.toList same
  rw [String.toList_append, String.toList_append] at lists
  rcases List.append_eq_append_iff.mp lists with ⟨rest, -, is⟩ | ⟨rest, -, is⟩
  · exact .inr ⟨rest, is.symm⟩
  · exact .inl ⟨rest, is.symm⟩

/-! ### Rings -/

namespace WeightedRing

/-- The labels of a node, its name followed by each number below its weight. -/
def labels (ring : WeightedRing) (node : String) : List Bytes :=
  (List.range ((ring.weight? node).getD 0)).map (fun i => Bytes.ofText (node ++ toString i))

theorem nodup_labels (ring : WeightedRing) (node : String) : (ring.labels node).Nodup := by
  refine List.Nodup.map (fun i j same => ?_) List.nodup_range
  exact Decimal.eq_of_toString_eq ((String.append_right_inj node).mp (Bytes.ofText_inj.mp same))

theorem Sound.layout_eq_labelled {ring : WeightedRing} (sound : ring.Sound) :
    ring.layout = .labelled ring.hash ring.labels ring.nodes := by
  rw [sound.layout_eq, Layout.labelled]
  congr 1
  funext node
  rw [positionsOf, positions, labels, List.map_map]
  rfl

theorem Sound.weight?_eq_length {ring : WeightedRing} (sound : ring.Sound) {node : String}
    (there : node ∈ ring.nodes) : ring.weight? node = some (ring.labels node).length := by
  obtain ⟨member, mem, rfl⟩ := List.mem_map.mp there
  simp [labels, sound.weight?_of_mem mem]

/-- Names that do not begin with one another make no label twice. -/
theorem Sound.labelsApart {ring : WeightedRing} (sound : ring.Sound)
    (free : ∀ a ∈ ring.nodes, ∀ b ∈ ring.nodes, a.toList <+: b.toList → a = b) :
    LabelsApart ring.nodes ring.labels := by
  refine sound.distinct.imp_of_mem fun {a b} memA memB ne label its theirs => ?_
  obtain ⟨i, -, rfl⟩ := List.mem_map.mp its
  obtain ⟨j, -, same⟩ := List.mem_map.mp theirs
  rcases prefix_of_numbered (Bytes.ofText_inj.mp same) with short | short
  · exact ne (free b memB a memA short).symm
  · exact ne (free a memA b memB short)

end WeightedRing

namespace UniformRing

/-- The labels of a node, each number below that of the replicas followed by its name. -/
def labels (ring : UniformRing) (node : String) : List Bytes :=
  (List.range ring.replicas).map (fun i => Bytes.ofText (toString i ++ node))

theorem nodup_labels (ring : UniformRing) (node : String) : (ring.labels node).Nodup := by
  refine List.Nodup.map (fun i j same => ?_) List.nodup_range
  exact Decimal.eq_of_toString_eq ((String.append_left_inj node).mp (Bytes.ofText_inj.mp same))

theorem ofNodes_layout (replicas : Nat) (hash : HashFunction) (nodes : List String) :
    (ofNodes replicas hash nodes).layout =
      .labelled hash (ofNodes replicas hash nodes).labels nodes := by
  have placed : (new replicas hash).positions =
      fun node => ((ofNodes replicas hash nodes).labels node).map hash := by
    funext node
    rw [positions, labels, List.map_map]
    rfl
  rw [Layout.labelled, ← placed]
  rfl

theorem nodup_addNode {ring : UniformRing} (distinct : ring.nodes.Nodup) (node : String) :
    (ring.addNode node).nodes.Nodup := by
  unfold addNode
  by_cases known : node ∈ ring.nodes
  · rwa [if_pos known]
  · rw [if_neg known]
    refine List.nodup_append.mpr ⟨distinct, List.nodup_singleton node, ?_⟩
    intro old mem latest is same
    exact known (List.mem_singleton.mp is ▸ same ▸ mem)

theorem nodup_nodes (replicas : Nat) (hash : HashFunction) (batches : List (List String)) :
    (batches.foldl add (new replicas hash)).nodes.Nodup := by
  have all : batches.foldl add (new replicas hash) =
      batches.flatten.foldl addNode (new replicas hash) := List.foldl_flatten.symm
  have start : (new replicas hash).nodes.Nodup := List.nodup_nil
  rw [all]
  exact List.foldlRecOn (motive := fun ring => ring.nodes.Nodup) _ addNode start
    fun _ distinct node _ => nodup_addNode distinct node

/-- Names that do not end with one another make no label twice. -/
theorem labelsApart {ring : UniformRing} (distinct : ring.nodes.Nodup)
    (free : ∀ a ∈ ring.nodes, ∀ b ∈ ring.nodes, a.toList <:+ b.toList → a = b) :
    LabelsApart ring.nodes ring.labels := by
  refine distinct.imp_of_mem fun {a b} memA memB ne label its theirs => ?_
  obtain ⟨i, -, rfl⟩ := List.mem_map.mp its
  obtain ⟨j, -, same⟩ := List.mem_map.mp theirs
  rcases suffix_of_numbered (Bytes.ofText_inj.mp same) with short | short
  · exact ne (free b memB a memA short).symm
  · exact ne (free a memA b memB short)

end UniformRing

/-- How the shares of nodes follow from their labels. -/
structure SharesFollow (layout : Layout) (nodes : List String) (labels : String → List Bytes) :
    Prop where
  /-- A node owns a position for each of its labels that no node after it has. -/
  share : ∀ before node after, nodes = before ++ node :: after →
    layout.share node = ((labels node).filter (· ∉ after.flatMap labels)).length
  /-- All nodes have their full share exactly if no two have a label in common. -/
  full : (∀ node ∈ nodes, layout.share node = (labels node).length) ↔ LabelsApart nodes labels

/-- After any history, and with any hash function that tells the labels of the ring apart, a node
owns as many positions as it has labels that no node after it has. So each node gets its weight, or
the number of replicas, exactly on a ring where no two nodes have a label in common. -/
theorem shares_follow_labels (hash : HashFunction) :
    (∀ history : List WeightedRing.Request,
      let ring := WeightedRing.run history (.new hash)
      Separates hash (ring.nodes.flatMap ring.labels) →
      SharesFollow ring.layout ring.nodes ring.labels ∧
      (∀ node ∈ ring.nodes, ring.weight? node = some (ring.labels node).length) ∧
      ((∀ a ∈ ring.nodes, ∀ b ∈ ring.nodes, a.toList <+: b.toList → a = b) →
        LabelsApart ring.nodes ring.labels)) ∧
    ∀ (replicas : Nat) (batches : List (List String)),
      let ring := batches.foldl UniformRing.add (.new replicas hash)
      Separates hash (ring.nodes.flatMap ring.labels) →
      SharesFollow ring.layout ring.nodes ring.labels ∧
      (∀ node ∈ ring.nodes, ring.replicas = (ring.labels node).length) ∧
      ((∀ a ∈ ring.nodes, ∀ b ∈ ring.nodes, a.toList <:+ b.toList → a = b) →
        LabelsApart ring.nodes ring.labels) := by
  refine ⟨fun history => ?_, fun replicas batches => ?_⟩
  · intro ring apart
    have sound : ring.Sound := WeightedRing.run_sound hash history
    have place : ring.hash = hash := WeightedRing.run_hash hash history
    have own : ∀ node ∈ ring.nodes, (ring.labels node).Nodup :=
      fun node _ => ring.nodup_labels node
    have laid : ring.layout = .labelled hash ring.labels ring.nodes :=
      place ▸ sound.layout_eq_labelled
    refine ⟨⟨?_, ?_⟩, fun node => sound.weight?_eq_length, sound.labelsApart⟩
    · intro before node after split
      rw [laid]
      exact Layout.share_labelled apart sound.distinct (own node (by simp [split])) split
    · rw [laid]
      exact full_iff_labelsApart apart sound.distinct own
  · intro ring apart
    have same : ring = .ofNodes replicas hash batches.flatten.eraseDups :=
      UniformRing.foldl_add_new replicas hash batches
    have distinct : ring.nodes.Nodup := UniformRing.nodup_nodes replicas hash batches
    have own : ∀ node ∈ ring.nodes, (ring.labels node).Nodup :=
      fun node _ => ring.nodup_labels node
    have laid : ring.layout = .labelled hash ring.labels ring.nodes := by
      rw [same]
      exact UniformRing.ofNodes_layout ..
    refine ⟨⟨?_, ?_⟩, fun node _ => by simp [UniformRing.labels], UniformRing.labelsApart distinct⟩
    · intro before node after split
      rw [laid]
      exact Layout.share_labelled apart distinct (own node (by simp [split])) split
    · rw [laid]
      exact full_iff_labelsApart apart distinct own

/-- Two rings whose nodes have all their positions. -/
theorem separate_names_get_their_share :
    let weighted := WeightedRing.run [.add "3" 2, .add "1" 3] (.new Hash.number)
    let uniform := [["0", "1"], ["1", "2"]].foldl UniformRing.add (.new 3 Hash.number)
    (weighted.layout.share "1" = 3 ∧ weighted.layout.share "3" = 2) ∧
      ∀ node ∈ uniform.nodes, uniform.layout.share node = 3 := by
  intro weighted uniform
  obtain ⟨ofWeighted, ofUniform⟩ := shares_follow_labels Hash.number
  obtain ⟨⟨-, full⟩, weights, apart⟩ := ofWeighted [.add "3" 2, .add "1" 3] (by
    unfold Separates
    decide +kernel)
  have all := full.mpr (apart (by decide +kernel))
  obtain ⟨⟨-, full'⟩, replicas, apart'⟩ := ofUniform 3 [["0", "1"], ["1", "2"]] (by
    unfold Separates
    decide +kernel)
  have all' := full'.mpr (apart' (by decide +kernel))
  refine ⟨⟨(all "1" (by decide +kernel)).trans (by decide +kernel),
    (all "3" (by decide +kernel)).trans (by decide +kernel)⟩, fun node there => ?_⟩
  rw [all' node there, ← replicas node there]
  rfl

/-- The node `11` has the weight 1 and no position: its label `110` is also the label of the node
`1` for the number 10. -/
theorem elevens_label_is_taken :
    let ring := WeightedRing.run [.add "11" 1, .add "1" 12] (.new Hash.number)
    Separates Hash.number (ring.nodes.flatMap ring.labels) ∧ ring.weight? "11" = some 1 ∧
      ring.layout.share "11" = 0 ∧ ring.owner? "110" = some "1" := by
  unfold Separates
  decide +kernel

end Lanes
