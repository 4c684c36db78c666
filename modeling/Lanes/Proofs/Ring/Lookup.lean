import Lanes.Ring.Layout

/-!
# Look-up in layouts

The owner of a position is the node that was given the position last. A key goes to the position
that follows its hash on the ring, which depends only on the positions that are taken. So where one
layout lies on top of another, and differs from it only in positions of one node, a key keeps its
owner or goes to this node.
-/
namespace Lanes
namespace Layout

/-! ### Owners of positions -/

theorem get?_occupy (layout : Layout) (owner : String) (positions : List UInt32) (p : UInt32) :
    (layout.occupy owner positions).get? p =
      if p ∈ positions then some owner else layout.get? p := by
  unfold occupy
  induction positions generalizing layout with
  | nil => simp
  | cons position rest ih =>
    rw [List.foldl_cons, ih, OrderedMap.get?_insert]
    by_cases later : p ∈ rest
    · simp [later]
    · by_cases here : position = p
      · simp [here]
      · simp [later, here, Ne.symm here]

/-- The nodes laid out one after the other, each at its positions. -/
def laid (nodes : List String) (positions : String → List UInt32) : Layout :=
  nodes.foldl (fun layout node => layout.occupy node (positions node)) .empty

/-- The node that comes last among those with a replica at a position. -/
def lastHolder (nodes : List String) (positions : String → List UInt32) (p : UInt32) :
    Option String :=
  (nodes.filter (fun node => p ∈ positions node)).getLast?

theorem get?_foldl_occupy (nodes : List String) (positions : String → List UInt32)
    (layout : Layout) (p : UInt32) :
    (nodes.foldl (fun l node => l.occupy node (positions node)) layout).get? p =
      (lastHolder nodes positions p).or (layout.get? p) := by
  induction nodes generalizing layout with
  | nil => rfl
  | cons node rest ih =>
    rw [List.foldl_cons, ih, get?_occupy]
    unfold lastHolder
    by_cases here : p ∈ positions node
    · rw [List.filter_cons_of_pos (by simpa using here), List.getLast?_cons, if_pos here]
      cases (rest.filter (fun node => p ∈ positions node)).getLast? <;> rfl
    · rw [List.filter_cons_of_neg (by simpa using here), if_neg here]

theorem get?_laid (nodes : List String) (positions : String → List UInt32) (p : UInt32) :
    (laid nodes positions).get? p = lastHolder nodes positions p := by
  rw [laid, get?_foldl_occupy, OrderedMap.get?_empty, Option.or_none]

theorem lastHolder_isSome_iff {nodes : List String} {positions : String → List UInt32}
    {p : UInt32} :
    (lastHolder nodes positions p).isSome ↔ p ∈ nodes.flatMap positions := by
  simp [lastHolder, List.mem_flatMap]

/-! ### The next position -/

/-- The position `p` is the least that is taken from `hash` on or, if there is none, the least of
all that are taken. -/
def Follows (taken : UInt32 → Prop) (hash p : UInt32) : Prop :=
  taken p ∧ (hash ≤ p ∧ (∀ q, taken q → hash ≤ q → p ≤ q) ∨
    (∀ q, taken q → ¬ hash ≤ q) ∧ ∀ q, taken q → p ≤ q)

theorem Follows.unique {taken : UInt32 → Prop} {hash p q : UInt32} (h : Follows taken hash p)
    (k : Follows taken hash q) : p = q := by
  obtain ⟨here, ⟨behind, least⟩ | ⟨none, least⟩⟩ := h <;>
    obtain ⟨here', ⟨behind', least'⟩ | ⟨none', least'⟩⟩ := k
  · exact Std.le_antisymm (least q here' behind') (least' p here behind)
  · exact absurd behind (none' p here)
  · exact absurd behind' (none q here')
  · exact Std.le_antisymm (least q here') (least' p here)

/-- With fewer positions taken, the next one stays the next as long as it is taken. -/
theorem Follows.of_fewer {taken fewer : UInt32 → Prop} {hash p : UInt32}
    (h : Follows taken hash p) (sub : ∀ q, fewer q → taken q) (still : fewer p) :
    Follows fewer hash p := by
  obtain ⟨-, ⟨behind, least⟩ | ⟨none, least⟩⟩ := h
  · exact ⟨still, .inl ⟨behind, fun q here => least q (sub q here)⟩⟩
  · exact ⟨still, .inr ⟨fun q here => none q (sub q here), fun q here => least q (sub q here)⟩⟩

variable {layout : Layout} {hash : UInt32} {owner : String}

theorem mem_entries_iff {p : UInt32} :
    (p, owner) ∈ layout.entries ↔ layout.get? p = some owner :=
  OrderedMap.get?_eq_some_iff.symm

/-- Positions that do not come before an entry come behind it. -/
theorem le_of_taken {before after : List (UInt32 × String)} {entry : UInt32 × String} {q : UInt32}
    (split : layout.entries = before ++ entry :: after) (taken : (layout.get? q).isSome)
    (later : ∀ a ∈ before, a.1 ≠ q) : entry.1 ≤ q := by
  obtain ⟨holder, held⟩ := Option.isSome_iff_exists.mp taken
  have mem := mem_entries_iff.mpr held
  have ascending := layout.ascending
  rw [split] at mem ascending
  obtain ⟨-, tail, -⟩ := List.pairwise_append.mp ascending
  rcases List.mem_append.mp mem with early | rest
  · exact absurd rfl (later _ early)
  · rcases List.mem_cons.mp rest with rfl | behind
    · exact Std.le_refl _
    · exact Std.le_of_lt ((List.pairwise_cons.mp tail).1 _ behind)

/-- Look-up finds the owner of the position that follows the hash. -/
theorem follows_of_successor (found : layout.successor hash = some owner) :
    ∃ p, layout.get? p = some owner ∧ Follows (fun q => (layout.get? q).isSome) hash p := by
  unfold successor at found
  cases next : layout.entries.find? (fun entry => hash ≤ entry.1) with
  | some entry =>
    obtain rfl : entry.2 = owner := by simpa [next] using found
    obtain ⟨behind, before, after, split, early⟩ := List.find?_eq_some_iff_append.mp next
    have held := mem_entries_iff.mp (split ▸ List.mem_append_right before List.mem_cons_self)
    refine ⟨entry.1, held, by simp [held], .inl ⟨by simpa using behind, ?_⟩⟩
    intro q taken ahead
    refine le_of_taken split taken fun a mem is => ?_
    have short := early a mem
    simp [is, ahead] at short
  | none =>
    have short := List.find?_eq_none.mp next
    cases entries : layout.entries with
    | nil => simp [entries] at found
    | cons entry rest =>
      rw [next, entries] at found
      obtain rfl : entry.2 = owner := by simpa using found
      have held := mem_entries_iff.mp (entries ▸ List.mem_cons_self)
      refine ⟨entry.1, held, by simp [held], .inr ⟨fun q taken => ?_, fun q taken => ?_⟩⟩
      · obtain ⟨holder, is⟩ := Option.isSome_iff_exists.mp taken
        simpa using short _ (mem_entries_iff.mpr is)
      · have split : layout.entries = [] ++ entry :: rest := entries
        exact le_of_taken split taken (by simp)

theorem successor_eq_none_iff : layout.successor hash = none ↔ ∀ p, layout.get? p = none := by
  constructor
  · intro missed p
    cases held : layout.get? p with
    | none => rfl
    | some holder =>
      have mem := mem_entries_iff.mpr held
      cases entries : layout.entries <;> simp_all [successor]
  · intro free
    cases found : layout.successor hash with
    | none => rfl
    | some owner =>
      obtain ⟨p, held, -⟩ := follows_of_successor found
      simp [free] at held

theorem successor_eq_some_iff : layout.successor hash = some owner ↔
    ∃ p, layout.get? p = some owner ∧ Follows (fun q => (layout.get? q).isSome) hash p := by
  refine ⟨follows_of_successor, ?_⟩
  rintro ⟨p, held, follows⟩
  cases found : layout.successor hash with
  | none => simp [successor_eq_none_iff.mp found] at held
  | some other =>
    obtain ⟨q, held', follows'⟩ := follows_of_successor found
    rw [← held, ← held', follows.unique follows']

/-! ### One layout on top of another -/

/-- The layouts differ only in positions that the node has in the upper one. -/
def Overlays (node : String) (lower upper : Layout) : Prop :=
  ∀ p, upper.get? p = lower.get? p ∨ upper.get? p = some node

namespace Overlays
variable {node : String} {lower upper : Layout}

theorem refl (layout : Layout) : Overlays node layout layout := fun _ => .inl rfl

/-- Another node laid on top of both changes nothing. -/
theorem occupy (lies : Overlays node lower upper) (other : String) (positions : List UInt32) :
    Overlays node (lower.occupy other positions) (upper.occupy other positions) := by
  intro p
  rw [get?_occupy, get?_occupy]
  by_cases taken : p ∈ positions
  · simp [taken]
  · simpa [taken] using lies p

/-- The node itself may have more positions in the upper layout. -/
theorem occupy_more (lies : Overlays node lower upper) {fewer more : List UInt32}
    (sub : fewer ⊆ more) : Overlays node (lower.occupy node fewer) (upper.occupy node more) := by
  intro p
  rw [get?_occupy, get?_occupy]
  by_cases taken : p ∈ more
  · simp [taken]
  · have free : p ∉ fewer := fun mem => taken (sub mem)
    simpa [taken, free] using lies p

/-- The node may be missing from the lower layout. -/
theorem occupy_upper (lies : Overlays node lower upper) (positions : List UInt32) :
    Overlays node lower (upper.occupy node positions) := by
  intro p
  rw [get?_occupy]
  by_cases taken : p ∈ positions
  · simp [taken]
  · simpa [taken] using lies p

/-- A key keeps its owner, or the node owns it in the upper layout. -/
theorem successor (lies : Overlays node lower upper) (hash : UInt32) :
    upper.successor hash = lower.successor hash ∨ upper.successor hash = some node := by
  have sub (q : UInt32) (held : (lower.get? q).isSome) : (upper.get? q).isSome := by
    rcases lies q with same | new
    · rwa [same]
    · simp [new]
  cases found : upper.successor hash with
  | none =>
    refine .inl (successor_eq_none_iff.mpr fun p => ?_).symm
    have free := successor_eq_none_iff.mp found p
    have held := sub p
    simpa [free] using held
  | some owner =>
    obtain ⟨p, held, follows⟩ := follows_of_successor found
    rcases lies p with same | new
    · have still : lower.get? p = some owner := same.symm.trans held
      exact .inl (successor_eq_some_iff.mpr
        ⟨p, still, follows.of_fewer sub (by simp [still])⟩).symm
    · exact .inr (held.symm.trans new)

end Overlays
end Layout
end Lanes
