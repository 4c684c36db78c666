import Lanes.Ring.Circle
import Lanes.Proofs.Ring.Lookup

/-!
# Look-up on circles

A circle holds a position once for each replica that lies there. Once it is sorted, bisection finds
the border between the positions before a hash and the others, so that the index of the next
position never lies behind the end; and as every position that is held has an owner, the owner is
found as well. A sorted circle answers as the layout of its owners does.
-/
namespace Lanes

/-! ### Bisection -/

/-- What passes the test comes first. -/
def Parted (items : Array UInt32) (passes : UInt32 → Bool) : Prop :=
  ∀ i j (last : j < items.size) (le : i ≤ j), passes items[j] = true → passes items[i] = true

/-- The items before an index pass the test, and the others do not. -/
structure SplitsAt (items : Array UInt32) (passes : UInt32 → Bool) (index : Nat) : Prop where
  within : index ≤ items.size
  before : ∀ i (here : i < items.size), i < index → passes items[i] = true
  behind : ∀ i (here : i < items.size), index ≤ i → passes items[i] = false

/-- Bisection keeps the border between `lo` and `hi`. -/
theorem bisect_splits {items : Array UInt32} {passes : UInt32 → Bool} {lo hi : Nat}
    {within : hi ≤ items.size} (parted : Parted items passes) (le : lo ≤ hi)
    (before : ∀ i (here : i < items.size), i < lo → passes items[i] = true)
    (behind : ∀ i (here : i < items.size), hi ≤ i → passes items[i] = false) :
    SplitsAt items passes (bisect items passes lo hi within) := by
  fun_induction bisect items passes lo hi within with
  | case1 lo hi within nonempty middle below passed ih =>
    refine ih below (fun i here less => ?_) behind
    exact parted i middle (Nat.lt_of_lt_of_le below within) (Nat.le_of_lt_succ less) passed
  | case2 lo hi within nonempty middle below failed ih =>
    refine ih (Nat.le_add_right ..) before (fun i here more => ?_)
    have late : passes items[i] ≠ true := mt (parted middle i here more) failed
    simpa using late
  | case3 lo hi within empty =>
    have same : hi = lo := Nat.le_antisymm (Nat.not_lt.mp empty) le
    exact ⟨same ▸ within, before, same ▸ behind⟩

theorem partitionPoint_splits {items : Array UInt32} {passes : UInt32 → Bool}
    (parted : Parted items passes) : SplitsAt items passes (partitionPoint items passes) :=
  bisect_splits parted (Nat.zero_le _) (fun _ _ less => absurd less (Nat.not_lt_zero _))
    (fun _ here beyond => absurd here (Nat.not_lt.mpr beyond))

/-! ### The next position -/

/-- The positions ascend; where several replicas lie at one, it is there several times. -/
def Ascending (positions : Array UInt32) : Prop := positions.toList.Pairwise (· ≤ ·)

theorem Ascending.le {positions : Array UInt32} (ascending : Ascending positions) {i j : Nat}
    (le : i ≤ j) (last : j < positions.size) : positions[i] ≤ positions[j] := by
  rcases Nat.lt_or_eq_of_le le with less | rfl
  · exact List.pairwise_iff_getElem.mp ascending i j _ _ less
  · exact Std.le_refl _

theorem Ascending.parted {positions : Array UInt32} (ascending : Ascending positions)
    (hash : UInt32) : Parted positions (· < hash) := by
  intro i j last le passed
  have above : positions[i] ≤ positions[j] := ascending.le le last
  simp only [decide_eq_true_eq] at passed ⊢
  exact Std.lt_of_le_of_lt above passed

/-- The index of the next position is one of those there are, and the position there is the one that
follows the hash. -/
theorem Ascending.successorIndex {positions : Array UInt32} (ascending : Ascending positions)
    (some : positions.size ≠ 0) (hash : UInt32) :
    ∃ within : successorIndex positions hash < positions.size,
      Layout.Follows (· ∈ positions) hash positions[Lanes.successorIndex positions hash] := by
  obtain ⟨border, before, behind⟩ := partitionPoint_splits (ascending.parted hash)
  simp only [decide_eq_true_eq, decide_eq_false_iff_not] at before behind
  by_cases past : partitionPoint positions (· < hash) = positions.size
  · have first : Lanes.successorIndex positions hash = 0 := by simp [Lanes.successorIndex, past]
    have within : Lanes.successorIndex positions hash < positions.size := by omega
    refine ⟨within, Array.getElem_mem within, .inr ⟨fun q mem => ?_, fun q mem => ?_⟩⟩
    · obtain ⟨i, here, rfl⟩ := Array.mem_iff_getElem.mp mem
      exact Std.not_le.mpr (before i here (past ▸ here))
    · obtain ⟨i, here, rfl⟩ := Array.mem_iff_getElem.mp mem
      exact ascending.le (by omega) here
  · have found : Lanes.successorIndex positions hash = partitionPoint positions (· < hash) := by
      simp [Lanes.successorIndex, past]
    have within : Lanes.successorIndex positions hash < positions.size := by omega
    refine ⟨within, Array.getElem_mem within, .inl ⟨?_, fun q mem ahead => ?_⟩⟩
    · exact Std.not_lt.mp (behind _ within (Nat.le_of_eq found.symm))
    · obtain ⟨i, here, rfl⟩ := Array.mem_iff_getElem.mp mem
      refine ascending.le (Nat.le_of_not_lt fun early => ?_) here
      exact Std.not_le.mpr (before i here (found ▸ early)) ahead

/-! ### What a circle holds -/

namespace Circle
variable {circle : Circle} {taken : List UInt32} {hash : UInt32}

/-- The circle holds these positions, each as often as it is listed, and they are the ones that have
owners. -/
structure Holds (circle : Circle) (taken : List UInt32) : Prop where
  perm : circle.positions.toList.Perm taken
  owned : ∀ p, (circle.owners.get? p).isSome ↔ p ∈ taken

theorem Holds.empty : Circle.empty.Holds [] := ⟨.refl _, by simp [Circle.empty]⟩

theorem positions_place (circle : Circle) (owner : String) (positions : List UInt32) :
    (circle.place owner positions).positions.toList = circle.positions.toList ++ positions := by
  unfold place
  induction positions generalizing circle with
  | nil => simp
  | cons position rest ih => simp [ih, put]

theorem owners_place (circle : Circle) (owner : String) (positions : List UInt32) :
    (circle.place owner positions).owners = circle.owners.occupy owner positions := by
  unfold place Layout.occupy
  induction positions generalizing circle with
  | nil => rfl
  | cons position rest ih => exact ih (circle.put owner position)

theorem Holds.place (holds : circle.Holds taken) (owner : String) (positions : List UInt32) :
    (circle.place owner positions).Holds (taken ++ positions) where
  perm := by
    rw [positions_place]
    exact holds.perm.append_right positions
  owned p := by
    rw [owners_place, Layout.get?_occupy, List.mem_append, ← holds.owned p]
    by_cases here : p ∈ positions <;> simp [here]

theorem perm_sort (circle : Circle) :
    circle.sort.positions.toList.Perm circle.positions.toList := by
  simpa [sort] using List.mergeSort_perm circle.positions.toList _

theorem ascending_sort (circle : Circle) : Ascending circle.sort.positions := by
  have sorted := @List.pairwise_mergeSort UInt32 (fun a b => decide (a ≤ b))
    (fun a b c ab bc => by simpa using Std.le_trans (by simpa using ab) (by simpa using bc))
    (fun a b => by simpa using Std.le_total) circle.positions.toList
  simpa [Ascending, sort] using sorted

theorem Holds.sort (holds : circle.Holds taken) : circle.sort.Holds taken :=
  ⟨circle.perm_sort.trans holds.perm, holds.owned⟩

/-- The index of the next position lies within the positions, and the position there has an owner:
the one that the layout of the owners names. -/
theorem Holds.lookup (holds : circle.Holds taken) (ascending : Ascending circle.positions)
    (used : taken ≠ []) (hash : UInt32) :
    ∃ p owner, circle.positions[successorIndex circle.positions hash]? = some p ∧
      circle.owners.get? p = some owner ∧ circle.owners.successor hash = some owner := by
  have nonempty : circle.positions.size ≠ 0 := by
    intro none
    refine used (List.eq_nil_of_length_eq_zero ?_)
    rw [← holds.perm.length_eq, Array.length_toList, none]
  obtain ⟨within, follows⟩ := ascending.successorIndex nonempty hash
  have same : (fun q => (circle.owners.get? q).isSome = true) = (· ∈ circle.positions) := by
    funext q
    rw [holds.owned, ← holds.perm.mem_iff, Array.mem_toList_iff]
  rw [← same] at follows
  obtain ⟨owner, held⟩ := Option.isSome_iff_exists.mp follows.1
  exact ⟨_, owner, Array.getElem?_eq_getElem within, held,
    Layout.successor_eq_some_iff.mpr ⟨_, held, follows⟩⟩

/-- A sorted circle answers as the layout of its owners. -/
theorem Holds.owner?_eq (holds : circle.Holds taken) (ascending : Ascending circle.positions)
    (hash : UInt32) : circle.owner? hash = .returned (circle.owners.successor hash) := by
  by_cases unused : taken = []
  · have empty : circle.positions = #[] := by
      simpa [unused] using holds.perm
    have free : circle.owners.successor hash = none := by
      refine Layout.successor_eq_none_iff.mpr fun p => ?_
      simpa [unused] using holds.owned p
    simp [owner?, empty, free]
  · obtain ⟨p, owner, found, held, answer⟩ := holds.lookup ascending unused hash
    have nonempty : circle.positions ≠ #[] := by
      intro empty
      simp [empty] at found
    rw [answer, ← held]
    simp [owner?, nonempty, found]

end Circle
end Lanes
