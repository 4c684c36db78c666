import Mathlib.Data.List.Sort
import Lanes.Proofs.Pool.Routing

/-!
# Targets

Whatever was asked of a pool, its live lanes have the ids from one to the number of lanes, so that a
random draw, a remembered route and a hash of an object all name a live lane. Only a pool without
lanes has none to offer. The number of lanes fits into a signed word of 32 bits, and so the hash of
an object may be computed in such words.
-/
namespace Lanes
namespace Pool
variable {α β γ σ : Type} {p p' : Pool α β γ σ} {changes : List RouteChange} {object : ObjectId}
  {affinity : Bool}

/-! ### Numbers of lanes -/

theorem Reroute.laneCount_le (change : Reroute p changes p') (steady : .grown ∉ changes) :
    p'.laneCount ≤ p.laneCount := by
  cases change with
  | keep same => exact Nat.le_of_eq same.laneCount
  | grow => simp at steady
  | empty => exact Nat.zero_le _
  | _ => exact Nat.le_refl _

theorem Reroutes.laneCount_le (rerouted : Reroutes p changes p') (steady : .grown ∉ changes) :
    p'.laneCount ≤ p.laneCount := by
  induction rerouted with
  | refl => exact Nat.le_refl _
  | tail before last ih =>
    rw [List.mem_append, not_or] at steady
    exact Nat.le_trans (last.laneCount_le steady.2) (ih steady.1)

theorem Sound.mem_ids (sound : Sound p) {id : Int} : id ∈ p.ids ↔ 0 < id ∧ id ≤ p.laneCount := by
  rw [← sound.live]
  simp [ids, OrderedMap.keys, OrderedMap.get?_eq_some_iff]

/-- The ids of live lanes, in ascending order, are the numbers from one on. -/
theorem Sound.ids_eq (sound : Sound p) :
    p.ids = (List.range p.laneCount).map (fun i => ((i + 1 : Nat) : Int)) := by
  have ascending : p.ids.Pairwise (· < ·) := List.pairwise_map.mpr p.roster.ascending
  have counted : ((List.range p.laneCount).map (fun i => ((i + 1 : Nat) : Int))).Pairwise
      (· < ·) := by
    refine List.pairwise_map.mpr (List.pairwise_lt_range.imp fun below => ?_)
    omega
  refine ascending.eq_of_mem_iff counted fun (id : Int) => ?_
  simp only [sound.mem_ids, List.mem_map, List.mem_range]
  constructor
  · rintro ⟨pos, le⟩
    have number : (((id - 1).toNat + 1 : Nat) : Int) = id := by omega
    exact ⟨(id - 1).toNat, by omega, number⟩
  · rintro ⟨i, below, rfl⟩
    constructor <;> omega

theorem Sound.size_eq (sound : Sound p) : p.size = p.laneCount := by
  have length : p.ids.length = p.laneCount := by simp [sound.ids_eq]
  simpa [ids, OrderedMap.keys, size, OrderedMap.size] using length

/-! ### The hash in machine words -/

/-- The lane of an object, computed in words of 32 bits. -/
def hashedWord (object : ObjectId) (count : Int32) : Int32 :=
  (Hash.crc32 (littleEndian object) % count.toUInt32).toInt32 + 1

/-- None of the words is cut off or taken for a number of the other sign, and nothing is divided by
zero. -/
structure FitsWords (object : ObjectId) (count : Nat) : Prop where
  signed : (Int32.ofNat count).toInt = count
  divisor : (Int32.ofNat count).toUInt32.toNat = count ∧ (Int32.ofNat count).toUInt32 ≠ 0
  remainder : (Hash.crc32 (littleEndian object) % (Int32.ofNat count).toUInt32).toInt32.toInt =
    (Hash.crc32 (littleEndian object) % (Int32.ofNat count).toUInt32).toNat
  lane : (hashedWord object (.ofNat count)).toInt = hashedLane object count

theorem toInt_toInt32 (word : UInt32) (small : word.toNat < maxLaneId) :
    word.toInt32.toInt = word.toNat ∧ (word.toInt32 + 1).toInt = (word.toNat + 1 : Nat) := by
  unfold maxLaneId at small
  constructor
  · change word.toBitVec.toInt = word.toNat
    rw [BitVec.toInt_eq_toNat_of_lt (by simp; omega), UInt32.toNat_toBitVec]
  · change (word.toBitVec + 1#32).toInt = (word.toNat + 1 : Nat)
    have sum : (word.toBitVec + 1#32).toNat = word.toNat + 1 := by
      simp [BitVec.toNat_add]
      omega
    rw [BitVec.toInt_eq_toNat_of_lt (by omega), sum]

theorem FitsWords.of_le {count : Nat} (pos : 0 < count) (le : count ≤ maxLaneId)
    (object : ObjectId) : FitsWords object count := by
  have divisor : (Int32.ofNat count).toUInt32.toNat = count := by
    change (BitVec.ofNat 32 count).toNat = count
    unfold maxLaneId at le
    rw [BitVec.toNat_ofNat]
    omega
  have rest : (Hash.crc32 (littleEndian object) % (Int32.ofNat count).toUInt32).toNat =
      (Hash.crc32 (littleEndian object)).toNat % count := by
    rw [UInt32.toNat_mod, divisor]
  have below := Nat.mod_lt (Hash.crc32 (littleEndian object)).toNat pos
  have words := toInt_toInt32 (Hash.crc32 (littleEndian object) % (Int32.ofNat count).toUInt32)
    (by omega)
  refine ⟨Int32.toInt_ofNat_of_lt ?_, ⟨divisor, fun zero => ?_⟩, words.1, ?_⟩
  · unfold maxLaneId at le
    omega
  · rw [zero] at divisor
    exact absurd divisor (Nat.ne_of_lt pos)
  · rw [hashedWord, words.2, rest, hashedLane]

/-! ### Where objects land -/

theorem choose_hashed (pos : 0 < object)
    (fresh : affinity = true → p.routes.get? object = none) :
    (p.choose object affinity).1 = hashedLane object p.laneCount := by
  have positive : ¬ object ≤ 0 := Int.not_le.mpr pos
  cases affinity with
  | false => simp [choose, positive]
  | true => simp [choose, positive, fresh rfl]

theorem choose_routed {id : LaneId} (pos : 0 < object) (route : p.routes.get? object = some id) :
    (p.choose object true).1 = id := by
  have positive : ¬ object ≤ 0 := Int.not_le.mpr pos
  simp [choose, positive, route]

/-- Every choice names a lane that there is: a draw, as draws stay below their bound, a route, as
routes are sound, and a hash, as it is taken modulo the number of lanes. -/
theorem Sound.choose_mem (sound : Sound p) (stocked : p.laneCount ≠ 0) (object : ObjectId)
    (affinity : Bool) :
    0 < (p.choose object affinity).1 ∧ (p.choose object affinity).1 ≤ (p.laneCount : Int) := by
  by_cases pos : 0 < object
  · by_cases fresh : affinity = true → p.routes.get? object = none
    · rw [choose_hashed pos fresh]
      exact hashedLane_mem object stocked
    · obtain ⟨rfl, kept⟩ := Classical.not_imp.mp fresh
      obtain ⟨id, route⟩ := Option.ne_none_iff_exists'.mp kept
      rw [choose_routed pos route]
      exact sound.routed route
  · have drawn := p.generator.below_lt (Nat.pos_of_ne_zero stocked)
    rw [choose, if_pos (Int.not_lt.mp pos)]
    exact ⟨Int.natCast_pos.mpr (Nat.succ_pos _), Int.ofNat_le.mpr drawn⟩

/-- A request for an object goes to this lane, and the lane is live. -/
structure Lands (p : Pool α β γ σ) (object : ObjectId) (affinity : Bool) (place : Nat)
    (lane : Lane α β γ) : Prop where
  answer : (p.target object affinity).1 = .ok place
  there : p.lanes[place]? = some lane
  listed : p.roster.get? lane.id = some place
  range : 0 < lane.id ∧ lane.id ≤ p.laneCount
  hashed : 0 < object → (affinity = true → p.routes.get? object = none) →
    lane.id = ((Hash.crc32 (littleEndian object)).toNat % p.laneCount + 1 : Nat)
  routed : ∀ id, 0 < object → affinity = true → p.routes.get? object = some id → lane.id = id

theorem Sound.lands (sound : Sound p) (stocked : p.laneCount ≠ 0) (object : ObjectId)
    (affinity : Bool) : ∃ place lane, Lands p object affinity place lane := by
  have range := sound.choose_mem stocked object affinity
  obtain ⟨place, listed⟩ := (sound.live _).mpr range
  obtain ⟨lane, there, number⟩ := sound.lane listed
  obtain ⟨routes, generator, same⟩ := p.choose_same object affinity
  have answer : (p.target object affinity).1 = .ok place := by
    simp [target, stocked, sound.stocked stocked, place?, same, listed]
  refine ⟨place, lane, answer, there, number ▸ listed, number ▸ range, ?_, ?_⟩
  · intro pos fresh
    exact number.trans (choose_hashed pos fresh)
  · rintro id pos rfl route
    exact number.trans (choose_routed pos route)

/-- The live lanes have the ids from one on, and whatever leads to a lane leads to one of these. -/
structure Numbered (p : Pool α β γ σ) : Prop where
  ids : p.ids = (List.range p.laneCount).map (fun i => ((i + 1 : Nat) : Int))
  size : p.size = p.laneCount
  word : p.laneCount ≤ maxLaneId
  lane : ∀ id ∈ p.ids, ∃ place lane,
    p.roster.get? id = some place ∧ p.lanes[place]? = some lane ∧ lane.id = id
  routed : ∀ object id, p.routes.get? object = some id → id ∈ p.ids

theorem Sound.numbered (sound : Sound p) (word : p.laneCount ≤ maxLaneId) : Numbered p where
  ids := sound.ids_eq
  size := sound.size_eq
  word := word
  lane id mem := by
    obtain ⟨place, listed⟩ := (sound.live id).mpr (sound.mem_ids.mp mem)
    obtain ⟨lane, there, number⟩ := sound.lane listed
    exact ⟨place, lane, listed, there, number⟩
  routed _ _ route := sound.mem_ids.mpr (sound.routed route)

/-- Routing finds a live lane, unless there is none. -/
structure Finds (p : Pool α β γ σ) (object : ObjectId) (affinity : Bool) : Prop where
  none_iff : (p.target object affinity).1 = .error .noWorkers ↔ p.size = 0
  lands : p.size ≠ 0 → ∃ place lane, Lands p object affinity place lane
  words : p.size ≠ 0 → FitsWords object p.laneCount

theorem Sound.finds (sound : Sound p) (word : p.laneCount ≤ maxLaneId) (object : ObjectId)
    (affinity : Bool) : Finds p object affinity := by
  have lands (stocked : p.size ≠ 0) : ∃ place lane, Lands p object affinity place lane :=
    sound.lands (sound.size_eq ▸ stocked) object affinity
  refine ⟨⟨fun none => ?_, fun empty => ?_⟩, lands, fun stocked => ?_⟩
  · by_contra stocked
    obtain ⟨place, lane, found⟩ := lands stocked
    rw [found.answer] at none
    cases none
  · simp [target, ← sound.size_eq, empty]
  · exact .of_le (Nat.pos_of_ne_zero (sound.size_eq ▸ stocked)) word object

end Pool

namespace RunningPool
variable {α β γ σ : Type} {h : Handler α β γ σ}

theorem apply_laneCount_le (s : RunningPool α β γ σ) (step : Step α γ σ)
    (word : s.pool.laneCount ≤ maxLaneId) : (s.apply h step).pool.laneCount ≤ maxLaneId := by
  by_cases grows : .grown ∈ step.changes
  · cases step with
    | grow count tick =>
      obtain ⟨cause, -, refused⟩ | ⟨granted, -, grown⟩ := s.pool.grow_cases count tick
      · simpa [apply, perform, refused] using word
      · exact grown.laneCount ▸ (Pool.growthRefusal_eq_none_iff.mp granted).2.2
    | _ => simp [Step.changes] at grows
  · obtain ⟨changes, rerouted, only⟩ := s.apply_reroutes (h := h) step
    exact Nat.le_trans (rerouted.laneCount_le fun mem => grows (only mem)) word

theorem run_laneCount_le {steps : List (Step α γ σ)} {s : RunningPool α β γ σ}
    (word : s.pool.laneCount ≤ maxLaneId) : (run h steps s).pool.laneCount ≤ maxLaneId :=
  run_keeps (P := fun s => s.pool.laneCount ≤ maxLaneId)
    (fun s step => s.apply_laneCount_le step) steps word

/-- In every pool that a run reaches the lanes are numbered from one on without a gap, and every
object is routed to one of them, with and without affinity and whatever the draws are. -/
theorem routes_lead_to_live_lanes (h : Handler α β γ σ) (config : PoolConfig)
    (generator : Generator) (memory : σ) (steps : List (Step α γ σ)) :
    let p := (run h steps (start config generator memory)).pool
    p.Numbered ∧ ∀ object affinity, p.Finds object affinity := by
  intro p
  have sound : p.Sound := run_sound (.new config generator memory)
  have word : p.laneCount ≤ maxLaneId := run_laneCount_le (Nat.zero_le _)
  exact ⟨sound.numbered word, sound.finds word⟩

end RunningPool
end Lanes
