import Lanes.Proofs.Pool.Targets

/-!
# Growth

A pool grows by all the lanes that it is asked for or by none. It does so exactly if some are asked
for, their mailboxes are not too large and their ids stay within range; then the new lanes come next
to the old ones, under the ids that follow, and nothing else changes. The ids may be counted in
machine words: a sum that would not fit is found before it is needed, and the growth is refused.
-/
namespace Lanes

/-! ### Counting in words -/

namespace Words

/-- A count of 64 bits as a signed word of 32, if it fits. -/
def narrow? (count : UInt64) : Option Int32 :=
  if count.toNat ≤ maxLaneId then some (.ofNat count.toNat) else none

/-- The sum of two signed words, if it fits into one. -/
def sum? (a b : Int32) : Option Int32 :=
  if (a + b).toInt = a.toInt + b.toInt then some (a + b) else none

theorem toInt_of_sum? {a b c : Int32} (sum : sum? a b = some c) :
    c.toInt = a.toInt + b.toInt := by
  unfold sum? at sum
  split at sum
  · next fits => rwa [← Option.some.inj sum]
  · cases sum

/-- The words from one to another, both included, unless a step between them does not fit. -/
def upTo? (last word : Int32) : Option (List Int32) :=
  if word < last then
    match _step : sum? word 1 with
    | none => none
    | some next => (upTo? last next).map (word :: ·)
  else if word = last then some [word]
  else some []
termination_by (last.toInt - word.toInt).toNat
decreasing_by
  rename_i below
  have less := Int32.lt_iff_toInt_lt.mp below
  have more := toInt_of_sum? _step
  rw [Int32.toInt_one] at more
  omega

/-- What comes of numbering new lanes in words. -/
inductive Numbering where
  /-- An operation gave a result that does not fit. -/
  | overflow
  | refused
  | granted (ids : List Int32) (total : Int32)

/-- The largest number of bytes that may be asked for at once. -/
def maxBytes : Nat := 0x7fffffffffffffff

/-- Numbers as many lanes as wanted behind those that there are. Whether the last number fits is
looked at first. All other operations are expected to fit: the bytes for a list of the ids, the
first of them, and the steps from there to the last one. -/
def number (lanes : Int32) (wanted : UInt64) : Numbering :=
  if wanted = 0 then .refused
  else
    match (narrow? wanted).bind (sum? lanes) with
    | none => .refused
    | some last =>
      if maxBytes < 4 * wanted.toNat then .overflow
      else
        match (sum? lanes 1).bind (upTo? last) with
        | none => .overflow
        | some ids => .granted ids last

theorem toInt_ofNat {n : Nat} (le : n ≤ maxLaneId) : (Int32.ofNat n).toInt = n := by
  unfold maxLaneId at le
  exact Int32.toInt_ofNat_of_lt (by omega)

/-- Natural numbers are added in words as long as the sum is one of a lane. -/
theorem sum?_ofNat {a b : Nat} (left : a ≤ maxLaneId) (right : b ≤ maxLaneId) :
    sum? (.ofNat a) (.ofNat b) = if a + b ≤ maxLaneId then some (.ofNat (a + b)) else none := by
  unfold sum?
  rw [← Int32.ofNat_add, toInt_ofNat left, toInt_ofNat right]
  by_cases fits : a + b ≤ maxLaneId
  · rw [toInt_ofNat fits, if_pos (Int.natCast_add a b), if_pos fits]
  · have small := Int32.toInt_lt (.ofNat (a + b))
    rw [if_neg fits, if_neg]
    unfold maxLaneId at fits
    omega

theorem upTo?_ofNat (first steps : Nat) (le : first + steps ≤ maxLaneId) :
    upTo? (.ofNat (first + steps)) (.ofNat first) =
      some ((List.range (steps + 1)).map (fun i => .ofNat (first + i))) := by
  induction steps generalizing first with
  | zero =>
    rw [upTo?]
    simp
  | succ steps ih =>
    have below : Int32.ofNat first < .ofNat (first + (steps + 1)) := by
      rw [Int32.lt_iff_toInt_lt, toInt_ofNat (by omega), toInt_ofNat le]
      omega
    have next : sum? (.ofNat first) 1 = some (.ofNat (first + 1)) := by
      have sum := sum?_ofNat (a := first) (b := 1) (by omega) (by decide)
      rwa [if_pos (by omega)] at sum
    have rest := ih (first + 1) (by omega)
    rw [show first + 1 + steps = first + (steps + 1) by omega] at rest
    rw [upTo?, if_pos below]
    split
    · next none => simp [next] at none
    · next other same =>
      obtain rfl := Option.some.inj (next.symm.trans same)
      rw [rest, List.range_succ_eq_map (n := steps + 1)]
      simp [Function.comp_def, Nat.add_comm, Nat.add_left_comm]

theorem number_ofNat {lanes : Nat} (word : lanes ≤ maxLaneId) {wanted : UInt64}
    (some : wanted ≠ 0) :
    number (.ofNat lanes) wanted =
      if lanes + wanted.toNat ≤ maxLaneId then
        .granted ((List.range wanted.toNat).map (fun i => .ofNat (lanes + i + 1)))
          (.ofNat (lanes + wanted.toNat))
      else .refused := by
  have pos : 0 < wanted.toNat := Nat.pos_of_ne_zero fun zero => some (UInt64.toNat_inj.mp zero)
  unfold number narrow?
  rw [if_neg some]
  by_cases small : wanted.toNat ≤ maxLaneId
  · rw [if_pos small, Option.bind_some, sum?_ofNat word small]
    by_cases fits : lanes + wanted.toNat ≤ maxLaneId
    · have room : ¬ maxBytes < 4 * wanted.toNat := by
        unfold maxBytes
        unfold maxLaneId at small
        omega
      have first : sum? (.ofNat lanes) 1 = .some (.ofNat (lanes + 1)) := by
        have sum := sum?_ofNat (b := 1) word (by decide)
        rwa [if_pos (by omega)] at sum
      have ids := upTo?_ofNat (lanes + 1) (wanted.toNat - 1) (by omega)
      rw [show lanes + 1 + (wanted.toNat - 1) = lanes + wanted.toNat by omega,
        Nat.sub_add_cancel pos] at ids
      rw [if_pos fits, if_pos fits]
      simp only [if_neg room, first, Option.bind_some, ids, Nat.add_right_comm]
    · rw [if_neg fits, if_neg fits]
  · rw [if_neg small, if_neg (by omega)]
    rfl

/-- The last id that there is can be given, and one more is refused before a sum overflows. -/
example : number 0x7ffffffe 1 = .granted [0x7fffffff] 0x7fffffff ∧
    number 0x7fffffff 1 = .refused ∧ sum? 0x7fffffff 1 = none :=
  ⟨by cbv, rfl, rfl⟩

end Words

/-! ### Growth of a pool -/

namespace Pool
variable {α β γ σ : Type} {p p' : Pool α β γ σ} {count : Nat} {tick : Option Duration}

/-- The period of the tickers of new lanes, where the period zero means the configured one. -/
def periodOf (p : Pool α β γ σ) (tick : Option Duration) : Option Duration :=
  tick.map (fun d => d.orDefault p.config.tickPeriod)

/-- The pool has got new lanes with these ids, and nothing else has changed. -/
structure Gains (p : Pool α β γ σ) (ids : List LaneId) (tick : Option Duration)
    (p' : Pool α β γ σ) : Prop where
  lanes : p'.lanes = p.lanes ++ ids.map (fun id => Lane.new id p.config.capacity (p.periodOf tick))
  /-- The new lanes are live, next to those that were live before. -/
  live : p'.ids = p.ids ++ ids
  old : ∀ id ∈ p.ids, p'.roster.get? id = p.roster.get? id
  new : ∀ i id, ids[i]? = some id → p'.roster.get? id = some (p.lanes.length + i)
  laneCount : p'.laneCount = p.laneCount + ids.length
  rest : p'.config = p.config ∧ p'.routes = p.routes ∧ p'.generator = p.generator ∧
    p'.memory = p.memory

/-- The numbers of so many lanes, and behind them those of more lanes. -/
theorem Sound.ids_append (sound : p.Sound) (sound' : p'.Sound)
    (more : p'.laneCount = p.laneCount + count) : p'.ids = p.ids ++ p.nextIds count := by
  rw [sound.ids_eq, sound'.ids_eq, more, List.range_add, List.map_append, nextIds, List.map_map]
  rfl

theorem Sound.gains (sound : p.Sound) (granted : p.growthRefusal count = none) :
    Gains p (p.nextIds count) tick (p.grow count tick).2 := by
  obtain ⟨cause, refused, -⟩ | ⟨-, -, grown⟩ := p.grow_cases count tick
  · rw [granted] at refused
    cases refused
  have sound' : (p.grow count tick).2.Sound := (Reroute.grow grown).sound sound
  refine ⟨?lanes, sound.ids_append sound' grown.laneCount, ?old, ?new, ?count, ?rest⟩
  case lanes => simp [grow, granted, note, foldl_addLane_lanes, periodOf]
  case old =>
    intro id mem
    have range := sound.mem_ids.mp mem
    rw [grown.roster, if_neg (by omega)]
  case new =>
    intro i id at_
    obtain ⟨below, rfl⟩ : i < count ∧ ((p.laneCount + i + 1 : Nat) : Int) = id := by
      simpa [nextIds, List.getElem?_eq_some_iff] using at_
    rw [grown.roster, if_pos (by omega)]
    congr 2
    omega
  case count => rw [grown.laneCount, length_nextIds]
  case rest =>
    obtain ⟨lanes, roster, laneCount, journal, same⟩ := p.grow_same count tick
    rw [same]
    exact ⟨rfl, rfl, rfl, rfl⟩

/-- Every refusal is for an argument that is unusable. -/
theorem growthRefusal_eq_some {cause : Error} (refused : p.growthRefusal count = some cause) :
    ∃ reason, cause = .invalidArgument reason := by
  unfold growthRefusal at refused
  split at refused
  · exact ⟨_, (Option.some.inj refused).symm⟩
  · split at refused
    · exact ⟨_, (Option.some.inj refused).symm⟩
    · split at refused
      · exact ⟨_, (Option.some.inj refused).symm⟩
      · cases refused

/-- The pool grows by as many lanes as wanted, or not at all. -/
structure GrowsWhole (p : Pool α β γ σ) (count : Nat) (tick : Option Duration) : Prop where
  ok_iff : (∃ ids, (p.grow count tick).1 = .ok ids) ↔
    1 ≤ count ∧ p.config.capacity ≤ maxCapacity ∧ p.laneCount + count ≤ maxLaneId
  granted : ∀ ids, (p.grow count tick).1 = .ok ids →
    ids = (List.range count).map (fun i => ((p.laneCount + i + 1 : Nat) : Int)) ∧
    Gains p ids tick (p.grow count tick).2
  refused : (∀ ids, (p.grow count tick).1 ≠ .ok ids) →
    ∃ reason, p.grow count tick = (.error (.invalidArgument reason), p)

theorem Sound.growsWhole (sound : p.Sound) (count : Nat) (tick : Option Duration) :
    GrowsWhole p count tick := by
  obtain ⟨cause, refused, eq⟩ | ⟨granted, answer, -⟩ := p.grow_cases count tick
  · refine ⟨iff_of_false (by simp [eq]) fun fits => ?_, by simp [eq], fun _ => ?_⟩
    · rw [growthRefusal_eq_none_iff.mpr fits] at refused
      cases refused
    · obtain ⟨reason, rfl⟩ := growthRefusal_eq_some refused
      exact ⟨reason, eq⟩
  · refine ⟨iff_of_true ⟨_, answer⟩ (growthRefusal_eq_none_iff.mp granted), ?_, ?_⟩
    · intro ids given
      obtain rfl := Except.ok.inj (answer.symm.trans given)
      exact ⟨rfl, sound.gains granted⟩
    · intro none
      exact absurd answer (none _)

/-- Counted in words, the growth comes to the same: nothing overflows, a refusal is one, and the
ids and the new number of lanes are those of the words. -/
structure CountsInWords (p : Pool α β γ σ) (count : UInt64) : Prop where
  lanes : (Int32.ofNat p.laneCount).toInt = p.laneCount
  safe : Words.number (.ofNat p.laneCount) count ≠ .overflow
  refused : Words.number (.ofNat p.laneCount) count = .refused →
    ∀ tick ids, (p.grow count.toNat tick).1 ≠ .ok ids
  granted : ∀ tick ids, (p.grow count.toNat tick).1 = .ok ids →
    ∃ words total, Words.number (.ofNat p.laneCount) count = .granted words total ∧
      words.map Int32.toInt = ids ∧ total.toInt = (p.grow count.toNat tick).2.laneCount

theorem Sound.countsInWords (sound : p.Sound) (word : p.laneCount ≤ maxLaneId) (count : UInt64) :
    CountsInWords p count := by
  have lanes := Words.toInt_ofNat word
  by_cases some : count = 0
  · subst some
    have none (tick : Option Duration) (ids : List LaneId) :
        (p.grow (0 : UInt64).toNat tick).1 ≠ .ok ids := fun given =>
      absurd ((sound.growsWhole _ tick).ok_iff.mp ⟨ids, given⟩).1 (by decide)
    exact ⟨lanes, by simp [Words.number], fun _ => none,
      fun tick ids given => absurd given (none tick ids)⟩
  · have numbered := Words.number_ofNat word some
    refine ⟨lanes, ?_, ?_, ?_⟩
    · rw [numbered]
      split <;> simp
    · intro refused tick ids given
      have fits := ((sound.growsWhole _ tick).ok_iff.mp ⟨ids, given⟩).2.2
      rw [numbered, if_pos fits] at refused
      cases refused
    · intro tick ids given
      have whole := sound.growsWhole count.toNat tick
      have fits := (whole.ok_iff.mp ⟨ids, given⟩).2.2
      obtain ⟨rfl, gains⟩ := whole.granted ids given
      refine ⟨_, _, numbered.trans (if_pos fits), ?_, ?_⟩
      · rw [List.map_map]
        refine List.map_congr_left fun i mem => Words.toInt_ofNat ?_
        have below := List.mem_range.mp mem
        omega
      · rw [Words.toInt_ofNat fits, gains.laneCount, List.length_map, List.length_range]

end Pool

namespace RunningPool
variable {α β γ σ : Type}

/-- Whatever was asked of a pool, it grows by all the lanes that it is asked for or by none, and
the numbers that it gives them can be counted in words. -/
theorem growth_is_all_or_nothing (h : Handler α β γ σ) (config : PoolConfig)
    (generator : Generator) (memory : σ) (steps : List (Step α γ σ)) :
    let p := (run h steps (start config generator memory)).pool
    (∀ count tick, p.GrowsWhole count tick) ∧ ∀ count : UInt64, p.CountsInWords count := by
  intro p
  have sound : p.Sound := run_sound (.new config generator memory)
  have word : p.laneCount ≤ maxLaneId := run_laneCount_le (Nat.zero_le _)
  exact ⟨sound.growsWhole, sound.countsInWords word⟩

end RunningPool
end Lanes
