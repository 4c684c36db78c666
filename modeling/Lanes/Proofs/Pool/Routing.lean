import Lanes.Proofs.Pool.Run

/-!
# Routing

The ids in use run from one to the number of lanes, and the roster leads from each of them to a lane
with this id; the pool remembers ids in use only. This holds throughout, because the routing changes
in a few ways only (`Reroute`). Once an object has been routed with affinity it stays pinned to its
lane until the object is removed or the pool quits.
-/
namespace Lanes
namespace Pool
variable {α β γ σ : Type}

/-! ### Operations that leave the routing alone -/

theorem consume_routes (h : Handler α β γ σ) (now : Moment) (place : Nat) (p : Pool α β γ σ) :
    RoutesAs p (p.consume h now place) := by
  unfold consume
  split
  · exact .refl p
  · next lane _ =>
    split
    · exact .refl p
    · exact (p.enter_touches place lane.id _ _).routes
    · exact (p.enter_touches place lane.id _ _).routes
    · next envelope _ =>
      have taken : RoutesAs p (p.updateLane place (fun l => l.take envelope.payload)) :=
        .updateLane p place _
      have handled := (handle_admits h now lane.id lane.table envelope.payload
        (p.updateLane place (fun l => l.take envelope.payload))).routes
      exact (taken.trans handled).trans ⟨rfl, rfl, rfl, rfl, rfl⟩
    · exact ⟨rfl, rfl, rfl, rfl, rfl⟩

theorem retime_routes (p : Pool α β γ σ) (place : Nat) (seconds : Binary64) :
    RoutesAs p (p.retime place seconds).2 := by
  unfold retime
  split
  · exact .refl p
  · split
    · exact .refl p
    · exact .updateLane p place _

theorem forEach_routes {ι : Type} {f : Pool α β γ σ → ι → LaneStop × Pool α β γ σ}
    (each : ∀ p x, RoutesAs p (f p x).2) (list : List ι) (p : Pool α β γ σ) :
    RoutesAs p (forEach f list p).2 := by
  induction list generalizing p with
  | nil => exact .refl p
  | cons x rest ih => exact (each p x).trans (ih _)

theorem concludeQuit_routes (quitting : List LaneStop × Pool α β γ σ) :
    RoutesAs quitting.2 (concludeQuit quitting).2 := by
  unfold concludeQuit
  split
  · exact .note ..
  · exact .refl _

theorem advanceQuit_routes (p : Pool α β γ σ) (stops : List LaneStop) :
    RoutesAs p (p.advanceQuit stops).2 := by
  unfold advanceQuit
  split
  · exact .refl p
  · have each (p : Pool α β γ σ) (stop : LaneStop) : RoutesAs p (p.advanceStop stop).2 :=
      (p.advanceStop_touches stop).routes
    exact (forEach_routes each stops p).trans (concludeQuit_routes _)

/-- From the call of quit on the pool routes as an empty one. -/
theorem beginQuit_routes (p : Pool α β γ σ) : RoutesAs p.emptied p.beginQuit.2 := by
  have each (p : Pool α β γ σ) (place : Nat) : RoutesAs p (p.beginStop place).2 :=
    (p.beginStop_touches place).routes
  rw [beginQuit_eq]
  exact (forEach_routes each _ _).trans (concludeQuit_routes _)

theorem abort_routes (p : Pool α β γ σ) : RoutesAs p p.abort := by
  have one (p : Pool α β γ σ) (place : Nat) : RoutesAs p (p.abortLane place) := by
    unfold abortLane
    split
    · exact .refl p
    · dsimp only
      split <;> split <;> exact ⟨rfl, rfl, rfl, rfl, rfl⟩
  have folded (places : List Nat) (p : Pool α β γ σ) :
      RoutesAs p (places.foldl abortLane p) := by
    induction places generalizing p with
    | nil => exact .refl p
    | cons place rest ih => exact (one p place).trans (ih _)
  exact folded _ p

/-! ### Growth -/

/-- The pool has got `count` more lanes, under the ids that follow. -/
structure Grown (p : Pool α β γ σ) (count : Nat) (p' : Pool α β γ σ) : Prop where
  laneCount : p'.laneCount = p.laneCount + count
  routes : p'.routes = p.routes
  roster : ∀ id : Int, p'.roster.get? id =
    if p.laneCount < id ∧ id ≤ (p.laneCount + count : Nat) then
      some (p.lanes.length + (id - p.laneCount - 1).toNat) else p.roster.get? id
  old : ∀ k, k < p.lanes.length → p'.lanes[k]? = p.lanes[k]?
  new : ∀ i, i < count → ∃ capacity tick, p'.lanes[p.lanes.length + i]? =
    some (.new (p.laneCount + i + 1 : Nat) capacity tick)

theorem nextIds_succ (p : Pool α β γ σ) (count : Nat) :
    p.nextIds (count + 1) = p.nextIds count ++ [((p.laneCount + count + 1 : Nat) : Int)] := by
  simp [nextIds, List.range_succ]

@[simp] theorem length_nextIds (p : Pool α β γ σ) (count : Nat) :
    (p.nextIds count).length = count := by
  simp [nextIds]

theorem foldl_addLane_lanes (period : Option Duration) (ids : List LaneId) (p : Pool α β γ σ) :
    (ids.foldl (addLane period) p).lanes =
      p.lanes ++ ids.map (fun id => Lane.new id p.config.capacity period) := by
  induction ids generalizing p with
  | nil => simp
  | cons id rest ih =>
    rw [List.foldl_cons, ih]
    simp [addLane, note]

theorem foldl_addLane_roster (period : Option Duration) (count : Nat) (p : Pool α β γ σ)
    (id : Int) :
    ((p.nextIds count).foldl (addLane period) p).roster.get? id =
      if p.laneCount < id ∧ id ≤ (p.laneCount + count : Nat) then
        some (p.lanes.length + (id - p.laneCount - 1).toNat) else p.roster.get? id := by
  induction count with
  | zero =>
    rw [if_neg (by omega)]
    rfl
  | succ count ih =>
    have places : ((p.nextIds count).foldl (addLane period) p).lanes.length =
        p.lanes.length + count := by
      simp [foldl_addLane_lanes]
    rw [nextIds_succ, List.foldl_append]
    simp only [List.foldl_cons, List.foldl_nil, addLane, note, OrderedMap.get?_insert, ih, places]
    by_cases last : ((p.laneCount + count + 1 : Nat) : Int) = id
    · rw [if_pos last, if_pos (by omega)]
      congr 2
      omega
    · rw [if_neg last]
      by_cases within : p.laneCount < id ∧ id ≤ (p.laneCount + count : Nat)
      · rw [if_pos within, if_pos (by omega)]
      · rw [if_neg within, if_neg (by omega)]

theorem growthRefusal_eq_none_iff {p : Pool α β γ σ} {count : Nat} :
    p.growthRefusal count = none ↔
      0 < count ∧ p.config.capacity ≤ maxCapacity ∧ p.laneCount + count ≤ maxLaneId := by
  unfold growthRefusal
  split
  · simp; omega
  · split
    · simp; omega
    · split <;> simp <;> omega

/-- Growth is refused and changes nothing, or it adds the lanes and gives their ids. -/
theorem grow_cases (p : Pool α β γ σ) (count : Nat) (tick : Option Duration) :
    (∃ cause, p.growthRefusal count = some cause ∧ p.grow count tick = (.error cause, p)) ∨
    (p.growthRefusal count = none ∧ (p.grow count tick).1 = .ok (p.nextIds count) ∧
      Grown p count (p.grow count tick).2) := by
  unfold grow
  cases refusal : p.growthRefusal count with
  | some cause => exact .inl ⟨cause, rfl, rfl⟩
  | none =>
    obtain ⟨lanes, roster, journal, same⟩ := foldl_addLane_same
      (tick.map (fun d => d.orDefault p.config.tickPeriod)) (p.nextIds count) p
    have routes : ((p.nextIds count).foldl
        (addLane (tick.map (fun d => d.orDefault p.config.tickPeriod))) p).routes = p.routes := by
      rw [same]
    refine .inr ⟨rfl, rfl, rfl, routes, foldl_addLane_roster _ count p, ?_, ?_⟩
    · intro k below
      simp [note, foldl_addLane_lanes, List.getElem?_append_left below]
    · intro i below
      have there : (p.nextIds count)[i]? = some ((p.laneCount + i + 1 : Nat) : Int) := by
        simp [nextIds, below]
      simp only [lanes_note, foldl_addLane_lanes]
      rw [List.getElem?_append_right (Nat.le_add_right ..), Nat.add_sub_cancel_left,
        List.getElem?_map, there]
      exact ⟨_, _, rfl⟩

/-! ### What can happen to the routing -/

/-- What becomes of lanes and of pinned objects. -/
inductive RouteChange where
  | grown
  | forgotten (object : ObjectId)
  | emptied

/-- One change of the routing. -/
inductive Reroute : Pool α β γ σ → List RouteChange → Pool α β γ σ → Prop
  | keep {p p' : Pool α β γ σ} (same : RoutesAs p p')
      (lanes : ∀ {k : Nat} {lane : Lane α β γ}, p.lanes[k]? = some lane →
        ∃ lane', p'.lanes[k]? = some lane' ∧ lane'.id = lane.id) : Reroute p [] p'
  | grow {p p' : Pool α β γ σ} {count : Nat} (grown : Grown p count p') :
      Reroute p [.grown] p'
  | draw (p : Pool α β γ σ) (generator : Generator) : Reroute p [] { p with generator }
  | pin {p : Pool α β γ σ} {object : ObjectId} (fresh : p.routes.get? object = none)
      (stocked : p.laneCount ≠ 0) :
      Reroute p [] { p with routes := p.routes.insert object (hashedLane object p.laneCount) }
  | forget (p : Pool α β γ σ) (object : ObjectId) :
      Reroute p [.forgotten object] { p with routes := p.routes.erase object }
  | empty (p : Pool α β γ σ) : Reroute p [.emptied] p.emptied

abbrev Reroutes : Pool α β γ σ → List RouteChange → Pool α β γ σ → Prop := Runs Reroute

theorem Reroutes.of_evolves {h : Handler α β γ σ} {outer : Influence α γ} {p p' : Pool α β γ σ}
    (same : RoutesAs p p') (evolves : Evolves h outer p p') : Reroutes p [] p' := by
  refine .single (.keep same ?_)
  intro k lane at_
  obtain ⟨lane', events, there, -, moves⟩ := evolves.lane at_
  exact ⟨lane', there, moves.id⟩

theorem choose_reroutes {p : Pool α β γ σ} (stocked : p.laneCount ≠ 0) (object : ObjectId)
    (affinity : Bool) : Reroutes p [] (p.choose object affinity).2 := by
  unfold choose
  split
  · exact .single (.draw p _)
  · split
    · split
      · exact .refl p
      · next fresh => exact .single (.pin fresh stocked)
    · exact .refl p

theorem target_reroutes (p : Pool α β γ σ) (object : ObjectId) (affinity : Bool) :
    Reroutes p [] (p.target object affinity).2 := by
  unfold target
  split
  · exact .refl p
  · next stocked => exact choose_reroutes (not_or.mp stocked).1 object affinity

theorem owner_reroutes (p : Pool α β γ σ) (object : ObjectId) :
    Reroutes p [] (p.owner object).2 := by
  unfold owner
  split
  · exact .refl p
  · exact p.target_reroutes object true

theorem targets_reroutes (objects : List ObjectId) (p : Pool α β γ σ) :
    Reroutes p [] (p.targets objects).2 := by
  induction objects generalizing p with
  | nil => exact .refl p
  | cons object rest ih =>
    exact (p.target_reroutes object true).trans (ih (p.target object true).2)

theorem submitAll_reroutes (request : α) (wantsReply : Bool)
    (targets : List (ObjectId × Except Error Nat)) (p : Pool α β γ σ) :
    Reroutes p [] (submitAll request wantsReply targets p).2 := by
  have admits := submitAll_admits request wantsReply targets p
  refine .single (.keep admits.routes ?_)
  intro k lane at_
  obtain ⟨envelopes, mailbox, -, -, there, -⟩ := admits.lane at_
  exact ⟨_, there, rfl⟩

theorem sendEach_reroutes (p : Pool α β γ σ) (request : α) (objects : List ObjectId)
    (wantsReply : Bool) : Reroutes p [] (p.sendEach request objects wantsReply).2 := by
  unfold sendEach
  split
  · exact .refl p
  · split
    · exact .refl p
    · exact (targets_reroutes objects p).trans (submitAll_reroutes request wantsReply _ _)

theorem setTable_reroutes (p : Pool α β γ σ) (place : Nat) (table : Table γ) :
    Reroutes p [] (p.setTable place table) := by
  refine .single (.keep (.updateLane p place _) ?_)
  intro k lane at_
  rw [setTable, lane_updateLane, at_]
  exact ⟨_, rfl, by split <;> rfl⟩

theorem setObject_reroutes (p : Pool α β γ σ) (object : ObjectId) (value : γ) :
    Reroutes p [] (p.setObject object value).2 := by
  have owned := p.owner_reroutes object
  unfold setObject
  dsimp only
  split
  · exact owned
  · split
    · exact owned
    · exact owned.trans (setTable_reroutes ..)

theorem removeObject_reroutes (p : Pool α β γ σ) (object : ObjectId) :
    Reroutes p [] (p.removeObject object).2 ∨
      Reroutes p [.forgotten object] (p.removeObject object).2 := by
  have owned := p.owner_reroutes object
  unfold removeObject
  dsimp only
  split
  · exact .inl owned
  · split
    · exact .inl owned
    · exact .inr ((owned.trans (setTable_reroutes _ _ _)).trans (.single (.forget _ object)))

end Pool

namespace RunningPool
variable {α β γ σ : Type} {h : Handler α β γ σ}

/-- What a step may do to lanes and pinned objects. -/
def Step.changes : Step α γ σ → List Pool.RouteChange
  | .grow _ _ => [.grown]
  | .removeObject object => [.forgotten object]
  | .quit => [.emptied]
  | _ => []

/-- Whether the step goes past the routing. -/
def Step.isPlain : Step α γ σ → Bool
  | .grow _ _ | .target _ _ | .sendEach _ _ _ | .getObject _ | .setObject _ _ | .removeObject _
  | .quit => false
  | _ => true

theorem apply_routes (s : RunningPool α β γ σ) {step : Step α γ σ} (plain : step.isPlain = true) :
    Pool.RoutesAs s.pool (s.apply h step).pool := by
  cases step with
  | sendTo id request wantsReply => exact (s.pool.sendTo_admits id request wantsReply).routes
  | cast request => exact (s.pool.cast_admits request).routes
  | submit place request wantsReply => exact (s.pool.submit_admits place request wantsReply).routes
  | retime place seconds => exact s.pool.retime_routes place seconds
  | edit place change => exact .updateLane s.pool place _
  | remember change => exact ⟨rfl, rfl, rfl, rfl, rfl⟩
  | resume call =>
    simp only [apply]
    split
    · exact .refl _
    · exact s.pool.advanceQuit_routes _
  | consume now place => exact s.pool.consume_routes h now place
  | tick now place => exact (s.pool.tick_touches now place).routes
  | abort => exact s.pool.abort_routes
  | _ => simp [Step.isPlain] at plain

theorem apply_reroutes (s : RunningPool α β γ σ) (step : Step α γ σ) :
    ∃ changes, Pool.Reroutes s.pool changes (s.apply h step).pool ∧ changes ⊆ step.changes := by
  have evolves := s.apply_evolves (h := h) step
  have routes (plain : step.isPlain = true) := s.apply_routes (h := h) plain
  cases step with
  | grow count tick =>
    obtain ⟨cause, -, eq⟩ | ⟨-, -, grown⟩ := s.pool.grow_cases count tick
    · exact ⟨[], by simpa [apply, perform, eq] using Runs.refl s.pool, by simp⟩
    · exact ⟨[.grown], .single (.grow grown), by simp [Step.changes]⟩
  | target object affinity => exact ⟨[], s.pool.target_reroutes object affinity, by simp⟩
  | sendEach request objects wantsReply =>
    exact ⟨[], s.pool.sendEach_reroutes request objects wantsReply, by simp⟩
  | getObject object => exact ⟨[], s.pool.owner_reroutes object, by simp⟩
  | setObject object value => exact ⟨[], s.pool.setObject_reroutes object value, by simp⟩
  | removeObject object =>
    obtain reroutes | reroutes := s.pool.removeObject_reroutes object
    · exact ⟨[], reroutes, by simp⟩
    · exact ⟨[.forgotten object], reroutes, by simp [Step.changes]⟩
  | quit =>
    refine ⟨[.emptied], ?_, by simp [Step.changes]⟩
    have stops : Pool.Evolves h .any s.pool.emptied s.pool.beginQuit.2 :=
      (Pool.forEach_evolves (Pool.beginStop_evolves trivial) _ _).trans
        (Pool.concludeQuit_evolves _)
    exact .head (.empty s.pool) (Pool.Reroutes.of_evolves s.pool.beginQuit_routes stops)
  | _ => exact ⟨[], Pool.Reroutes.of_evolves (routes rfl) evolves, by simp⟩

end RunningPool

/-! ### Sound routing -/

namespace Pool
variable {α β γ σ : Type} {p p' : Pool α β γ σ} {changes : List RouteChange}

/-- The lane at the place is live. -/
def Live (p : Pool α β γ σ) (place : Nat) : Prop := ∃ id, p.roster.get? id = some place

/-- The live lanes have the ids from one on, and objects are routed to live lanes. -/
structure Sound (p : Pool α β γ σ) : Prop where
  live : ∀ id : Int, (∃ place, p.roster.get? id = some place) ↔ 0 < id ∧ id ≤ p.laneCount
  lane : ∀ {id : LaneId} {place : Nat}, p.roster.get? id = some place →
    ∃ lane, p.lanes[place]? = some lane ∧ lane.id = id
  routed : ∀ {object : ObjectId} {id : Int}, p.routes.get? object = some id →
    0 < id ∧ id ≤ p.laneCount

theorem hashedLane_mem (object : ObjectId) {count : Nat} (stocked : count ≠ 0) :
    (0 : Int) < hashedLane object count ∧ hashedLane object count ≤ (count : Int) := by
  have below := Nat.mod_lt (Hash.crc32 (littleEndian object)).toNat (Nat.pos_of_ne_zero stocked)
  have lower := Nat.succ_pos ((Hash.crc32 (littleEndian object)).toNat % count)
  exact ⟨Int.natCast_pos.mpr lower, Int.ofNat_le.mpr below⟩

theorem Sound.new (config : PoolConfig) (generator : Generator) (memory : σ) :
    Sound (.new config generator memory : Pool α β γ σ) := by
  constructor
  · intro id
    simp only [Pool.new, OrderedMap.get?_empty]
    constructor
    · rintro ⟨place, ⟨⟩⟩
    · intro range
      omega
  · simp [Pool.new]
  · simp [Pool.new]

theorem Reroute.sound (change : Reroute p changes p') (sound : Sound p) : Sound p' := by
  cases change with
  | keep same lanes =>
    constructor
    · rw [same.roster, same.laneCount]
      exact sound.live
    · intro id place listed
      rw [same.roster] at listed
      obtain ⟨lane, at_, has⟩ := sound.lane listed
      obtain ⟨lane', there, kept⟩ := lanes at_
      exact ⟨lane', there, kept.trans has⟩
    · rw [same.routes, same.laneCount]
      exact sound.routed
  | @grow _ count grown =>
    constructor
    · intro id
      have before := sound.live id
      rw [grown.roster, grown.laneCount]
      by_cases added : p.laneCount < id ∧ id ≤ (p.laneCount + count : Nat)
      · rw [if_pos added]
        exact iff_of_true ⟨_, rfl⟩ (by omega)
      · rw [if_neg added, before]
        omega
    · intro id place listed
      rw [grown.roster] at listed
      split at listed
      · next added =>
        obtain ⟨capacity, tick, there⟩ := grown.new (id - p.laneCount - 1).toNat (by omega)
        refine ⟨_, by rw [← Option.some.inj listed, there], ?_⟩
        have number : ((p.laneCount + (id - p.laneCount - 1).toNat + 1 : Nat) : Int) = id := by
          omega
        rw [Lane.new, number]
      · obtain ⟨lane, at_, has⟩ := sound.lane listed
        refine ⟨lane, ?_, has⟩
        rw [grown.old place (List.getElem?_eq_some_iff.mp at_).1, at_]
    · intro object id route
      rw [grown.routes] at route
      have before := sound.routed route
      rw [grown.laneCount]
      omega
  | draw => exact ⟨sound.live, sound.lane, sound.routed⟩
  | @pin object fresh stocked =>
    refine ⟨sound.live, sound.lane, ?_⟩
    intro other id route
    rw [OrderedMap.get?_insert] at route
    split at route
    · rw [← Option.some.inj route]
      exact hashedLane_mem object stocked
    · exact sound.routed route
  | forget object =>
    refine ⟨sound.live, sound.lane, ?_⟩
    intro other id route
    rw [OrderedMap.get?_erase] at route
    split at route
    · cases route
    · exact sound.routed route
  | empty =>
    constructor
    · intro id
      simp only [emptied, note, OrderedMap.get?_empty]
      constructor
      · rintro ⟨place, ⟨⟩⟩
      · intro range
        omega
    · simp [emptied, note]
    · simp [emptied, note]

theorem Reroutes.sound (rerouted : Reroutes p changes p') (sound : Sound p) : Sound p' :=
  Runs.keeps (fun change => change.sound) rerouted sound

theorem Sound.stocked (sound : Sound p) (some : p.laneCount ≠ 0) : p.roster.isEmpty = false := by
  obtain ⟨place, listed⟩ := (sound.live 1).mpr (by omega)
  cases entries : p.roster.entries with
  | nil => simp [OrderedMap.get?, entries, OrderedMap.find] at listed
  | cons => simp [OrderedMap.isEmpty, entries]

/-! ### Pinned objects -/

/-- With affinity the object is routed to the lane at this place. -/
def Pinned (p : Pool α β γ σ) (object : ObjectId) (place : Nat) : Prop :=
  ∃ id, p.routes.get? object = some id ∧ p.roster.get? id = some place

theorem Pinned.unique {object : ObjectId} {place place' : Nat} (pinned : Pinned p object place)
    (pinned' : Pinned p object place') : place = place' := by
  obtain ⟨id, route, listed⟩ := pinned
  obtain ⟨id', route', listed'⟩ := pinned'
  obtain rfl : id = id' := Option.some.inj (route.symm.trans route')
  exact Option.some.inj (listed.symm.trans listed')

theorem Pinned.target {object : ObjectId} {place : Nat} (pinned : Pinned p object place)
    (sound : Sound p) (pos : 0 < object) : p.target object true = (.ok place, p) := by
  obtain ⟨id, route, listed⟩ := pinned
  have some : p.laneCount ≠ 0 := by
    have range := sound.routed route
    omega
  have chosen : p.choose object true = (id, p) := by
    have positive : ¬ object ≤ 0 := Int.not_le.mpr pos
    simp [choose, positive, route]
  simp [Pool.target, some, sound.stocked some, chosen, place?, listed]

/-- Routing with affinity finds no lane only where there is none; else it pins the object. -/
theorem Sound.target_pins (sound : Sound p) {object : ObjectId} (pos : 0 < object) :
    (p.laneCount = 0 ∧ p.target object true = (.error .noWorkers, p)) ∨
      ∃ place, (p.target object true).1 = .ok place ∧
        Pinned (p.target object true).2 object place := by
  by_cases empty : p.laneCount = 0
  · exact .inl ⟨empty, by simp [Pool.target, empty]⟩
  · have positive : ¬ object ≤ 0 := Int.not_le.mpr pos
    cases route : p.routes.get? object with
    | some id =>
      obtain ⟨place, listed⟩ := (sound.live id).mpr (sound.routed route)
      have pinned : Pinned p object place := ⟨id, route, listed⟩
      rw [pinned.target sound pos]
      exact .inr ⟨place, rfl, pinned⟩
    | none =>
      obtain ⟨place, listed⟩ := (sound.live _).mpr (hashedLane_mem object empty)
      have chosen : p.target object true = (.ok place,
          { p with routes := p.routes.insert object (hashedLane object p.laneCount) }) := by
        simp [Pool.target, empty, sound.stocked empty, choose, positive, route, place?, listed]
      rw [chosen]
      exact .inr ⟨place, rfl, hashedLane object p.laneCount, by simp [OrderedMap.get?_insert],
        listed⟩

theorem Reroute.pinned {object : ObjectId} {place : Nat} (change : Reroute p changes p')
    (sound : Sound p) (kept : .forgotten object ∉ changes) (running : .emptied ∉ changes)
    (pinned : Pinned p object place) : Pinned p' object place := by
  obtain ⟨id, route, listed⟩ := pinned
  cases change with
  | keep same => exact ⟨id, by rw [same.routes, route], by rw [same.roster, listed]⟩
  | grow grown =>
    refine ⟨id, by rw [grown.routes, route], ?_⟩
    have range := (sound.live id).mp ⟨place, listed⟩
    rw [grown.roster, if_neg (by omega), listed]
  | draw => exact ⟨id, route, listed⟩
  | @pin other fresh =>
    refine ⟨id, ?_, listed⟩
    have apart : other ≠ object := by
      rintro rfl
      rw [route] at fresh
      cases fresh
    rw [OrderedMap.get?_insert, if_neg apart, route]
  | forget other =>
    refine ⟨id, ?_, listed⟩
    have apart : other ≠ object := by
      rintro rfl
      simp at kept
    rw [OrderedMap.get?_erase, if_neg apart, route]
  | empty => simp at running

theorem Reroutes.pinned {object : ObjectId} {place : Nat} (rerouted : Reroutes p changes p')
    (sound : Sound p) (kept : .forgotten object ∉ changes) (running : .emptied ∉ changes)
    (pinned : Pinned p object place) : Pinned p' object place := by
  induction rerouted with
  | refl => exact pinned
  | tail before last ih =>
    simp only [List.mem_append, not_or] at kept running
    exact last.pinned (Reroutes.sound before sound) kept.2 running.2 (ih kept.1 running.1)

theorem owner_of_pos (p : Pool α β γ σ) {object : ObjectId} (pos : 0 < object) :
    p.owner object = p.target object true := by
  have positive : ¬ object ≤ 0 := Int.not_le.mpr pos
  simp [owner, positive]

theorem Sound.targets_pin {p : Pool α β γ σ} (sound : Sound p) {object : ObjectId}
    (pos : 0 < object) {objects : List ObjectId} {found : Except Error Nat}
    (resolved : (object, found) ∈ (p.targets objects).1) :
    found = .error .noWorkers ∨
      ∃ place, found = .ok place ∧ Pinned (p.targets objects).2 object place := by
  induction objects generalizing p with
  | nil => simp [targets] at resolved
  | cons first rest ih =>
    have rerouted := p.target_reroutes first true
    have later := rerouted.sound sound
    simp only [targets, List.mem_cons] at resolved ⊢
    rcases resolved with same | resolved
    · obtain ⟨rfl, rfl⟩ := Prod.mk.inj same
      rcases sound.target_pins pos with ⟨-, none⟩ | ⟨place, ok, pinned⟩
      · exact .inl (by rw [none])
      · exact .inr ⟨place, ok, (targets_reroutes rest _).pinned later (by simp) (by simp) pinned⟩
    · exact ih later resolved

theorem mem_of_mem_targets {p : Pool α β γ σ} {objects : List ObjectId} {object : ObjectId}
    {found : Except Error Nat} (mem : (object, found) ∈ (p.targets objects).1) :
    object ∈ objects := by
  induction objects generalizing p with
  | nil => simp [targets] at mem
  | cons first rest ih =>
    simp only [targets, List.mem_cons, Prod.mk.injEq] at mem
    rcases mem with ⟨rfl, -⟩ | later
    · exact List.mem_cons_self ..
    · exact List.mem_cons_of_mem _ (ih later)

end Pool

namespace RunningPool
variable {α β γ σ : Type} {h : Handler α β γ σ}

theorem apply_sound (s : RunningPool α β γ σ) (step : Step α γ σ) (sound : s.pool.Sound) :
    (s.apply h step).pool.Sound := by
  obtain ⟨changes, rerouted, -⟩ := s.apply_reroutes (h := h) step
  exact rerouted.sound sound

theorem run_sound {steps : List (Step α γ σ)} {s : RunningPool α β γ σ} (sound : s.pool.Sound) :
    (run h steps s).pool.Sound :=
  run_keeps (P := fun s => s.pool.Sound) (fun s step => s.apply_sound step) steps sound

theorem apply_pinned {s : RunningPool α β γ σ} {step : Step α γ σ} {object : ObjectId}
    {place : Nat} (sound : s.pool.Sound) (running : step ≠ .quit)
    (kept : step ≠ .removeObject object) (pinned : s.pool.Pinned object place) :
    (s.apply h step).pool.Pinned object place := by
  obtain ⟨changes, rerouted, only⟩ := s.apply_reroutes (h := h) step
  refine rerouted.pinned sound (fun forgotten => kept ?_) (fun emptied => running ?_) pinned
  · have change := only forgotten
    cases step <;> simp [Step.changes] at change
    rw [change]
  · have change := only emptied
    cases step <;> simp [Step.changes] at change
    rfl

end RunningPool
end Lanes
