import Lanes.Proofs.Pool.Population
import Lanes.Proofs.Pool.Targets

/-!
# One map of objects

To its callers a pool looks like one map of objects, although each lane has a table of its own. As
long as only the pool's own calls change tables, every object on a live lane is pinned to this lane.
So a call finds the object again when the pool has grown meanwhile, and what the tables of the live
lanes hold is disjoint and makes up the map.
-/
namespace Lanes

/-! ### The map -/

/-- The map of all objects, with what decides whether a call for one of them is refused. -/
structure Directory (γ : Type) where
  /-- The capacity of the mailboxes of new lanes. -/
  capacity : Nat
  /-- The number of live lanes. -/
  lanes : Nat
  objects : Table γ

namespace Directory
variable {α γ σ : Type}

/-- The directory of a pool without lanes. -/
def empty (capacity : Nat) : Directory γ := ⟨capacity, 0, .empty⟩

/-- Why a call for an object is refused. -/
def refusal (d : Directory γ) (object : ObjectId) : Option Error :=
  if object ≤ 0 then some (.objectNotPositive object)
  else if d.lanes = 0 then some .noWorkers
  else none

def get (d : Directory γ) (object : ObjectId) : Except Error γ :=
  match d.refusal object with
  | some cause => .error cause
  | none =>
    match d.objects.get? object with
    | some value => .ok value
    | none => .error (.noSuchObject object)

def set (d : Directory γ) (object : ObjectId) (value : γ) : Except Error Unit × Directory γ :=
  match d.refusal object with
  | some cause => (.error cause, d)
  | none => (.ok (), { d with objects := d.objects.insert object value })

def remove (d : Directory γ) (object : ObjectId) : Except Error (Option γ) × Directory γ :=
  match d.refusal object with
  | some cause => (.error cause, d)
  | none => (.ok (d.objects.get? object), { d with objects := d.objects.erase object })

def grow (d : Directory γ) (count : Nat) : Directory γ :=
  if 0 < count ∧ d.capacity ≤ maxCapacity ∧ d.lanes + count ≤ maxLaneId then
    { d with lanes := d.lanes + count }
  else d

/-- The directory after a step. -/
def apply (d : Directory γ) : RunningPool.Step α γ σ → Directory γ
  | .grow count _ => d.grow count
  | .setObject object value => (d.set object value).2
  | .removeObject object => (d.remove object).2
  | .quit => .empty d.capacity
  | _ => d

/-- The directory after a run. -/
def run (steps : List (RunningPool.Step α γ σ)) (d : Directory γ) : Directory γ :=
  steps.foldl apply d

theorem refusal_eq_none_iff {d : Directory γ} {object : ObjectId} :
    d.refusal object = none ↔ 0 < object ∧ d.lanes ≠ 0 := by
  unfold refusal
  by_cases neg : object ≤ 0
  · simp [neg, Int.not_lt.mpr neg]
  · simp [neg, Int.not_le.mp neg]

end Directory

/-! ### Tables that nobody touches -/

/-- A handler that fails at once. -/
def Handler.idle {α β γ σ : Type} : Handler α β γ σ where
  process _ _ _ table memory := .done (.failed .noWorkers, table, memory)

theorem Handler.idle_handles {α β γ σ : Type} {id : LaneId} {table table' : Table γ}
    {message : LaneMessage α} {outcome : Outcome (Option β)}
    (handled : (idle : Handler α β γ σ).Handles id table message outcome table') :
    table' = table := by
  cases handled with
  | request yields =>
    cases yields with
    | done => rfl
  | tick => rfl

/-- Nobody changes tables from outside. -/
def Influence.unedited {α γ : Type} : Influence α γ :=
  ⟨fun _ _ => False, fun _ => True, True, True⟩

section Untouched
variable {α β γ σ : Type}

theorem Lane.Move.table {lane lane' : Lane α β γ} {events : List (LaneEvent α β)}
    (m : Move (.idle : Handler α β γ σ) .unedited lane events lane') :
    lane'.table = lane.table := by
  cases m with
  | setTable edited => exact edited.elim
  | retime ok =>
    obtain ⟨metronome, period, -, rfl⟩ := retime_eq ok
    rfl
  | dispatch _ _ _ handled => exact Handler.idle_handles handled
  | beat => exact lane.beat_keeps.2.2.1
  | lastBeat => exact lane.beat_keeps.2.2.1
  | _ => rfl

namespace Pool
variable {p p' : Pool α β γ σ} {place : Nat} {lane : Lane α β γ}

theorem tableAt_eq (at_ : p.lanes[place]? = some lane) : p.tableAt place = lane.table := by
  simp [tableAt, at_]

theorem tableAt_of_evolves (evolves : Evolves (.idle : Handler α β γ σ) .unedited p p')
    (at_ : p.lanes[place]? = some lane) : p'.tableAt place = p.tableAt place := by
  obtain ⟨lane', events, there, -, moves⟩ := evolves.lane at_
  rw [tableAt_eq there, tableAt_eq at_]
  exact moves.keeps (P := fun l => l.table = lane.table)
    (fun step same => step.table.trans same) rfl

theorem tableAt_setTable (at_ : p.lanes[place]? = some lane) (table : Table γ) (k : Nat) :
    (p.setTable place table).tableAt k = if place = k then table else p.tableAt k := by
  by_cases here : place = k
  · subst here
    rw [if_pos rfl, setTable, tableAt_eq (lane_updateLane_self at_ _)]
  · rw [if_neg here, tableAt, setTable, lane_updateLane_ne p here, tableAt]

end Pool
end Untouched

/-! ### The map of a pool -/

namespace Pool
variable {α β γ σ : Type} {p p' : Pool α β γ σ} {d : Directory γ} {place : Nat}
  {object : ObjectId} {value : γ}

/-- The lane at the place is live, and the object is bound to it. -/
def Holds (p : Pool α β γ σ) (place : Nat) (object : ObjectId) (value : γ) : Prop :=
  p.Live place ∧ (p.tableAt place).get? object = some value

/-- The directory lists what the live lanes hold, and all of it is pinned where it is. -/
structure Files (p : Pool α β γ σ) (d : Directory γ) : Prop where
  sound : p.Sound
  capacity : d.capacity = p.config.capacity
  lanes : d.lanes = p.laneCount
  pinned : ∀ {place object value}, p.Holds place object value → 0 < object ∧ p.Pinned object place
  listed : ∀ object value, d.objects.get? object = some value ↔ ∃ place, p.Holds place object value

theorem Sound.lane_of_live (sound : p.Sound) (live : p.Live place) :
    ∃ lane, p.lanes[place]? = some lane := by
  obtain ⟨id, entry⟩ := live
  obtain ⟨lane, at_, -⟩ := sound.lane entry
  exact ⟨lane, at_⟩

theorem Pinned.live (pinned : p.Pinned object place) : p.Live place := by
  obtain ⟨id, -, entry⟩ := pinned
  exact ⟨id, entry⟩

theorem Files.new (config : PoolConfig) (generator : Generator) (memory : σ) :
    (.new config generator memory : Pool α β γ σ).Files (.empty config.capacity) where
  sound := .new config generator memory
  capacity := rfl
  lanes := rfl
  pinned := by
    rintro place object value ⟨⟨id, entry⟩, -⟩
    simp [Pool.new] at entry
  listed object value := by
    refine iff_of_false (by simp [Directory.empty]) ?_
    rintro ⟨place, ⟨id, entry⟩, -⟩
    simp [Pool.new] at entry

/-- A pinned object is listed exactly if the lane to which it is pinned holds it. -/
theorem Files.get?_eq (files : p.Files d) (pinned : p.Pinned object place) :
    d.objects.get? object = (p.tableAt place).get? object := by
  refine Option.ext fun value => ?_
  rw [files.listed]
  constructor
  · rintro ⟨other, holds⟩
    obtain rfl := (files.pinned holds).2.unique pinned
    exact holds.2
  · intro held
    exact ⟨place, pinned.live, held⟩

/-- What neither adds lanes nor changes what they hold leaves the directory right. -/
theorem Files.keep (files : p.Files d) (sound : p'.Sound) (config : p'.config = p.config)
    (count : p'.laneCount = p.laneCount)
    (pins : ∀ {object place}, p.Pinned object place → p'.Pinned object place)
    (holds : ∀ place object value, p'.Holds place object value ↔ p.Holds place object value) :
    p'.Files d where
  sound := sound
  capacity := files.capacity.trans (by rw [config])
  lanes := files.lanes.trans count.symm
  pinned held := by
    obtain ⟨pos, pinned⟩ := files.pinned ((holds ..).mp held)
    exact ⟨pos, pins pinned⟩
  listed object value := by simp only [files.listed, holds]

/-! ### What calls make of it -/

theorem Files.grow (files : p.Files d) (count : Nat) (tick : Option Duration) :
    (p.grow count tick).2.Files (d.grow count) := by
  have same : p.growthRefusal count = none ↔ _ := growthRefusal_eq_none_iff
  rw [← files.lanes, ← files.capacity] at same
  have evolves : Evolves (.idle : Handler α β γ σ) .unedited p (p.grow count tick).2 :=
    p.grow_evolves count tick
  have config := evolves.config
  obtain ⟨cause, refused, eq⟩ | ⟨granted, -, grown⟩ := p.grow_cases count tick
  · have short : ¬ (0 < count ∧ d.capacity ≤ maxCapacity ∧ d.lanes + count ≤ maxLaneId) := by
      rw [← same, refused]
      simp
    rw [eq, Directory.grow, if_neg short]
    exact files
  · rw [Directory.grow, if_pos (same.mp granted)]
    have sound := (Reroute.grow grown).sound files.sound
    -- a lane that was not live before is new, and its table is empty
    have holds (place : Nat) (object : ObjectId) (value : γ) :
        (p.grow count tick).2.Holds place object value ↔ p.Holds place object value := by
      constructor
      · rintro ⟨⟨id, entry⟩, held⟩
        rw [grown.roster] at entry
        split at entry
        · obtain ⟨capacity, tick', there⟩ := grown.new (id - p.laneCount - 1).toNat (by omega)
          rw [← Option.some.inj entry, tableAt_eq there] at held
          simp [Lane.new] at held
        · obtain ⟨lane, at_, -⟩ := files.sound.lane entry
          have old := grown.old place (List.getElem?_eq_some_iff.mp at_).1
          exact ⟨⟨id, entry⟩, by rwa [tableAt_eq (old.trans at_), ← tableAt_eq at_] at held⟩
      · rintro ⟨live, held⟩
        obtain ⟨lane, at_⟩ := files.sound.lane_of_live live
        have old := grown.old place (List.getElem?_eq_some_iff.mp at_).1
        exact ⟨(Reroute.grow grown).stays_live files.sound (by simp) live,
          by rwa [tableAt_eq (old.trans at_), ← tableAt_eq at_]⟩
    refine ⟨sound, files.capacity.trans (by rw [config]), ?_, fun held => ?_,
      fun object value => ?_⟩
    · rw [grown.laneCount, ← files.lanes]
    · obtain ⟨pos, pinned⟩ := files.pinned ((holds ..).mp held)
      exact ⟨pos, (Reroute.grow grown).pinned files.sound (by simp) (by simp) pinned⟩
    · simp only [files.listed, holds]

/-- The pool forgets its lanes, and with them all objects. -/
theorem Files.quit (files : p.Files d) : p.beginQuit.2.Files (.empty d.capacity) := by
  have emptied := p.beginQuit_routes
  have gone (place : Nat) : ¬ p.beginQuit.2.Live place := by
    rintro ⟨id, entry⟩
    rw [emptied.roster] at entry
    simp [Pool.emptied, note] at entry
  have sound : p.beginQuit.2.Sound :=
    RunningPool.apply_sound (h := (.idle : Handler α β γ σ)) ⟨p, []⟩ .quit files.sound
  refine ⟨sound, files.capacity.trans (by rw [emptied.config]; rfl),
    emptied.laneCount.symm, fun held => absurd held.1 (gone _), fun object value => ?_⟩
  refine iff_of_false (by simp [Directory.empty]) ?_
  rintro ⟨place, live, -⟩
  exact gone place live

/-- The owner of an object is refused for the reason that the directory gives, or the object is
pinned to it. -/
theorem Files.owner_cases (files : p.Files d) (object : ObjectId) :
    (∃ cause, d.refusal object = some cause ∧ p.owner object = (.error cause, p)) ∨
    (d.refusal object = none ∧ ∃ place, (p.owner object).1 = .ok place ∧ 0 < object ∧
      (p.owner object).2.Pinned object place ∧ (p.owner object).2.Files d) := by
  by_cases neg : object ≤ 0
  · exact .inl ⟨.objectNotPositive object, by simp [Directory.refusal, neg], by simp [owner, neg]⟩
  · have pos : 0 < object := Int.not_le.mp neg
    have routed := p.owner_reroutes object
    rw [p.owner_of_pos pos] at routed ⊢
    rcases files.sound.target_pins pos with ⟨empty, none⟩ | ⟨place, found, pinned⟩
    · exact .inl ⟨.noWorkers, by simp [Directory.refusal, neg, files.lanes, empty], none⟩
    · have stocked : d.lanes ≠ 0 := by
        intro empty
        rw [files.lanes] at empty
        simp [Pool.target, empty] at found
      obtain ⟨routes, generator, same⟩ := p.target_same object true
      refine .inr ⟨Directory.refusal_eq_none_iff.mpr ⟨pos, stocked⟩, place, found, pos, pinned, ?_⟩
      exact files.keep (routed.sound files.sound) (by rw [same]) (by rw [same])
        (routed.pinned files.sound (by simp) (by simp)) fun _ _ _ => by rw [same]; exact Iff.rfl

theorem holds_setTable {lane : Lane α β γ} (at_ : p.lanes[place]? = some lane) (table : Table γ)
    {k : Nat} : (p.setTable place table).Holds k object value ↔
      p.Live k ∧ (if place = k then table else p.tableAt k).get? object = some value := by
  rw [Holds, tableAt_setTable at_]
  exact Iff.rfl

/-- An object bound to the lane to which it is pinned. -/
theorem Files.bind (files : p.Files d) (pos : 0 < object) (pinned : p.Pinned object place)
    (value : γ) : (p.setTable place ((p.tableAt place).insert object value)).Files
      { d with objects := d.objects.insert object value } := by
  obtain ⟨lane, at_⟩ := files.sound.lane_of_live pinned.live
  have holds (k : Nat) (other : ObjectId) (v : γ) :
      (p.setTable place ((p.tableAt place).insert object value)).Holds k other v ↔
        (object = other ∧ place = k ∧ value = v) ∨ (object ≠ other ∧ p.Holds k other v) := by
    rw [holds_setTable at_]
    by_cases same : object = other
    · subst same
      by_cases here : place = k
      · subst here
        simp [OrderedMap.get?_insert, pinned.live]
      · -- the object is pinned to one lane only
        have away : ¬ p.Holds k object v := fun held =>
          here (pinned.unique (files.pinned held).2)
        simpa [here, Holds] using away
    · by_cases here : place = k
      · subst here
        simp [OrderedMap.get?_insert, same, Holds]
      · simp [same, here, Holds]
  refine ⟨(setTable_reroutes p place _).sound files.sound, files.capacity, files.lanes, ?_, ?_⟩
  · intro k other v held
    rcases (holds k other v).mp held with ⟨rfl, rfl, -⟩ | ⟨-, before⟩
    · exact ⟨pos, pinned⟩
    · exact files.pinned before
  · intro other v
    simp only [holds, OrderedMap.get?_insert]
    by_cases same : object = other
    · simp [same]
    · simp [same, files.listed]

/-- An object taken from the lane to which it is pinned. -/
theorem Files.unbind (files : p.Files d) (pinned : p.Pinned object place) :
    ({ p.setTable place ((p.tableAt place).erase object) with
        routes := p.routes.erase object } : Pool α β γ σ).Files
      { d with objects := d.objects.erase object } := by
  obtain ⟨lane, at_⟩ := files.sound.lane_of_live pinned.live
  have holds (k : Nat) (other : ObjectId) (v : γ) :
      (p.setTable place ((p.tableAt place).erase object)).Holds k other v ↔
        object ≠ other ∧ p.Holds k other v := by
    rw [holds_setTable at_]
    by_cases same : object = other
    · subst same
      by_cases here : place = k
      · simp [here, OrderedMap.get?_erase]
      · have away : ¬ p.Holds k object v := fun held =>
          here (pinned.unique (files.pinned held).2)
        simpa [here, Holds] using away
    · by_cases here : place = k
      · subst here
        simp [OrderedMap.get?_erase, same, Holds]
      · simp [same, here, Holds]
  have sound := (Reroute.forget _ object).sound ((setTable_reroutes p place
    ((p.tableAt place).erase object)).sound files.sound)
  refine ⟨sound, files.capacity, files.lanes, ?_, ?_⟩
  · intro k other v held
    obtain ⟨apart, before⟩ := (holds k other v).mp held
    obtain ⟨pos, id, route, entry⟩ := files.pinned before
    exact ⟨pos, id, (OrderedMap.get?_erase ..).trans (by rw [if_neg apart, route]), entry⟩
  · intro other v
    rw [OrderedMap.get?_erase]
    refine Iff.trans ?_ (exists_congr fun k => (holds k other v)).symm
    by_cases same : object = other
    · simp [same]
    · simp [same, files.listed]

/-- The pool answers as the directory does. -/
theorem Files.getObject (files : p.Files d) (object : ObjectId) :
    (p.getObject object).1 = d.get object := by
  rcases files.owner_cases object with ⟨cause, refused, eq⟩ | ⟨free, place, ok, pos, pinned, after⟩
  · simp [Pool.getObject, eq, Directory.get, refused, Except.bind]
  · have positive : ¬ object ≤ 0 := Int.not_le.mpr pos
    cases held : ((p.owner object).2.tableAt place).get? object with
    | none =>
      simp [Pool.getObject, ok, Except.bind, Table.lookup, positive, Directory.get, free,
        after.get?_eq pinned, held]
    | some value =>
      simp [Pool.getObject, ok, Except.bind, Table.lookup, positive, Directory.get, free,
        after.get?_eq pinned, held]

theorem Files.setObject (files : p.Files d) (object : ObjectId) (value : γ) :
    (p.setObject object value).1 = (d.set object value).1 ∧
      (p.setObject object value).2.Files (d.set object value).2 := by
  rcases files.owner_cases object with ⟨cause, refused, eq⟩ | ⟨free, place, ok, pos, pinned, after⟩
  · simpa [Pool.setObject, eq, Directory.set, refused] using files
  · have positive : ¬ object ≤ 0 := Int.not_le.mpr pos
    simp only [Pool.setObject, ok, Table.bind, positive, if_false, Directory.set, free, true_and]
    exact after.bind pos pinned value

theorem Files.removeObject (files : p.Files d) (object : ObjectId) :
    (p.removeObject object).1 = (d.remove object).1 ∧
      (p.removeObject object).2.Files (d.remove object).2 := by
  rcases files.owner_cases object with ⟨cause, refused, eq⟩ | ⟨free, place, ok, pos, pinned, after⟩
  · simpa [Pool.removeObject, eq, Directory.remove, refused] using files
  · have positive : ¬ object ≤ 0 := Int.not_le.mpr pos
    simp only [Pool.removeObject, ok, Table.unbind, positive, if_false, Directory.remove, free,
      after.get?_eq pinned, true_and]
    exact after.unbind pinned

/-- Bound objects are found by routing with affinity, on the lane that holds them. -/
theorem Files.target (files : p.Files d) (listed : d.objects.get? object = some value) :
    ∃ place, p.target object true = (.ok place, p) ∧ p.Holds place object value := by
  obtain ⟨place, holds⟩ := (files.listed object value).mp listed
  obtain ⟨pos, pinned⟩ := files.pinned holds
  exact ⟨place, pinned.target files.sound pos, holds⟩

theorem objectsOf_eq_ok_iff {id : LaneId} {table : Table γ} :
    p.objectsOf id = .ok table ↔
      ∃ place, p.roster.get? id = some place ∧ p.tableAt place = table := by
  unfold objectsOf place?
  cases entry : p.roster.get? id <;> simp [Except.map]

/-- The pool answers as the directory does, and the objects of the live lanes make it up. -/
structure Mirrors (p : Pool α β γ σ) (d : Directory γ) : Prop where
  get : ∀ object, (p.getObject object).1 = d.get object
  set : ∀ object value, (p.setObject object value).1 = (d.set object value).1
  remove : ∀ object, (p.removeObject object).1 = (d.remove object).1
  /-- Without lanes there is no target. -/
  target : ∀ object affinity,
    (p.target object affinity).1 = .error .noWorkers ↔ d.lanes = 0
  /-- With affinity the target is the lane that holds the object. -/
  holder : ∀ object value, d.objects.get? object = some value →
    ∃ place, p.target object true = (.ok place, p) ∧ p.Holds place object value
  /-- There is a snapshot for every live lane, and for no other. -/
  snapshot : ∀ id : LaneId, (∃ table, p.objectsOf id = .ok table) ↔ 0 < id ∧ id ≤ d.lanes
  missing : ∀ id : LaneId, ¬ (0 < id ∧ id ≤ d.lanes) → p.objectsOf id = .error (.noSuchWorker id)
  disjoint : ∀ {id id' table table' object}, p.objectsOf id = .ok table →
    p.objectsOf id' = .ok table' → table.contains object → table'.contains object → id = id'
  union : ∀ object value, d.objects.get? object = some value ↔
    ∃ id table, p.objectsOf id = .ok table ∧ table.get? object = some value

theorem Files.mirrors (files : p.Files d) : p.Mirrors d where
  get := files.getObject
  set object value := (files.setObject object value).1
  remove object := (files.removeObject object).1
  target object affinity := by
    rw [files.lanes]
    constructor
    · intro none
      by_contra stocked
      obtain ⟨place, lane, found⟩ := files.sound.lands stocked object affinity
      rw [found.answer] at none
      cases none
    · intro empty
      simp [Pool.target, empty]
  holder _ _ listed := files.target listed
  snapshot id := by
    rw [files.lanes, ← files.sound.live]
    simp only [objectsOf_eq_ok_iff]
    constructor
    · rintro ⟨_, place, entry, -⟩
      exact ⟨place, entry⟩
    · rintro ⟨place, entry⟩
      exact ⟨_, place, entry, rfl⟩
  missing id none := by
    rw [files.lanes, ← files.sound.live] at none
    have absent : p.roster.get? id = .none :=
      Option.eq_none_iff_forall_ne_some.mpr fun place entry => none ⟨place, entry⟩
    simp [objectsOf, place?, absent, Except.map]
  disjoint {id id' table table' object} first second held held' := by
    obtain ⟨place, entry, rfl⟩ := objectsOf_eq_ok_iff.mp first
    obtain ⟨place', entry', rfl⟩ := objectsOf_eq_ok_iff.mp second
    obtain ⟨value, has⟩ := Option.isSome_iff_exists.mp held
    obtain ⟨value', has'⟩ := Option.isSome_iff_exists.mp held'
    have pinned := (files.pinned ⟨⟨id, entry⟩, has⟩).2
    obtain rfl := pinned.unique (files.pinned ⟨⟨id', entry'⟩, has'⟩).2
    obtain ⟨lane, at_, number⟩ := files.sound.lane entry
    obtain ⟨lane', there, number'⟩ := files.sound.lane entry'
    obtain rfl := Option.some.inj (at_.symm.trans there)
    exact number.symm.trans number'
  union object value := by
    rw [files.listed]
    constructor
    · rintro ⟨place, ⟨id, entry⟩, held⟩
      exact ⟨id, _, objectsOf_eq_ok_iff.mpr ⟨place, entry, rfl⟩, held⟩
    · rintro ⟨id, table, snapshot, held⟩
      obtain ⟨place, entry, rfl⟩ := objectsOf_eq_ok_iff.mp snapshot
      exact ⟨place, ⟨id, entry⟩, held⟩

/-- Routes that only gain pins leave the rest of the routing as it was. -/
theorem Reroutes.steady {changes : List RouteChange} (rerouted : Reroutes p changes p')
    (none : changes = []) : p'.roster = p.roster ∧ p'.laneCount = p.laneCount := by
  induction rerouted with
  | refl => exact ⟨rfl, rfl⟩
  | tail before last ih =>
    obtain ⟨rfl, rfl⟩ := List.append_eq_nil_iff.mp none
    obtain ⟨roster, count⟩ := ih rfl
    cases last with
    | keep same => exact ⟨same.roster.trans roster, same.laneCount.trans count⟩
    | draw => exact ⟨roster, count⟩
    | pin => exact ⟨roster, count⟩

end Pool

/-! ### The map along a run -/

namespace RunningPool
variable {α β γ σ : Type} {h : Handler α β γ σ} {s : RunningPool α β γ σ} {d : Directory γ}

/-- A change from outside or a call of the handler leaves another table on a live lane. -/
def Disturbs (h : Handler α β γ σ) (p : Pool α β γ σ) (step : Step α γ σ) : Prop :=
  match step with
  | .edit _ _ | .consume _ _ =>
    ∃ place, p.Live place ∧ (perform h p step).tableAt place ≠ p.tableAt place
  | _ => False

/-- Of steps that call no handler, only changes from outside touch tables. -/
theorem apply_tables {step : Step α γ σ} (aside : s.apply h step = s.apply .idle step)
    (within : step.Within .unedited) (sound : s.pool.Sound) {place : Nat}
    (live : s.pool.Live place) :
    (s.apply h step).pool.tableAt place = s.pool.tableAt place := by
  obtain ⟨lane, at_⟩ := sound.lane_of_live live
  rw [aside]
  exact Pool.tableAt_of_evolves (s.apply_evolves_within (fun _ _ => trivial) within) at_

theorem apply_steady (files : s.pool.Files d) {step : Step α γ σ} (none : step.changes = [])
    (tables : ∀ {place}, s.pool.Live place →
      (s.apply h step).pool.tableAt place = s.pool.tableAt place) :
    (s.apply h step).pool.Files d := by
  obtain ⟨changes, rerouted, only⟩ := s.apply_reroutes (h := h) step
  have still : changes = [] := List.subset_nil.mp (none ▸ only)
  obtain ⟨roster, count⟩ := rerouted.steady still
  have live (place : Nat) : (s.apply h step).pool.Live place ↔ s.pool.Live place := by
    rw [Pool.Live, Pool.Live, roster]
  refine files.keep (s.apply_sound step files.sound) (s.apply_evolves step).config count
    (rerouted.pinned files.sound (by simp [still]) (by simp [still])) fun place object value => ?_
  constructor
  · rintro ⟨after, held⟩
    have before := (live place).mp after
    exact ⟨before, tables before ▸ held⟩
  · rintro ⟨before, held⟩
    exact ⟨(live place).mpr before, (tables before).symm ▸ held⟩

theorem apply_files (files : s.pool.Files d) {step : Step α γ σ}
    (calm : ¬ Disturbs h s.pool step) : (s.apply h step).pool.Files (d.apply step) := by
  have settled (same : s.apply h step = s.apply .idle step) (within : step.Within .unedited)
      (none : step.changes = []) : (s.apply h step).pool.Files d :=
    apply_steady files none fun live => apply_tables same within files.sound live
  cases step with
  | grow count tick => exact files.grow count tick
  | setObject object value => exact (files.setObject object value).2
  | removeObject object => exact (files.removeObject object).2
  | quit => exact files.quit
  | edit place change =>
    exact apply_steady files rfl fun live => Classical.not_not.mp fun other =>
      calm ⟨_, live, other⟩
  | consume now place =>
    exact apply_steady files rfl fun live => Classical.not_not.mp fun other =>
      calm ⟨_, live, other⟩
  | _ => exact settled rfl trivial rfl

theorem run_files (files : s.pool.Files d) {steps : List (Step α γ σ)}
    (calm : ∀ visit ∈ visits h steps s, ¬ Disturbs h visit.1 visit.2) :
    (run h steps s).pool.Files (d.run steps) := by
  induction steps generalizing s d with
  | nil => exact files
  | cons step steps ih =>
    obtain ⟨here, later⟩ := List.forall_mem_cons.mp calm
    exact ih (apply_files files here) later

/-- As long as only the pool's own calls change the tables of live lanes, the pool answers at every
moment as one map of objects does that quit empties, however many lanes were added in between, and
the objects of the live lanes are disjoint and make up this map. -/
theorem objects_form_one_map (h : Handler α β γ σ) (config : PoolConfig) (generator : Generator)
    (memory : σ) (steps : List (Step α γ σ))
    (calm : ∀ visit ∈ visits h steps (start config generator memory),
      ¬ Disturbs h visit.1 visit.2) :
    ∀ earlier later, steps = earlier ++ later →
      (run h earlier (start config generator memory)).pool.Mirrors
        (Directory.run earlier (.empty config.capacity)) := by
  rintro earlier later rfl
  rw [visits_append] at calm
  exact (run_files (.new config generator memory)
    fun visit mem => calm visit (List.mem_append_left _ mem)).mirrors

/-- A handler that changes no table disturbs nothing. -/
theorem idle_calm {config : PoolConfig} {generator : Generator} {memory : σ}
    {steps : List (Step α γ σ)} (closed : ∀ place change, .edit place change ∉ steps) :
    ∀ visit ∈ visits (.idle : Handler α β γ σ) steps (start config generator memory),
      ¬ Disturbs .idle visit.1 visit.2 := by
  rintro ⟨p, step⟩ visited
  obtain ⟨earlier, later, split, rfl⟩ := mem_visits.mp visited
  have sound : (run .idle earlier (start config generator memory)).pool.Sound :=
    run_sound (h := (.idle : Handler α β γ σ)) (Pool.Sound.new config generator memory)
  cases step with
  | edit place change => exact absurd (by simp [split]) (closed place change)
  | consume now place =>
    rintro ⟨k, live, other⟩
    have calm : (Step.consume now place : Step α γ σ).Within .unedited := trivial
    exact other (apply_tables rfl calm sound live)
  | _ => exact id

/-- Objects are bound, removed and looked up while lanes are added and requests are handled; the
last steps empty the pool and fill it again. -/
def regrownRun : List (Step Unit Nat Unit) :=
  [.grow 2 none, .setObject 1 10, .setObject 2 20, .sendEach () [1, 3] false, .consume 0 0,
    .consume 0 0, .grow 3 none, .getObject 3, .removeObject 2, .setObject 2 21, .target 4 true,
    .quit, .resume 0, .setObject 1 11, .grow 1 none]

/-- Before quit the bound objects are found again although the number of lanes has changed; after it
there are none. -/
theorem regrownRun_answers_as_one_map :
    let busy := (run (.idle : Handler Unit Unit Nat Unit) (regrownRun.take 11)
      (start .standard (.seeded 0) ())).pool
    let last := (run (.idle : Handler Unit Unit Nat Unit) regrownRun
      (start .standard (.seeded 0) ())).pool
    ((busy.getObject 1).1 = .ok 10 ∧ (busy.removeObject 2).1 = .ok (some 21) ∧
      (busy.getObject 3).1 = .error (.noSuchObject 3) ∧
      (busy.setObject 0 1).1 = .error (.objectNotPositive 0)) ∧
    (last.getObject 1).1 = .error (.noSuchObject 1) := by
  intro busy last
  have mirrors := objects_form_one_map (.idle : Handler Unit Unit Nat Unit) .standard (.seeded 0) ()
    regrownRun (idle_calm (by simp [regrownRun]))
  have before := mirrors (regrownRun.take 11) (regrownRun.drop 11) rfl
  have after := mirrors regrownRun [] (List.append_nil _).symm
  exact ⟨⟨before.get 1, before.remove 2, before.get 3, before.set 0 1⟩, after.get 1⟩

end RunningPool
end Lanes
