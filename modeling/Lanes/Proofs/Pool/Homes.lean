import Lanes.Proofs.Pool.Routing

/-!
# Homes of objects

The home of an object is the lane to which it is pinned. Requests for an object go to its home, and
so do the pool's own calls on it; so no other live lane comes to hold it. There is one way out: a
removal forgets the home while a request that may bind the object again still waits there. As long
as no removal overtakes such a request each object has at most one copy on live lanes, and routing
with affinity leads to it.
-/
namespace Lanes

section Binding
variable {α β γ σ : Type}

/-- The handler may bind the object while it handles the message. -/
def Handler.MayBind (h : Handler α β γ σ) (message : LaneMessage α) (object : ObjectId) : Prop :=
  ∃ id table outcome table', h.Handles id table message outcome table' ∧
    table.get? object = none ∧ table'.get? object ≠ none

/-- While it handles the message the handler binds no object that was not bound before. -/
def Handler.Inert (h : Handler α β γ σ) (message : LaneMessage α) : Prop :=
  ∀ object, 0 < object → ¬ h.MayBind message object

/-- The lane holds the object, or a message waits there that may bind it. -/
def Lane.Concerns (h : Handler α β γ σ) (lane : Lane α β γ) (object : ObjectId) : Prop :=
  lane.table.get? object ≠ none ∨
    ∃ e ∈ lane.mailbox.buffer, h.MayBind e.payload object

end Binding

namespace Lane
variable {α β γ σ : Type} {h : Handler α β γ σ} {outer : Influence α γ} {lane lane' : Lane α β γ}
  {events : List (LaneEvent α β)} {object : ObjectId}

theorem concerns_of_beat (quiet : ¬ h.MayBind .tick object)
    (concerns : lane.beat.2.2.Concerns h object) : lane.Concerns h object := by
  obtain held | ⟨e, waits, binds⟩ := concerns
  · exact .inl (lane.beat_keeps.2.2.1 ▸ held)
  · rcases lane.beat_cases with ⟨-, eq⟩ | ⟨-, envelope, mailbox, ok, eq⟩ | ⟨-, -, eq⟩ | ⟨-, -, eq⟩
    · rw [eq] at waits
      exact .inr ⟨e, waits, binds⟩
    · obtain ⟨-, rfl, rfl⟩ := Mailbox.accept?_eq_ok_iff.mp ok
      simp only [eq, Mailbox.put, List.mem_append, List.mem_singleton] at waits
      rcases waits with before | rfl
      · exact .inr ⟨e, before, binds⟩
      · exact absurd binds quiet
    · rw [eq] at waits
      exact .inr ⟨e, waits, binds⟩
    · rw [eq] at waits
      exact .inr ⟨e, waits, binds⟩

/-- A lane whose table is not changed from outside comes to concern an object only by a request that
may bind it. -/
theorem Move.concerns (m : Move h outer lane events lane')
    (closed : ∀ table table', ¬ outer.edits table table') (quiet : ¬ h.MayBind .tick object)
    (concerns : lane'.Concerns h object) :
    lane.Concerns h object ∨
      ∃ request, outer.sends request ∧ h.MayBind (.request request) object := by
  cases m with
  | @accept request wantsReply envelope mailbox sent ok =>
    obtain ⟨-, rfl, rfl⟩ := Mailbox.accept?_eq_ok_iff.mp ok
    obtain held | ⟨e, waits, binds⟩ := concerns
    · exact .inl (.inl held)
    · simp only [Mailbox.put, List.mem_append, List.mem_singleton] at waits
      rcases waits with before | rfl
      · exact .inl (.inr ⟨e, before, binds⟩)
      · exact .inr ⟨request, sent, binds⟩
  | setTable edited => exact absurd edited (closed _ _)
  | retime ok =>
    obtain ⟨metronome, period, -, rfl⟩ := retime_eq ok
    exact .inl concerns
  | closeTicker => exact .inl concerns
  | close _ ended ok =>
    obtain ⟨-, rfl⟩ := Mailbox.close?_eq_ok_iff.mp ok
    exact .inl concerns
  | orphan => exact .inl concerns
  | start => exact .inl concerns
  | drain => exact .inl concerns
  | @dispatch envelope during mailbox outcome table turn meanwhile requests handled =>
    have first := (Mailbox.buffer_of_turn_dispatch turn).1
    obtain held | ⟨e, waits, binds⟩ := concerns
    · by_cases before : lane.table.get? object = none
      · -- the object is new in the table, so the message was one that may bind it
        exact .inl (.inr ⟨envelope, by simp [first], _, _, _, _, handled, before, held⟩)
      · exact .inl (.inl before)
    · simp only [Mailbox.answer_buffer, meanwhile.eq, List.mem_append] at waits
      rcases waits with later | new
      · exact .inl (.inr ⟨e, by simp [first, later], binds⟩)
      · obtain ⟨request, sent, is⟩ := requests e new
        exact .inr ⟨request, sent, is ▸ binds⟩
  | finish => exact .inl concerns
  | beat => exact .inl (concerns_of_beat quiet concerns)
  | lastBeat => exact .inl (concerns_of_beat quiet concerns)
  | abortTicker => exact .inl concerns
  | abort _ running =>
    obtain held | ⟨e, waits, -⟩ := concerns
    · exact .inl (.inl held)
    · simp [Mailbox.abort, running] at waits
  | findTicker => exact .inl concerns
  | find => exact .inl concerns

theorem Moves.concerns (m : Moves h outer lane events lane')
    (closed : ∀ table table', ¬ outer.edits table table') (quiet : ¬ h.MayBind .tick object)
    (concerns : lane'.Concerns h object) :
    lane.Concerns h object ∨
      ∃ request, outer.sends request ∧ h.MayBind (.request request) object := by
  induction m with
  | refl => exact .inl concerns
  | tail _ last ih =>
    obtain before | sent := last.concerns closed quiet concerns
    · exact ih before
    · exact .inr sent

theorem new_concerns (id : LaneId) (capacity : Nat) (tick : Option Duration) :
    ¬ (new id capacity tick : Lane α β γ).Concerns h object := by
  simp [Concerns, new, Mailbox.new]

end Lane

namespace Pool
variable {α β γ σ : Type} {h : Handler α β γ σ} {p p' : Pool α β γ σ}

/-- A live lane that concerns an object is the one to which the object is pinned. -/
def Homed (h : Handler α β γ σ) (p : Pool α β γ σ) : Prop :=
  ∀ place lane, p.Live place → p.lanes[place]? = some lane →
    ∀ object, 0 < object → lane.Concerns h object → p.Pinned object place

theorem Homed.new (config : PoolConfig) (generator : Generator) (memory : σ) :
    Homed h (.new config generator memory) := by
  rintro place lane ⟨id, listed⟩
  simp [Pool.new] at listed

/-- Homes persist where lanes come to concern only objects that are pinned to them. -/
theorem Homed.of_concerns (homed : Homed h p) (same : RoutesAs p p')
    (each : ∀ place lane', p'.lanes[place]? = some lane' → ∀ object, 0 < object →
      lane'.Concerns h object →
      (∃ lane, p.lanes[place]? = some lane ∧ lane.Concerns h object) ∨ p.Pinned object place) :
    Homed h p' := by
  rintro place lane' ⟨id, listed⟩ there object pos concerns
  rw [same.roster] at listed
  have pinned : p.Pinned object place := by
    rcases each place lane' there object pos concerns with ⟨lane, at_, before⟩ | pinned
    · exact homed place lane ⟨id, listed⟩ at_ object pos before
    · exact pinned
  obtain ⟨home, route, housed⟩ := pinned
  exact ⟨home, by rw [same.routes, route], by rw [same.roster, housed]⟩

theorem Homed.of_evolves {outer : Influence α γ} (homed : Homed h p) (same : RoutesAs p p')
    (evolves : Evolves h outer p p') (closed : ∀ table table', ¬ outer.edits table table')
    (quiet : h.Inert .tick) (inert : ∀ request, outer.sends request → h.Inert (.request request)) :
    Homed h p' := by
  refine homed.of_concerns same ?_
  intro place lane' there object pos concerns
  obtain ⟨first, events, born, -, moves⟩ := evolves.origin there
  obtain before | ⟨request, sent, binds⟩ := moves.concerns closed (quiet object pos) concerns
  · obtain at_ | ⟨-, id, tick, rfl⟩ := born
    · exact .inl ⟨first, at_, before⟩
    · exact absurd before (Lane.new_concerns _ _ _)
  · exact absurd binds (inert request sent object pos)

/-! ### Routing -/

/-- Routing with affinity pins objects, and moves none. -/
theorem Homed.of_same (homed : Homed h p) (sound : Sound p)
    (same : ∃ routes generator, p' = { p with routes, generator }) (rerouted : Reroutes p [] p') :
    Homed h p' := by
  obtain ⟨routes, generator, rfl⟩ := same
  intro place lane live at_ object pos concerns
  exact rerouted.pinned sound (by simp) (by simp) (homed place lane live at_ object pos concerns)

theorem Homed.owner (homed : Homed h p) (sound : Sound p) (object : ObjectId) :
    Homed h (p.owner object).2 :=
  homed.of_same sound (p.owner_same object) (p.owner_reroutes object)

theorem Homed.grown {count : Nat} (homed : Homed h p) (sound : Sound p)
    (grown : Grown p count p') : Homed h p' := by
  rintro place lane ⟨id, listed⟩ at_ object pos concerns
  rw [grown.roster] at listed
  split at listed
  · obtain ⟨capacity, tick, there⟩ := grown.new (id - p.laneCount - 1).toNat (by omega)
    rw [← Option.some.inj listed, there] at at_
    rw [← Option.some.inj at_] at concerns
    exact absurd concerns (Lane.new_concerns _ _ _)
  · obtain ⟨lane', there, -⟩ := sound.lane listed
    have old := (List.getElem?_eq_some_iff.mp there).1
    rw [grown.old place old] at at_
    have pinned := homed place lane ⟨id, listed⟩ at_ object pos concerns
    exact (Reroute.grow grown).pinned sound (by simp) (by simp) pinned

/-! ### Requests sent to the homes of objects -/

theorem Homed.submit {request : α} {place : Nat} (homed : Homed h p) (wantsReply : Bool)
    (home : ∀ object, 0 < object → h.MayBind (.request request) object → p.Pinned object place) :
    Homed h (p.submit place request wantsReply).2 := by
  have admits := p.submit_admits place request wantsReply
  have touches := p.deliver_touches place (.request request) wantsReply
  rw [← submit_snd] at touches
  refine homed.of_concerns admits.routes ?_
  intro k lane' there object pos concerns
  by_cases here : k = place
  · subst here
    cases at_ : p.lanes[k]? with
    | none =>
      rw [(admits.absent at_).1] at there
      cases there
    | some lane =>
      obtain ⟨envelopes, mailbox, intake, requests, there', -⟩ := admits.lane at_
      obtain rfl := Option.some.inj (there.symm.trans there')
      obtain held | ⟨e, waits, binds⟩ := concerns
      · exact .inl ⟨lane, rfl, .inl held⟩
      · rw [intake.eq] at waits
        rcases List.mem_append.mp waits with before | new
        · exact .inl ⟨lane, rfl, .inr ⟨e, before, binds⟩⟩
        · obtain ⟨_, rfl, is⟩ := requests e new
          exact .inr (home object pos (is ▸ binds))
  · rw [touches.lanes k here] at there
    exact .inl ⟨lane', there, concerns⟩

theorem Homed.submitAll {request : α} (wantsReply : Bool)
    {targets : List (ObjectId × Except Error Nat)} (homed : Homed h p)
    (homes : ∀ target place, (target, .ok place) ∈ targets → ∀ object, 0 < object →
      h.MayBind (.request request) object → p.Pinned object place) :
    Homed h (submitAll request wantsReply targets p).2 := by
  induction targets generalizing p with
  | nil => exact homed
  | cons entry rest ih =>
    obtain ⟨target, found⟩ := entry
    cases found with
    | error cause => exact ih homed fun t k mem => homes t k (List.mem_cons_of_mem _ mem)
    | ok place =>
      have same := (p.submit_admits place request wantsReply).routes
      refine ih (homed.submit wantsReply (homes target place (List.mem_cons_self ..))) ?_
      intro t k mem object pos binds
      obtain ⟨id, route, listed⟩ := homes t k (List.mem_cons_of_mem _ mem) object pos binds
      exact ⟨id, by rw [same.routes, route], by rw [same.roster, listed]⟩

/-- A request that binds no object but those for which it is sent reaches their homes. -/
theorem Homed.sendEach {request : α} {objects : List ObjectId} (homed : Homed h p)
    (sound : Sound p) (wantsReply : Bool)
    (own : ∀ object ∈ objects, ∀ other, 0 < other → h.MayBind (.request request) other →
      other = object) :
    Homed h (p.sendEach request objects wantsReply).2 := by
  unfold Pool.sendEach
  split
  · exact homed
  · split
    · exact homed
    · have routed : Homed h (p.targets objects).2 :=
        homed.of_same sound (targets_same objects p) (targets_reroutes objects p)
      refine routed.submitAll wantsReply ?_
      intro target place mem object pos binds
      obtain rfl := own target (mem_of_mem_targets mem) object pos binds
      rcases sound.targets_pin pos mem with none | ⟨place', ok, pinned⟩
      · cases none
      · exact Except.ok.inj ok ▸ pinned

/-! ### The pool's own calls on objects -/

theorem Homed.setTable {place : Nat} {table : Table γ} (homed : Homed h p)
    (bound : ∀ object, 0 < object → table.get? object ≠ none →
      (p.tableAt place).get? object ≠ none ∨ p.Pinned object place) :
    Homed h (p.setTable place table) := by
  refine homed.of_concerns (.updateLane p place _) ?_
  intro k lane' there object pos concerns
  by_cases here : place = k
  · subst here
    cases at_ : p.lanes[place]? with
    | none => simp [Pool.setTable, lane_updateLane, at_] at there
    | some lane =>
      rw [Pool.setTable, lane_updateLane_self at_] at there
      obtain rfl := Option.some.inj there
      obtain held | waits := concerns
      · rcases bound object pos held with before | pinned
        · exact .inl ⟨lane, rfl, .inl (by simpa [tableAt, at_] using before)⟩
        · exact .inr pinned
      · exact .inl ⟨lane, rfl, .inr waits⟩
  · rw [Pool.setTable, lane_updateLane_ne p here] at there
    exact .inl ⟨lane', there, concerns⟩

/-- The owner of an object is found only for positive ids, and the object is pinned to it. -/
theorem Sound.owner_pins (sound : Sound p) {object : ObjectId} {place : Nat}
    (found : (p.owner object).1 = .ok place) :
    0 < object ∧ Pinned (p.owner object).2 object place := by
  have pos : 0 < object := by
    by_cases negative : object ≤ 0
    · simp [Pool.owner, negative] at found
    · exact Int.not_le.mp negative
  rw [p.owner_of_pos pos] at found ⊢
  rcases sound.target_pins pos with ⟨-, none⟩ | ⟨place', ok, pinned⟩
  · simp [none] at found
  · rw [ok] at found
    exact ⟨pos, Except.ok.inj found ▸ pinned⟩

theorem Homed.setObject (homed : Homed h p) (sound : Sound p) (object : ObjectId) (value : γ) :
    Homed h (p.setObject object value).2 := by
  have owned := homed.owner sound object
  unfold Pool.setObject
  dsimp only
  split
  · exact owned
  · next place found =>
    obtain ⟨pos, pinned⟩ := sound.owner_pins found
    split
    · exact owned
    · next table bound =>
      refine owned.setTable ?_
      intro other _ held
      have negative : ¬ object ≤ 0 := Int.not_le.mpr pos
      simp only [Table.bind, negative, if_false, Except.ok.injEq] at bound
      rw [← bound, OrderedMap.get?_insert] at held
      by_cases same : object = other
      · exact .inr (same ▸ pinned)
      · rw [if_neg same] at held
        exact .inl held

/-- On a live lane a message waits that may bind the object. -/
def Awaited (h : Handler α β γ σ) (p : Pool α β γ σ) (object : ObjectId) : Prop :=
  ∃ place lane, p.Live place ∧ p.lanes[place]? = some lane ∧
    ∃ e ∈ lane.mailbox.buffer, h.MayBind e.payload object

/-- A removal that goes through leaves the object unpinned and on no live lane's table. -/
theorem removeObject_cases (p : Pool α β γ σ) (object : ObjectId) :
    (∃ cause, (p.owner object).1 = .error cause ∧
      p.removeObject object = (.error cause, (p.owner object).2)) ∨
    ∃ place, (p.owner object).1 = .ok place ∧ (0 < object →
      (p.removeObject object).2 = { (p.owner object).2.setTable place
        (((p.owner object).2.tableAt place).erase object) with
          routes := (p.owner object).2.routes.erase object }) := by
  cases found : (p.owner object).1 with
  | error cause => exact .inl ⟨cause, rfl, by simp [removeObject, found]⟩
  | ok place =>
    refine .inr ⟨place, rfl, ?_⟩
    intro pos
    have negative : ¬ object ≤ 0 := Int.not_le.mpr pos
    simp only [removeObject, found, Table.unbind, negative, if_false]
    rfl

theorem owner_lanes (p : Pool α β γ σ) (object : ObjectId) :
    (p.owner object).2.lanes = p.lanes ∧ (p.owner object).2.roster = p.roster := by
  obtain ⟨routes, generator, same⟩ := p.owner_same object
  rw [same]
  exact ⟨rfl, rfl⟩

theorem lane_setTable (p : Pool α β γ σ) (place : Nat) (table : Table γ) {k : Nat}
    {lane' : Lane α β γ} :
    (p.setTable place table).lanes[k]? = some lane' ↔
      ∃ lane, p.lanes[k]? = some lane ∧
        lane' = { lane with table := if place = k then table else lane.table } := by
  rw [setTable, lane_updateLane, Option.map_eq_some_iff]
  by_cases here : place = k <;> simp [here, eq_comm]

/-- A removal keeps homes unless it overtakes a message that may bind the object. -/
theorem Homed.removeObject_iff (homed : Homed h p) (sound : Sound p) (object : ObjectId) :
    Homed h (p.removeObject object).2 ↔ ¬ (0 < object ∧ p.Awaited h object) := by
  have owned := homed.owner sound object
  obtain ⟨lanes, roster⟩ := p.owner_lanes object
  rcases p.removeObject_cases object with ⟨cause, refused, eq⟩ | ⟨place, found, removed⟩
  · -- without an owner nothing is removed, and no lane is live
    rw [eq]
    refine iff_of_true owned ?_
    rintro ⟨pos, k, lane, ⟨id, listed⟩, -⟩
    have range := (sound.live id).mp ⟨k, listed⟩
    rw [p.owner_of_pos pos] at refused
    rcases sound.target_pins pos with ⟨empty, -⟩ | ⟨place, ok, -⟩
    · omega
    · rw [ok] at refused
      cases refused
  · obtain ⟨pos, pinned⟩ := sound.owner_pins found
    rw [removed pos]
    constructor
    · rintro after ⟨-, k, lane, ⟨id, listed⟩, at_, e, waits, binds⟩
      have there := (lane_setTable (p.owner object).2 place
        (((p.owner object).2.tableAt place).erase object)).mpr ⟨lane, lanes ▸ at_, rfl⟩
      obtain ⟨home, route, -⟩ := after k _ ⟨id, roster ▸ listed⟩ there object pos
        (.inr ⟨e, waits, binds⟩)
      simp [OrderedMap.get?_erase] at route
    · rintro settled k lane' ⟨id, listed⟩ there other otherPos concerns
      obtain ⟨lane, at_, rfl⟩ := (lane_setTable _ _ _).mp there
      by_cases same : object = other
      · subst same
        refine absurd ?_ settled
        obtain held | ⟨e, waits, binds⟩ := concerns
        · by_cases here : place = k
          · simp [here, OrderedMap.get?_erase] at held
          · simp only [here, if_false] at held
            have home := owned k lane ⟨id, listed⟩ at_ object pos (.inl held)
            exact absurd (pinned.unique home) here
        · exact ⟨pos, k, lane, ⟨id, roster ▸ listed⟩, lanes ▸ at_, e, waits, binds⟩
      · have before : lane.Concerns h other := by
          obtain held | waits := concerns
          · by_cases here : place = k
            · subst here
              simp only [if_true, OrderedMap.get?_erase, same, if_false, tableAt, at_] at held
              exact .inl held
            · simp only [here, if_false] at held
              exact .inl held
          · exact .inr waits
        obtain ⟨home, route, housed⟩ := owned k lane ⟨id, listed⟩ at_ other otherPos before
        exact ⟨home, by simp [OrderedMap.get?_erase, same, route], housed⟩

/-- A live lane that holds an object holds its only copy, and routing leads to it. -/
theorem Homed.only_copy (homed : Homed h p) (sound : Sound p) {object : ObjectId} {value : γ}
    {place : Nat} {lane : Lane α β γ} (pos : 0 < object) (live : p.Live place)
    (at_ : p.lanes[place]? = some lane) (holds : lane.table.get? object = some value) :
    (∀ place' lane', p.Live place' → p.lanes[place']? = some lane' →
      lane'.table.get? object ≠ none → place' = place) ∧
    p.target object true = (.ok place, p) ∧ p.getObject object = (.ok value, p) := by
  have pinned := homed place lane live at_ object pos (.inl (by simp [holds]))
  have routed := pinned.target sound pos
  refine ⟨?_, routed, ?_⟩
  · intro place' lane' live' there held
    exact (homed place' lane' live' there object pos (.inl held)).unique pinned
  · have negative : ¬ object ≤ 0 := Int.not_le.mpr pos
    simp [getObject, p.owner_of_pos pos, routed, Except.bind, tableAt, at_, Table.lookup, negative,
      holds]

end Pool

namespace RunningPool
variable {α β γ σ : Type} {h : Handler α β γ σ}

/-- A request sent for objects binds no other object. What comes to lanes past the routing binds
nothing, and nobody changes a table behind the pool's back. -/
def Step.Local (h : Handler α β γ σ) : Step α γ σ → Prop
  | .sendEach request objects _ => ∀ object ∈ objects, ∀ other, 0 < other →
    h.MayBind (.request request) other → other = object
  | .sendTo _ request _ | .cast request | .submit _ request _ => h.Inert (.request request)
  | .edit _ _ => False
  | _ => True

/-- The step removes an object while a message waits that may bind it again. -/
def Overtakes (h : Handler α β γ σ) (p : Pool α β γ σ) : Step α γ σ → Prop
  | .removeObject object => 0 < object ∧ p.Awaited h object
  | _ => False

theorem apply_homed_iff {s : RunningPool α β γ σ} {step : Step α γ σ} (ticks : h.Inert .tick)
    (forwards : ∀ request, h.Forwards request → h.Inert (.request request))
    (sound : s.pool.Sound) (homed : s.pool.Homed h) (within : step.Local h) :
    (s.apply h step).pool.Homed h ↔ ¬ Overtakes h s.pool step := by
  let outer : Influence α γ :=
    ⟨fun _ _ => False, fun request => h.Inert (.request request), True, True⟩
  have plain (aside : step.isPlain = true) (allowed : step.Within outer) :
      (s.apply h step).pool.Homed h :=
    homed.of_evolves (s.apply_routes aside) (s.apply_evolves_within forwards allowed)
      (fun _ _ => id) ticks fun _ => id
  cases step with
  | grow count tick =>
    refine iff_of_true ?_ id
    obtain ⟨cause, -, eq⟩ | ⟨-, -, grown⟩ := s.pool.grow_cases count tick
    · simpa [apply, perform, eq] using homed
    · exact homed.grown sound grown
  | target object affinity =>
    exact iff_of_true (homed.of_same sound (s.pool.target_same object affinity)
      (s.pool.target_reroutes object affinity)) id
  | sendEach request objects wantsReply =>
    exact iff_of_true (homed.sendEach sound wantsReply within) id
  | getObject object => exact iff_of_true (homed.owner sound object) id
  | setObject object value => exact iff_of_true (homed.setObject sound object value) id
  | removeObject object => exact homed.removeObject_iff sound object
  | quit =>
    refine iff_of_true ?_ id
    rintro place lane ⟨id, listed⟩
    simp [apply, s.pool.beginQuit_routes.roster, Pool.emptied, Pool.note] at listed
  | edit place change => exact within.elim
  | sendTo lane request wantsReply => exact iff_of_true (plain rfl within) id
  | cast request => exact iff_of_true (plain rfl within) id
  | submit place request wantsReply => exact iff_of_true (plain rfl within) id
  | _ => exact iff_of_true (plain rfl trivial) id

theorem run_homed_iff (ticks : h.Inert .tick)
    (forwards : ∀ request, h.Forwards request → h.Inert (.request request))
    {s : RunningPool α β γ σ} {steps : List (Step α γ σ)} (sound : s.pool.Sound)
    (homed : s.pool.Homed h) (within : ∀ step ∈ steps, step.Local h) :
    (∀ earlier later, steps = earlier ++ later → (run h earlier s).pool.Homed h) ↔
      ∀ visit ∈ visits h steps s, ¬ Overtakes h visit.1 visit.2 := by
  induction steps generalizing s with
  | nil =>
    refine iff_of_true ?_ (by simp [visits])
    intro earlier later none
    rw [(List.append_eq_nil_iff.mp none.symm).1]
    exact homed
  | cons step steps ih =>
    obtain ⟨here, later⟩ := List.forall_mem_cons.mp within
    have kept := apply_homed_iff ticks forwards sound homed here
    have after := s.apply_sound (h := h) step sound
    rw [visits, List.forall_mem_cons]
    constructor
    · intro all
      have next : (s.apply h step).pool.Homed h := all [step] steps rfl
      refine ⟨kept.mp next, (ih after next later).mp ?_⟩
      rintro earlier rest rfl
      exact all (step :: earlier) rest rfl
    · rintro ⟨first, others⟩ earlier rest split
      cases earlier with
      | nil => exact homed
      | cons step' earlier =>
        obtain ⟨rfl, rfl⟩ := List.cons.inj split
        exact (ih after (kept.mpr first) later).mpr others earlier rest rfl

/-- Objects keep their homes exactly as long as no removal overtakes a message that may bind the
object again. Until then an object on a live lane has no other copy, and routing with affinity
leads to it. -/
theorem homed_iff_never_overtaken (ticks : h.Inert .tick)
    (forwards : ∀ request, h.Forwards request → h.Inert (.request request)) (config : PoolConfig)
    (generator : Generator) (memory : σ) (steps : List (Step α γ σ))
    (within : ∀ step ∈ steps, step.Local h) :
    let start : RunningPool α β γ σ := start config generator memory
    ((∀ earlier later, steps = earlier ++ later → (run h earlier start).pool.Homed h) ↔
      ∀ visit ∈ visits h steps start, ¬ Overtakes h visit.1 visit.2) ∧
    ∀ earlier later, steps = earlier ++ later →
      (∀ visit ∈ visits h earlier start, ¬ Overtakes h visit.1 visit.2) →
      let p := (run h earlier start).pool
      ∀ object value place lane, 0 < object → p.Live place → p.lanes[place]? = some lane →
        lane.table.get? object = some value →
        (∀ place' lane', p.Live place' → p.lanes[place']? = some lane' →
          lane'.table.get? object ≠ none → place' = place) ∧
        p.target object true = (.ok place, p) ∧ p.getObject object = (.ok value, p) := by
  intro start
  have sound : start.pool.Sound := .new config generator memory
  have homed : start.pool.Homed h := .new config generator memory
  refine ⟨run_homed_iff ticks forwards sound homed within, ?_⟩
  rintro earlier later rfl never p object value place lane pos live at_ holds
  have kept : p.Homed h :=
    (run_homed_iff ticks forwards sound homed
      fun step mem => within step (List.mem_append_left _ mem)).mpr never earlier [] (by simp)
  exact kept.only_copy (run_sound sound) pos live at_ holds

/-- Binds the object that a request names. -/
def binder : Handler (ObjectId × Nat) Unit Nat Unit where
  process _ _ request table memory := .done (.returned (), table.insert request.1 request.2, memory)

theorem binder_binds {object : ObjectId} {value : Nat} {other : ObjectId}
    (binds : binder.MayBind (.request (object, value)) other) : other = object := by
  obtain ⟨id, table, outcome, table', handled, unbound, bound⟩ := binds
  cases handled with
  | request yields =>
    cases yields with
    | done =>
      rw [OrderedMap.get?_insert] at bound
      by_cases same : object = other
      · exact same.symm
      · rw [if_neg same] at bound
        exact absurd unbound bound

theorem binder_ticks : binder.Inert .tick := by
  rintro object - ⟨id, table, outcome, table', handled, unbound, bound⟩
  cases handled with
  | tick => exact bound unbound

theorem binder_forwards (request : ObjectId × Nat) : ¬ binder.Forwards request := by
  rintro ⟨id, now, payload, table, memory, forward, asks, -⟩
  cases asks

/-- The object is removed while a request for it waits; then it is bound on another lane. -/
def overtakingRun : List (Step (ObjectId × Nat) Nat Unit) :=
  [.grow 1 none, .sendEach (1, 7) [1] false, .removeObject 1, .grow 1 none, .setObject 1 1,
    .consume 0 0, .consume 0 0]

/-- The request is handled on the lane that was the object's home before, and binds it there. -/
theorem overtakingRun_leaves_two_copies :
    binder.Inert .tick ∧ (∀ request, ¬ binder.Forwards request) ∧
    (∀ step ∈ overtakingRun, step.Local binder) ∧
    (run binder overtakingRun (start .standard (.seeded 0) ())).pool.roster.get? 1 = some 0 ∧
    (run binder overtakingRun (start .standard (.seeded 0) ())).pool.roster.get? 2 = some 1 ∧
    ((run binder overtakingRun (start .standard (.seeded 0) ())).pool.tableAt 0).get? 1 = some 7 ∧
    ((run binder overtakingRun (start .standard (.seeded 0) ())).pool.tableAt 1).get? 1 =
      some 1 := by
  refine ⟨binder_ticks, binder_forwards, ?_, ?_⟩
  · have sent (other : ObjectId) (binds : binder.MayBind (.request (1, 7)) other) : other = 1 :=
      binder_binds binds
    simpa [overtakingRun, Step.Local] using fun other _ binds => sent other binds
  · decide +kernel

/-- The request is handled before the object is removed. -/
def orderlyRun : List (Step (ObjectId × Nat) Nat Unit) :=
  [.grow 1 none, .sendEach (1, 7) [1] false, .consume 0 0, .consume 0 0, .grow 1 none,
    .removeObject 1, .setObject 1 1]

theorem orderlyRun_never_overtakes (visit) (visited : visit ∈
    visits binder orderlyRun (start .standard (.seeded 0) ())) :
    ¬ Overtakes binder visit.1 visit.2 := by
  simp only [orderlyRun, visits, List.mem_cons, List.not_mem_nil, or_false] at visited
  rcases visited with rfl | rfl | rfl | rfl | rfl | rfl | rfl
  case inr.inr.inr.inr.inr.inl =>
    -- by then the buffers of all lanes are empty
    rintro ⟨-, place, lane, -, at_, e, waits, -⟩
    let p := (run binder (orderlyRun.take 5) (start .standard (.seeded 0) ())).pool
    have empty : ∀ lane ∈ p.lanes, lane.mailbox.buffer.isEmpty = true := by decide +kernel
    have none := empty lane (List.mem_of_getElem? at_)
    rw [List.isEmpty_iff] at none
    simp [none] at waits
  all_goals exact id

theorem orderlyRun_moves_the_home :
    (∀ step ∈ orderlyRun, step.Local binder) ∧
    (run binder orderlyRun (start .standard (.seeded 0) ())).pool.Homed binder ∧
    ((run binder orderlyRun (start .standard (.seeded 0) ())).pool.target 1 true).1.toOption =
      some 1 := by
  have within : ∀ step ∈ orderlyRun, step.Local binder := by
    have sent (other : ObjectId) (binds : binder.MayBind (.request (1, 7)) other) : other = 1 :=
      binder_binds binds
    simpa [orderlyRun, Step.Local] using fun other _ binds => sent other binds
  have homed := (homed_iff_never_overtaken binder_ticks
    (fun request forwarded => absurd forwarded (binder_forwards request)) .standard (.seeded 0) ()
    orderlyRun within).1.mpr orderlyRun_never_overtakes orderlyRun [] (by simp)
  exact ⟨within, homed, by decide +kernel⟩

end RunningPool
end Lanes
