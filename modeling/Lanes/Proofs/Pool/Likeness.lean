import Lanes.Proofs.Pool.Calls
import Lanes.Proofs.Pool.Stops

/-!
# Lanes alike

A lane of one pool may be like a lane of another: the same state, the same events, and live under
the same ids, wherever each of them stands. If both pools do the same to these lanes, they stay
alike, and nothing that a pool does to its other lanes makes a difference to them. A call of the
handler counts as the same if the handler does not make it depend on what it remembers, nor on the
answers to what it asks for.
-/
namespace Lanes

/-! ### Calls that do not listen -/

namespace Call
variable {ask answer result told world : Type}

/-- What a call asks for in a world that answers. -/
def asked (perform : ask → world → answer × world) : Call ask answer result → world → List ask
  | done _, _ => []
  | .ask question resume, w =>
    question :: (resume (perform question w).1).asked perform (perform question w).2

theorem run_snd (perform : ask → world → answer × world) (call : Call ask answer result)
    (w : world) :
    (call.run perform w).2 =
      (call.asked perform w).foldl (fun w question => (perform question w).2) w := by
  induction call generalizing w with
  | done => rfl
  | ask question resume ih => exact ih _ _

/-- Whatever it is answered, the call asks for the same and comes to the same result, as far as it
is looked at. -/
inductive Recites (look : result → told) : Call ask answer result → List ask → told → Prop
  | done (value : result) : Recites look (.done value) [] (look value)
  | ask {question : ask} {resume : answer → Call ask answer result} {asks : List ask}
      {value : told} (each : ∀ reply, Recites look (resume reply) asks value) :
      Recites look (.ask question resume) (question :: asks) value

theorem Recites.runs {look : result → told} {call : Call ask answer result} {asks : List ask}
    {value : told} (recites : call.Recites look asks value)
    (perform : ask → world → answer × world) (w : world) :
    call.asked perform w = asks ∧ look (call.run perform w).1 = value := by
  induction recites generalizing w with
  | done value => exact ⟨rfl, rfl⟩
  | ask each ih =>
    obtain ⟨asks, value⟩ := ih _ _
    exact ⟨congrArg _ asks, value⟩

end Call

/-- The handler's calls for a lane depend on the moment, the request and the lane's table. What it
remembers and what it is answered may change what it remembers, and nothing else. -/
structure Handler.Secluded {α β γ σ : Type} (h : Handler α β γ σ) (id : LaneId) : Prop where
  process : ∀ now request table, ∃ asks outcome table', ∀ memory,
    (h.process id now request table memory).Recites (fun result => (result.1, result.2.1)) asks
      (outcome, table')
  onTick : ∀ now table, ∃ outcome table', ∀ memory, ∃ memory',
    h.onTick id now table memory = (outcome, table', memory')
  onQuit : ∀ now, ∃ outcome, ∀ memory, (h.onQuit id now memory).1 = outcome

/-- The table with an object bound, if the table binds it. -/
def Table.binding {γ : Type} (object : ObjectId) (value : γ) (t : Table γ) : Table γ :=
  match t.bind object value with
  | .ok table => table
  | .error _ => t

/-- The table with an object unbound, if the table unbinds it. -/
def Table.unbinding {γ : Type} (object : ObjectId) (t : Table γ) : Table γ :=
  match t.unbind object with
  | .ok (_, table) => table
  | .error _ => t

namespace Pool
variable {α β γ σ : Type} {h : Handler α β γ σ} {p p' q r : Pool α β γ σ} {k j i : Nat}
  {lane : Lane α β γ}

/-- The lane at one place of a pool is like the lane at a place of another. -/
structure Alike (p : Pool α β γ σ) (k : Nat) (q : Pool α β γ σ) (j : Nat) : Prop where
  lane : p.lanes[k]? = q.lanes[j]?
  events : p.laneEvents k = q.laneEvents j
  live : ∀ id : LaneId, p.roster.get? id = some k ↔ q.roster.get? id = some j

/-- What is done to another lane makes no difference. -/
theorem Touches.alike {place : Nat} (touches : Touches place p p') (apart : k ≠ place) :
    Alike p k p' k where
  lane := (touches.lanes k apart).symm
  events := (touches.laneEvents k apart).symm
  live id := by rw [touches.routes.roster]

namespace Alike

theorem refl (p : Pool α β γ σ) (k : Nat) : Alike p k p k := ⟨rfl, rfl, fun _ => Iff.rfl⟩

theorem symm (alike : Alike p k q j) : Alike q j p k :=
  ⟨alike.lane.symm, alike.events.symm, fun id => (alike.live id).symm⟩

theorem trans (first : Alike p k q j) (second : Alike q j r i) : Alike p k r i :=
  ⟨first.lane.trans second.lane, first.events.trans second.events,
    fun id => (first.live id).trans (second.live id)⟩

theorem there (alike : Alike p k q j) (at_ : p.lanes[k]? = some lane) :
    q.lanes[j]? = some lane := alike.lane.symm.trans at_

theorem note (p : Pool α β γ σ) {event : PoolEvent α β} (aside : event.at? k = none) :
    Alike p k (p.note event) k :=
  ⟨rfl, by simp [aside], fun _ => Iff.rfl⟩

theorem of_eq (same : p' = p) (k : Nat) : Alike p k p' k := by
  rw [same]
  exact .refl p k

theorem of_same (same : ∃ routes generator, p' = { p with routes, generator }) (k : Nat) :
    Alike p k p' k := by
  obtain ⟨routes, generator, rfl⟩ := same
  exact ⟨rfl, rfl, fun _ => Iff.rfl⟩

/-- What the handler remembers makes no difference. -/
theorem remembers (alike : Alike p k q j) (memory memory' : σ) :
    Alike { p with memory } k { q with memory := memory' } j :=
  ⟨alike.lane, alike.events, alike.live⟩

theorem updateLane (alike : Alike p k q j) (f : Lane α β γ → Lane α β γ) :
    Alike (p.updateLane k f) k (q.updateLane j f) j where
  lane := by simp [lane_updateLane, alike.lane]
  events := alike.events
  live := alike.live

theorem noteMailbox (alike : Alike p k q j) (id : LaneId)
    (event : Mailbox.Event (LaneMessage α) (Option β)) :
    Alike (p.note (.mailbox k id event)) k (q.note (.mailbox j id event)) j where
  lane := alike.lane
  events := by simp [alike.events]
  live := alike.live

theorem noteTicker (alike : Alike p k q j) (id : LaneId) (event : Metronome.Event) :
    Alike (p.noteTicker k id event) k (q.noteTicker j id event) j where
  lane := alike.lane
  events := by simp [alike.events]
  live := alike.live

/-! ### Requests -/

theorem deliver (alike : Alike p k q j) (message : LaneMessage α) (wantsReply : Bool) :
    Alike (p.deliver k message wantsReply).2 k (q.deliver j message wantsReply).2 j := by
  unfold Pool.deliver
  rw [alike.lane]
  cases q.lanes[j]? with
  | none => exact alike
  | some lane =>
    dsimp only
    cases lane.mailbox.accept? message wantsReply with
    | error cause => exact alike
    | ok taken => exact (alike.updateLane _).noteMailbox lane.id _

/-- A lane that is there gives the same answer wherever it stands. -/
theorem deliver_fst (alike : Alike p k q j) (at_ : p.lanes[k]? = some lane)
    (message : LaneMessage α) (wantsReply : Bool) :
    (p.deliver k message wantsReply).1 = (q.deliver j message wantsReply).1 := by
  unfold Pool.deliver
  simp only [at_, alike.there at_]
  cases lane.mailbox.accept? message wantsReply <;> rfl

theorem setTable (alike : Alike p k q j) (change : Table γ → Table γ) :
    Alike (p.setTable k (change (p.tableAt k))) k (q.setTable j (change (q.tableAt j))) j := by
  have table : q.tableAt j = p.tableAt k := by simp only [tableAt, alike.lane]
  rw [table]
  exact alike.updateLane _

theorem retime (alike : Alike p k q j) (seconds : Binary64) :
    Alike (p.retime k seconds).2 k (q.retime j seconds).2 j := by
  unfold Pool.retime
  rw [alike.lane]
  cases q.lanes[j]? with
  | none => exact alike
  | some lane =>
    dsimp only
    cases lane.retime seconds with
    | error cause => exact alike
    | ok retimed => exact alike.updateLane _

/-! ### Tickers -/

theorem updateMetronome (alike : Alike p k q j) (f : Metronome → Metronome) :
    Alike (p.updateMetronome k f) k (q.updateMetronome j f) j := alike.updateLane _

theorem fire (alike : Alike p k q j) (lane : Lane α β γ) :
    Alike (p.fire k lane) k (q.fire j lane) j := by
  unfold Pool.fire
  dsimp only
  cases lane.beat.2.1 with
  | none => exact (alike.updateLane _).noteTicker lane.id _
  | some envelope =>
    exact ((alike.updateLane _).noteMailbox lane.id _).noteTicker lane.id _

theorem orphanIfAbandoned (alike : Alike p k q j) (id : LaneId) (dropped : Bool) :
    Alike (p.orphanIfAbandoned k id dropped) k (q.orphanIfAbandoned j id dropped) j := by
  cases dropped with
  | false => exact alike
  | true => exact (alike.updateLane _).noteMailbox id _

theorem announced (alike : Alike p k q j) (id : LaneId) (metronome : Metronome) :
    Alike (p.announced k id metronome) k (q.announced j id metronome) j := by
  unfold Pool.announced
  split
  · exact alike.noteTicker id _
  · exact alike

theorem tick (alike : Alike p k q j) (now : Moment) :
    Alike (p.tick now k) k (q.tick now j) j := by
  unfold Pool.tick
  rw [alike.lane]
  cases q.lanes[j]? with
  | none => exact alike
  | some lane =>
    dsimp only
    cases lane.metronome with
    | none => exact alike
    | some metronome =>
      dsimp only
      have fired := (alike.announced lane.id metronome).fire lane
      split
      · split
        · exact ((fired.updateMetronome _).noteTicker lane.id _).orphanIfAbandoned lane.id _
        · exact (fired.updateMetronome _).noteTicker lane.id _
      · exact alike

/-! ### Shutdown -/

theorem closeMailbox (alike : Alike p k q j) (lane : Lane α β γ) :
    Alike (p.closeMailbox k lane) k (q.closeMailbox j lane) j := by
  unfold Pool.closeMailbox
  cases lane.mailbox.close? with
  | error cause => exact alike
  | ok mailbox => exact (alike.updateLane _).noteMailbox lane.id _

end Alike

/-- The stops of two lanes have come equally far, and have left the lanes alike. -/
def StopAlike (first : LaneStop × Pool α β γ σ) (k : Nat) (second : LaneStop × Pool α β γ σ)
    (j : Nat) : Prop :=
  ∃ stage, first.1 = ⟨k, stage⟩ ∧ second.1 = ⟨j, stage⟩ ∧ Alike first.2 k second.2 j

theorem Alike.passTicker (alike : Alike p k q j) (stage : StopStage) :
    StopAlike (p.passTicker ⟨k, stage⟩) k (q.passTicker ⟨j, stage⟩) j := by
  unfold Pool.passTicker
  rw [alike.lane]
  cases stage with
  | ticker =>
    cases q.lanes[j]? with
    | none => exact ⟨_, rfl, rfl, alike⟩
    | some lane =>
      dsimp only
      cases lane.metronome with
      | none => exact ⟨_, rfl, rfl, alike.closeMailbox lane⟩
      | some metronome =>
        dsimp only
        split
        · split
          · exact ⟨_, rfl, rfl, (alike.noteTicker lane.id _).closeMailbox lane⟩
          · exact ⟨_, rfl, rfl, alike.closeMailbox lane⟩
        · exact ⟨_, rfl, rfl, alike⟩
  | _ => exact ⟨_, rfl, rfl, alike⟩

theorem Alike.passConsumer (alike : Alike p k q j) (stage : StopStage) :
    StopAlike (p.passConsumer ⟨k, stage⟩) k (q.passConsumer ⟨j, stage⟩) j := by
  have stopped {p q : Pool α β γ σ} (alike : Alike p k q j) (id : LaneId) :
      Alike (p.note (.stopped id)) k (q.note (.stopped id)) j :=
    ((Alike.note p rfl).symm.trans alike).trans (.note q rfl)
  unfold Pool.passConsumer
  rw [alike.lane]
  cases stage with
  | consumer =>
    cases q.lanes[j]? with
    | none => exact ⟨_, rfl, rfl, alike⟩
    | some lane =>
      dsimp only
      split
      · split
        · exact ⟨_, rfl, rfl, stopped (alike.noteMailbox lane.id _) lane.id⟩
        · exact ⟨_, rfl, rfl, stopped alike lane.id⟩
      · exact ⟨_, rfl, rfl, alike⟩
  | _ => exact ⟨_, rfl, rfl, alike⟩

theorem Alike.advanceStop (alike : Alike p k q j) (stage : StopStage) :
    StopAlike (p.advanceStop ⟨k, stage⟩) k (q.advanceStop ⟨j, stage⟩) j := by
  obtain ⟨stage', first, second, passed⟩ := alike.passTicker stage
  unfold Pool.advanceStop
  dsimp only
  rw [first, second]
  exact passed.passConsumer stage'

theorem Alike.beginStop (alike : Alike p k q j) :
    StopAlike (p.beginStop k) k (q.beginStop j) j := by
  unfold Pool.beginStop
  rw [alike.lane]
  cases q.lanes[j]? with
  | none => exact ⟨_, rfl, rfl, alike⟩
  | some lane =>
    dsimp only
    cases lane.metronome with
    | none => exact alike.advanceStop .ticker
    | some metronome =>
      dsimp only
      cases metronome.close? with
      | error cause => exact alike.advanceStop .ticker
      | ok closed =>
        exact ((alike.updateMetronome _).noteTicker lane.id _).advanceStop .ticker

theorem Alike.abortLane (alike : Alike p k q j) :
    Alike (p.abortLane k) k (q.abortLane j) j := by
  unfold Pool.abortLane
  rw [alike.lane]
  cases q.lanes[j]? with
  | none => exact alike
  | some lane =>
    dsimp only
    have silenced : Alike
        (if lane.tickerEnded = true then p else
          (p.updateMetronome k (·.abort)).noteTicker k lane.id .aborted) k
        (if lane.tickerEnded = true then q else
          (q.updateMetronome j (·.abort)).noteTicker j lane.id .aborted) j := by
      split
      · exact alike
      · exact (alike.updateMetronome _).noteTicker lane.id _
    split
    · exact silenced
    · exact (silenced.updateLane _).noteMailbox lane.id _

/-! ### One lane after the other -/

/-- How far the stops of the lane at a place have come. -/
def stagesAt (k : Nat) (stops : List LaneStop) : List StopStage :=
  (stops.filter (·.place = k)).map (·.stage)

theorem stagesAt_cons (k : Nat) (stop : LaneStop) (stops : List LaneStop) :
    stagesAt k (stop :: stops) =
      if stop.place = k then stop.stage :: stagesAt k stops else stagesAt k stops := by
  unfold stagesAt
  rw [List.filter_cons]
  split
  · next here => simp_all
  · next aside => simp_all

section Each
variable {ι : Type} {f : Pool α β γ σ → ι → LaneStop × Pool α β γ σ} {key : ι → Nat}

/-- What is done to other lanes only makes no difference to this one. -/
theorem forEach_alike_of_aside (touches : ∀ p x, Touches (key x) p (f p x).2)
    (places : ∀ p x, (f p x).1.place = key x) {list : List ι}
    (aside : ∀ x ∈ list, key x ≠ k) (p : Pool α β γ σ) :
    Alike p k (forEach f list p).2 k ∧ stagesAt k (forEach f list p).1 = [] := by
  induction list generalizing p with
  | nil => exact ⟨.refl p k, rfl⟩
  | cons x rest ih =>
    obtain ⟨here, later⟩ := List.forall_mem_cons.mp aside
    obtain ⟨others, none⟩ := ih later (f p x).2
    refine ⟨((touches p x).alike (Ne.symm here)).trans others, ?_⟩
    rw [forEach, stagesAt_cons, places, if_neg here, none]

/-- What is done to one lane after the other is done to this one once, if it is one of them. -/
theorem Alike.forEach (touches : ∀ p x, Touches (key x) p (f p x).2)
    (places : ∀ p x, (f p x).1.place = key x) {x : ι} {g : Pool α β γ σ → LaneStop × Pool α β γ σ}
    (each : ∀ {p}, Alike p k q j → StopAlike (f p x) k (g q) j) {list : List ι}
    (once : list.filter (key · = k) = [x]) (alike : Alike p k q j) :
    Alike (forEach f list p).2 k (g q).2 j ∧
      stagesAt k (forEach f list p).1 = [(g q).1.stage] := by
  induction list generalizing p with
  | nil => cases once
  | cons y rest ih =>
    by_cases here : key y = k
    · obtain ⟨rfl, later⟩ : y = x ∧ ∀ z ∈ rest, key z ≠ k := by
        simpa [List.filter_cons, here] using once
      obtain ⟨stage, first, second, done⟩ := each alike
      obtain ⟨others, none⟩ := forEach_alike_of_aside touches places later (f p y).2
      refine ⟨others.symm.trans done, ?_⟩
      rw [Pool.forEach, stagesAt_cons, places, if_pos here, none, first, second]
    · have later : rest.filter (key · = k) = [x] := by
        simpa [List.filter_cons, here] using once
      obtain ⟨others, stages⟩ :=
        ih later (((touches p y).alike (Ne.symm here)).symm.trans alike)
      refine ⟨others, ?_⟩
      rw [Pool.forEach, stagesAt_cons, places, if_neg here, stages]

end Each

theorem stagesAt_eq_nil_iff {stops : List LaneStop} :
    stagesAt k stops = [] ↔ ∀ stop ∈ stops, stop.place ≠ k := by
  simp [stagesAt]

theorem concludeQuit_alike (quitting : List LaneStop × Pool α β γ σ) (k : Nat) :
    Alike quitting.2 k (concludeQuit quitting).2 k := by
  unfold concludeQuit
  split
  · exact .note _ rfl
  · exact .refl _ k

/-- A call of quit without the lane goes on without making a difference to it. -/
theorem advanceQuit_alike_of_aside {stops : List LaneStop} (aside : stagesAt k stops = [])
    (p : Pool α β γ σ) :
    Alike p k (p.advanceQuit stops).2 k ∧ stagesAt k (p.advanceQuit stops).1 = [] := by
  unfold advanceQuit
  split
  · exact ⟨.refl p k, aside⟩
  · obtain ⟨others, none⟩ := forEach_alike_of_aside advanceStop_touches advanceStop_place
      (stagesAt_eq_nil_iff.mp aside) p
    rw [concludeQuit_fst]
    exact ⟨others.trans (concludeQuit_alike _ k), none⟩

/-- A call of quit takes the stop of a lane as far as it can go, whatever its other lanes do. -/
theorem Alike.advanceQuit {stops : List LaneStop} {stage : StopStage}
    (once : stagesAt k stops = [stage]) (alike : Alike p k q j) :
    Alike (p.advanceQuit stops).2 k (q.advanceStop ⟨j, stage⟩).2 j ∧
      stagesAt k (p.advanceQuit stops).1 = [(q.advanceStop ⟨j, stage⟩).1.stage] := by
  obtain ⟨stop, only, rfl⟩ := List.map_eq_singleton_iff.mp once
  have listed : stop ∈ stops.filter (·.place = k) := by
    rw [only]
    exact List.mem_singleton_self stop
  obtain ⟨mem, here⟩ : stop ∈ stops ∧ stop.place = k := by simpa using listed
  unfold Pool.advanceQuit
  split
  · next past =>
    have last : stop.stage = .finished := by simpa using List.all_eq_true.mp past stop mem
    rw [last] at once ⊢
    exact ⟨alike, once⟩
  · have each {p : Pool α β γ σ} (alike : Alike p k q j) :
        StopAlike (p.advanceStop stop) k (q.advanceStop ⟨j, stop.stage⟩) j := by
      subst here
      exact alike.advanceStop stop.stage
    obtain ⟨others, stages⟩ := Alike.forEach (g := (·.advanceStop ⟨j, stop.stage⟩))
      advanceStop_touches advanceStop_place each only alike
    rw [concludeQuit_fst]
    exact ⟨(concludeQuit_alike _ k).symm.trans others, stages⟩

theorem filter_once {ι : Type} [DecidableEq ι] {list : List ι} {x : ι} (apart : list.Nodup)
    (mem : x ∈ list) : list.filter (· = x) = [x] := by
  rw [List.filter_eq, apart.count, if_pos mem, List.replicate_one]

/-- A lane that is live under one id stands in the roster once. -/
theorem filter_places {id : LaneId} (only : ∀ id', p.roster.get? id' = some k ↔ id' = id) :
    (p.roster.entries.map Prod.snd).filter (· = k) = [k] := by
  have mem : (id, k) ∈ p.roster.entries := OrderedMap.get?_eq_some_iff.mp ((only id).mpr rfl)
  have apart : p.roster.entries.Nodup := by
    refine p.roster.ascending.imp ?_
    rintro a b below rfl
    exact Int.lt_irrefl _ below
  have same : p.roster.entries.filter (·.2 = k) = p.roster.entries.filter (· = (id, k)) := by
    refine List.filter_congr fun entry listed => ?_
    have live := OrderedMap.get?_eq_some_iff.mpr listed
    rw [decide_eq_decide, Prod.ext_iff]
    constructor
    · intro here
      exact ⟨(only entry.1).mp (here ▸ live), here⟩
    · exact And.right
  calc (p.roster.entries.map Prod.snd).filter (· = k)
    _ = (p.roster.entries.filter (·.2 = k)).map Prod.snd := List.filter_map ..
    _ = (p.roster.entries.filter (· = (id, k))).map Prod.snd := by rw [same]
    _ = [k] := by rw [filter_once apart mem, List.map_singleton]

theorem Alike.emptied (alike : Alike p k q j) : Alike p.emptied k q.emptied j where
  lane := alike.lane
  events := by
    have quiet (p : Pool α β γ σ) (k : Nat) : p.emptied.laneEvents k = p.laneEvents k := by
      simp only [Pool.emptied, laneEvents_note]
      simp [PoolEvent.at?, laneEvents]
    rw [quiet, quiet, alike.events]
  live id := by simp [Pool.emptied, Pool.note]

/-- Quit makes no difference to a lane that is no longer live. -/
theorem beginQuit_alike_of_dead (dead : ¬ p.Live k) :
    Alike p k p.beginQuit.2 k ∧ stagesAt k p.beginQuit.1 = [] := by
  have emptied : Alike p k p.emptied k :=
    ⟨rfl, (Alike.refl p k).emptied.events ▸ by simp [Pool.emptied, PoolEvent.at?, laneEvents, note],
      fun id => ⟨fun listed => absurd ⟨id, listed⟩ dead, by simp [Pool.emptied, Pool.note]⟩⟩
  have aside : ∀ place ∈ p.roster.entries.map Prod.snd, place ≠ k := by
    rintro place listed rfl
    obtain ⟨entry, mem, rfl⟩ := List.mem_map.mp listed
    exact dead ⟨entry.1, OrderedMap.get?_eq_some_iff.mpr mem⟩
  obtain ⟨others, none⟩ :=
    forEach_alike_of_aside beginStop_touches beginStop_place aside p.emptied
  rw [beginQuit_eq, concludeQuit_fst]
  exact ⟨(emptied.trans others).trans (concludeQuit_alike _ k), none⟩

/-- Quit begins to stop a live lane as if it were the only one. -/
theorem Alike.beginQuit {id : LaneId} (alike : Alike p k q j)
    (only : ∀ id', p.roster.get? id' = some k ↔ id' = id) :
    Alike p.beginQuit.2 k (q.emptied.beginStop j).2 j ∧
      stagesAt k p.beginQuit.1 = [(q.emptied.beginStop j).1.stage] := by
  obtain ⟨others, stages⟩ := Alike.forEach (g := (·.beginStop j)) beginStop_touches
    beginStop_place (fun alike => alike.beginStop) (filter_places only) alike.emptied
  rw [beginQuit_eq, concludeQuit_fst]
  exact ⟨(concludeQuit_alike _ k).symm.trans others, stages⟩

theorem abort_eq (p : Pool α β γ σ) : p.abort =
    (forEach (fun p place => (⟨place, .finished⟩, p.abortLane place))
      (List.range p.lanes.length) p).2 := by
  have folded (places : List Nat) (p : Pool α β γ σ) : places.foldl Pool.abortLane p =
      (forEach (fun p place => (⟨place, .finished⟩, p.abortLane place)) places p).2 := by
    induction places generalizing p with
    | nil => rfl
    | cons place rest ih => exact ih _
  exact folded _ p

/-- The end of the host ends a lane as if it were the only one. -/
theorem Alike.abort (alike : Alike p k q j) (at_ : p.lanes[k]? = some lane) :
    Alike p.abort k (q.abortLane j) j := by
  have below : k < p.lanes.length := (List.getElem?_eq_some_iff.mp at_).1
  have once := filter_once List.nodup_range (List.mem_range.mpr below)
  have each {p : Pool α β γ σ} (alike : Alike p k q j) :
      StopAlike (⟨k, .finished⟩, p.abortLane k) k (⟨j, .finished⟩, q.abortLane j) j :=
    ⟨.finished, rfl, rfl, alike.abortLane⟩
  rw [abort_eq]
  exact (Alike.forEach (f := fun p place => (⟨place, .finished⟩, p.abortLane place))
    (g := fun q => (⟨j, .finished⟩, q.abortLane j)) abortLane_touches (fun _ _ => rfl)
    each once alike).1

/-! ### Growth -/

/-- Growth makes no difference to a lane that is there. -/
theorem Sound.grow_alike (sound : p.Sound) (at_ : p.lanes[k]? = some lane) (count : Nat)
    (tick : Option Duration) : Alike p k (p.grow count tick).2 k := by
  have below : k < p.lanes.length := (List.getElem?_eq_some_iff.mp at_).1
  obtain ⟨cause, -, eq⟩ | ⟨-, -, grown⟩ := p.grow_cases count tick
  · rw [eq]
    exact .refl p k
  · refine ⟨(grown.old k below).symm, (p.grow_laneEvents count tick k).symm, fun id => ?_⟩
    rw [grown.roster]
    split
    · next new =>
      constructor
      · intro listed
        have range := (sound.live id).mp ⟨k, listed⟩
        omega
      · intro same
        have beyond := Option.some.inj same
        omega
    · exact Iff.rfl

/-! ### Objects -/

/-- A table that is set to what it is makes no difference to any lane. -/
theorem setTable_tableAt_alike (p : Pool α β γ σ) (place k : Nat) :
    Alike (p.setTable place (p.tableAt place)) k p k where
  lane := by
    unfold setTable tableAt
    rw [lane_updateLane]
    split
    · next here =>
      subst here
      cases p.lanes[place]? <;> rfl
    · simp
  events := rfl
  live _ := Iff.rfl

/-- A change of the table of the lane that owns an object is one of the lane's own table, or makes
no difference. -/
theorem owner_alike (p : Pool α β γ σ) (object : ObjectId) (change : Table γ → Table γ)
    (missed : ∀ cause, (p.owner object).1 = .error cause → Alike (p.owner object).2 k q k)
    (found : ∀ place, (p.owner object).1 = .ok place → Alike
      ((p.owner object).2.setTable place (change ((p.owner object).2.tableAt place))) k q k) :
    Alike (if (p.owner object).1.toOption = some k then p.setTable k (change (p.tableAt k)) else p)
      k q k := by
  have owned : Alike p k (p.owner object).2 k := .of_same (p.owner_same object) k
  cases owner : (p.owner object).1 with
  | error cause => exact owned.trans (missed cause owner)
  | ok place =>
    by_cases here : place = k
    · subst here
      simp only [Except.toOption, if_true]
      exact (owned.setTable change).trans (found place owner)
    · have aside : ¬ some place = some k := by simpa using here
      simp only [Except.toOption, aside, if_false]
      exact (owned.trans ((Touches.updateLane _ _).alike (Ne.symm here))).trans
        (found place owner)

/-- Binding an object changes the table of the lane that owns it. -/
theorem setObject_alike (p : Pool α β γ σ) (object : ObjectId) (value : γ) (k : Nat) :
    Alike (if (p.owner object).1.toOption = some k then
        p.setTable k ((p.tableAt k).binding object value) else p) k
      (p.setObject object value).2 k := by
  refine owner_alike p object (Table.binding object value) ?_ ?_
  · intro cause owner
    simp only [setObject, owner]
    exact .refl _ k
  · intro place owner
    simp only [setObject, owner, Table.binding]
    cases ((p.owner object).2.tableAt place).bind object value with
    | error cause => exact setTable_tableAt_alike _ place k
    | ok table => exact .refl _ k

/-- Unbinding an object changes the table of the lane that owns it. -/
theorem removeObject_alike (p : Pool α β γ σ) (object : ObjectId) (k : Nat) :
    Alike (if (p.owner object).1.toOption = some k then
        p.setTable k ((p.tableAt k).unbinding object) else p) k
      (p.removeObject object).2 k := by
  refine owner_alike p object (Table.unbinding object) ?_ ?_
  · intro cause owner
    simp only [removeObject, owner]
    exact .refl _ k
  · intro place owner
    simp only [removeObject, owner, Table.unbinding]
    cases ((p.owner object).2.tableAt place).unbind object with
    | error cause => exact setTable_tableAt_alike _ place k
    | ok removed => exact .of_same ⟨_, _, rfl⟩ k

/-! ### Calls of the handler -/

theorem forward_alike_of_elsewhere {question : Forward α}
    (elsewhere : p.roster.get? question.lane ≠ some k) : Alike p k (forward question p).2 k := by
  unfold forward place?
  cases found : p.roster.get? question.lane with
  | none => exact .refl p k
  | some place =>
    have apart : k ≠ place := by
      rintro rfl
      exact elsewhere found
    exact (p.deliver_touches place _ false).alike apart

theorem Alike.forward (alike : Alike p k q j) (question : Forward α) :
    Alike (forward question p).2 k (forward question q).2 j := by
  by_cases here : p.roster.get? question.lane = some k
  · have there := (alike.live question.lane).mp here
    simp only [Pool.forward, place?, here, there]
    exact alike.deliver _ false
  · have elsewhere := mt (alike.live question.lane).mpr here
    exact ((forward_alike_of_elsewhere here).symm.trans alike).trans
      (forward_alike_of_elsewhere elsewhere)

theorem Alike.forwards (alike : Alike p k q j) (asks : List (Forward α)) :
    Alike (asks.foldl (fun p question => (Pool.forward question p).2) p) k
      (asks.foldl (fun q question => (Pool.forward question q).2) q) j := by
  induction asks generalizing p q with
  | nil => exact alike
  | cons question rest ih => exact ih (alike.forward question)

/-- What the handler asks for while it handles a message. -/
def questions (h : Handler α β γ σ) (now : Moment) (id : LaneId) (table : Table γ)
    (message : LaneMessage α) (p : Pool α β γ σ) : List (Forward α) :=
  match message with
  | .request request => (h.process id now request table p.memory).asked forward p
  | .tick => []

theorem handle_snd (h : Handler α β γ σ) (now : Moment) (id : LaneId) (table : Table γ)
    (message : LaneMessage α) (p : Pool α β γ σ) : (handle h now id table message p).2 =
      (questions h now id table message p).foldl (fun p question => (forward question p).2) p := by
  cases message with
  | request request => exact Call.run_snd forward (h.process id now request table p.memory) p
  | tick => rfl

/-- A secluded handler does the same for a lane in all pools. -/
theorem handle_same {id : LaneId} (secluded : h.Secluded id) (now : Moment) (table : Table γ)
    (message : LaneMessage α) (p q : Pool α β γ σ) :
    questions h now id table message p = questions h now id table message q ∧
      (handle h now id table message p).1.1 = (handle h now id table message q).1.1 ∧
      (handle h now id table message p).1.2.1 = (handle h now id table message q).1.2.1 := by
  cases message with
  | request request =>
    obtain ⟨asks, outcome, table', recites⟩ := secluded.process now request table
    obtain ⟨asked, result⟩ := (recites p.memory).runs forward p
    obtain ⟨asked', result'⟩ := (recites q.memory).runs forward q
    obtain ⟨outcome, table⟩ := Prod.ext_iff.mp (result.trans result'.symm)
    exact ⟨asked.trans asked'.symm, congrArg (Outcome.map some) outcome, table⟩
  | tick =>
    obtain ⟨outcome, table', told⟩ := secluded.onTick now table
    obtain ⟨memory, here⟩ := told p.memory
    obtain ⟨memory', there⟩ := told q.memory
    simp [handle, questions, here, there]

theorem Alike.dispatch (secluded : h.Secluded lane.id) (now : Moment)
    (envelope : Envelope (LaneMessage α)) (alike : Alike p k q j) :
    Alike (p.dispatch h now k lane envelope) k (q.dispatch h now j lane envelope) j := by
  let taken := p.updateLane k (·.take envelope.payload)
  let taken' := q.updateLane j (·.take envelope.payload)
  obtain ⟨asked, outcome, table⟩ :=
    handle_same secluded now lane.table envelope.payload taken taken'
  have handled : Alike (handle h now lane.id lane.table envelope.payload taken).2 k
      (handle h now lane.id lane.table envelope.payload taken').2 j := by
    rw [handle_snd, handle_snd, asked]
    exact (alike.updateLane _).forwards _
  unfold Pool.dispatch
  dsimp only
  rw [outcome, table]
  exact ((handled.remembers _ _).updateLane _).noteMailbox lane.id _

/-- The next step of a lane's consumer depends on nothing but the lane. -/
theorem Alike.consume (alike : Alike p k q j) (at_ : p.lanes[k]? = some lane)
    (secluded : h.Secluded lane.id) (now : Moment) :
    Alike (p.consume h now k) k (q.consume h now j) j := by
  unfold Pool.consume
  rw [at_, alike.there at_]
  dsimp only
  cases lane.mailbox.turn with
  | wait => exact alike
  | start => exact (alike.updateLane _).noteMailbox lane.id _
  | drain => exact (alike.updateLane _).noteMailbox lane.id _
  | dispatch envelope => exact alike.dispatch secluded now envelope
  | finish =>
    obtain ⟨outcome, told⟩ := secluded.onQuit now
    unfold Pool.finish enter
    dsimp only
    rw [told, told]
    exact (((alike.remembers _ _).noteMailbox lane.id _).updateLane _).noteMailbox lane.id _

end Pool
end Lanes
