import Lanes.Proofs.Pool.Shutdown

/-!
# The population of a pool

Lanes come into a pool by growth only, and none of them ever leaves the list of all lanes. A lane is
live until a call of quit takes it over, and the calls of quit keep the lanes that they took. When
the consumer of a lane has stopped, the lane is retired: it has handled all that it accepted and
said farewell once, and the handler is not called for it again.
-/
namespace Lanes

/-! ### Retired lanes -/

namespace Lane
variable {α β γ σ : Type} {h : Handler α β γ σ} {outer : Influence α γ} {lane : Lane α β γ}
  {events : List (LaneEvent α β)}

/-- The lane has handled all that it accepted, and has said farewell once. -/
structure Retired (events : List (LaneEvent α β)) : Prop where
  served : Mailbox.dispatches (LaneEvent.inMailbox events) =
    Mailbox.acceptances (LaneEvent.inMailbox events)
  farewell : ∃ outcome, Mailbox.farewells (LaneEvent.inMailbox events) = [outcome]

theorem Moves.retired {id : LaneId} {capacity : Nat} {tick : Option Duration}
    (m : Moves h outer (new id capacity tick) events lane)
    (stopped : lane.mailbox.phase = .stopped) : Retired events := by
  obtain ⟨work, outcome, rest, rfl, none, quiet⟩ := m.stopped rfl stopped
  have flow := m.mailbox.flow_of_up (by simp [stopped])
  have empty : lane.mailbox.buffer = [] := m.mailbox.stopped stopped fun _ => rfl
  have fresh : (new id capacity tick : Lane α β γ).mailbox.buffer = [] := rfl
  rw [fresh, List.nil_append, empty, List.append_nil] at flow
  exact ⟨flow.symm, outcome, by simp [none, quiet.farewells]⟩

end Lane

/-! ### Operations that add no lanes -/

namespace Pool
variable {α β γ σ : Type} {h : Handler α β γ σ} {p p' : Pool α β γ σ}

@[simp] theorem length_updateLane (p : Pool α β γ σ) (place : Nat)
    (f : Lane α β γ → Lane α β γ) : (p.updateLane place f).lanes.length = p.lanes.length :=
  List.length_modify ..

@[simp] theorem length_updateMetronome (p : Pool α β γ σ) (place : Nat)
    (f : Metronome → Metronome) : (p.updateMetronome place f).lanes.length = p.lanes.length :=
  length_updateLane ..

theorem Admits.length {sends : α → Prop} (admits : Admits sends p p') :
    p'.lanes.length = p.lanes.length := by
  have present (k : Nat) : k < p'.lanes.length ↔ k < p.lanes.length := by
    cases at_ : p.lanes[k]? with
    | none =>
      have gone := (admits.absent at_).1
      rw [List.getElem?_eq_none_iff] at at_ gone
      omega
    | some lane =>
      obtain ⟨envelopes, mailbox, -, -, there, -⟩ := admits.lane at_
      have after := (List.getElem?_eq_some_iff.mp there).1
      exact iff_of_true after (List.getElem?_eq_some_iff.mp at_).1
  have more := present p.lanes.length
  have fewer := present p'.lanes.length
  omega

theorem length_consume (h : Handler α β γ σ) (now : Moment) (place : Nat) (p : Pool α β γ σ) :
    (p.consume h now place).lanes.length = p.lanes.length := by
  unfold consume
  split
  · rfl
  · next lane _ =>
    split
    · rfl
    · simp [enter]
    · simp [enter]
    · next envelope _ =>
      have handled := (handle_admits h now lane.id lane.table envelope.payload
        (p.updateLane place (fun l => l.take envelope.payload))).length
      simpa [dispatch] using handled
    · simp [finish, enter]

@[simp] theorem length_fire (p : Pool α β γ σ) (place : Nat) (lane : Lane α β γ) :
    (p.fire place lane).lanes.length = p.lanes.length := by
  unfold fire
  dsimp only
  split <;> simp

@[simp] theorem length_orphanIfAbandoned (p : Pool α β γ σ) (place : Nat) (id : LaneId)
    (dropped : Bool) : (p.orphanIfAbandoned place id dropped).lanes.length = p.lanes.length := by
  unfold orphanIfAbandoned
  split <;> simp

theorem length_tick (now : Moment) (place : Nat) (p : Pool α β γ σ) :
    (p.tick now place).lanes.length = p.lanes.length := by
  rcases p.tick_cases now place with ⟨-, eq⟩ | ⟨lane, metronome, -, -, -, ⟨-, eq⟩ | ⟨-, eq⟩⟩ <;>
    simp [eq]

@[simp] theorem length_closeMailbox (p : Pool α β γ σ) (place : Nat) (lane : Lane α β γ) :
    (p.closeMailbox place lane).lanes.length = p.lanes.length := by
  unfold closeMailbox
  split <;> simp

theorem length_passTicker (p : Pool α β γ σ) (stop : LaneStop) :
    (p.passTicker stop).2.lanes.length = p.lanes.length := by
  unfold passTicker
  split
  · split
    · simp
    · split
      · rw [length_closeMailbox]
        split <;> rfl
      · rfl
  · rfl

theorem length_advanceStop (p : Pool α β γ σ) (stop : LaneStop) :
    (p.advanceStop stop).2.lanes.length = p.lanes.length := by
  rw [advanceStop, passConsumer_lanes, length_passTicker]

theorem length_beginStop (p : Pool α β γ σ) (place : Nat) :
    (p.beginStop place).2.lanes.length = p.lanes.length := by
  unfold beginStop
  split
  · rfl
  · split
    · exact length_advanceStop ..
    · split <;> simp [length_advanceStop]

theorem length_forEach {ι : Type} {f : Pool α β γ σ → ι → LaneStop × Pool α β γ σ}
    (each : ∀ p x, (f p x).2.lanes.length = p.lanes.length) (list : List ι) (p : Pool α β γ σ) :
    (forEach f list p).2.lanes.length = p.lanes.length := by
  induction list generalizing p with
  | nil => rfl
  | cons x rest ih => exact (ih _).trans (each p x)

theorem length_beginQuit (p : Pool α β γ σ) : p.beginQuit.2.lanes.length = p.lanes.length := by
  rw [beginQuit_eq, concludeQuit_lanes, length_forEach length_beginStop]
  rfl

theorem length_advanceQuit (p : Pool α β γ σ) (stops : List LaneStop) :
    (p.advanceQuit stops).2.lanes.length = p.lanes.length := by
  unfold advanceQuit
  split
  · rfl
  · rw [concludeQuit_lanes, length_forEach length_advanceStop]

theorem length_abortLane (p : Pool α β γ σ) (place : Nat) :
    (p.abortLane place).lanes.length = p.lanes.length := by
  unfold abortLane
  split
  · rfl
  · dsimp only
    split <;> split <;> simp

theorem length_abort (p : Pool α β γ σ) : p.abort.lanes.length = p.lanes.length := by
  have folded (places : List Nat) (p : Pool α β γ σ) :
      (places.foldl abortLane p).lanes.length = p.lanes.length := by
    induction places generalizing p with
    | nil => rfl
    | cons place rest ih => exact (ih _).trans (p.length_abortLane place)
  exact folded _ p

theorem length_retime (p : Pool α β γ σ) (place : Nat) (seconds : Binary64) :
    (p.retime place seconds).2.lanes.length = p.lanes.length := by
  unfold retime
  split
  · rfl
  · split
    · rfl
    · exact length_updateLane ..

theorem length_setTable (p : Pool α β γ σ) (place : Nat) (table : Table γ) :
    (p.setTable place table).lanes.length = p.lanes.length :=
  length_updateLane ..

theorem length_of_same (same : ∃ routes generator, p' = { p with routes, generator }) :
    p'.lanes.length = p.lanes.length := by
  obtain ⟨routes, generator, rfl⟩ := same
  rfl

theorem length_sendEach (p : Pool α β γ σ) (request : α) (objects : List ObjectId)
    (wantsReply : Bool) :
    (p.sendEach request objects wantsReply).2.lanes.length = p.lanes.length := by
  unfold sendEach
  split
  · rfl
  · split
    · rfl
    · exact (submitAll_admits ..).length.trans (length_of_same (targets_same objects p))

theorem length_setObject (p : Pool α β γ σ) (object : ObjectId) (value : γ) :
    (p.setObject object value).2.lanes.length = p.lanes.length := by
  have owned := length_of_same (p.owner_same object)
  unfold setObject
  dsimp only
  split
  · exact owned
  · split
    · exact owned
    · exact (length_setTable ..).trans owned

theorem length_removeObject (p : Pool α β γ σ) (object : ObjectId) :
    (p.removeObject object).2.lanes.length = p.lanes.length := by
  have owned := length_of_same (p.owner_same object)
  unfold removeObject
  dsimp only
  split
  · exact owned
  · split
    · exact owned
    · exact (length_setTable ..).trans owned

/-! ### Growth -/

/-- The lanes that growth adds come behind the others. They have the next ids, and their consumers
have yet to run. -/
theorem grow_lanes {count : Nat} (granted : p.growthRefusal count = none)
    (tick : Option Duration) {k : Nat} {lane : Lane α β γ} :
    (p.grow count tick).2.lanes[k]? = some lane ↔
      p.lanes[k]? = some lane ∨
      ∃ i, i < count ∧ k = p.lanes.length + i ∧
        lane = .new (p.laneCount + i + 1 : Nat) p.config.capacity
          (tick.map (fun d => d.orDefault p.config.tickPeriod)) := by
  have lanes : (p.grow count tick).2.lanes = p.lanes ++ (p.nextIds count).map (fun id =>
      Lane.new id p.config.capacity (tick.map (fun d => d.orDefault p.config.tickPeriod))) := by
    simp [grow, granted, note, foldl_addLane_lanes]
  rw [lanes, List.getElem?_append]
  split
  · next below =>
    refine ⟨.inl, ?_⟩
    rintro (before | ⟨i, -, rfl, -⟩)
    · exact before
    · omega
  · next beyond =>
    have gone : p.lanes[k]? = none := List.getElem?_eq_none_iff.mpr (Nat.le_of_not_lt beyond)
    simp only [nextIds, List.map_map, List.getElem?_map, gone, Option.map_eq_some_iff,
      List.getElem?_eq_some_iff, List.length_range, List.getElem_range]
    constructor
    · rintro ⟨i, ⟨below, rfl⟩, rfl⟩
      exact .inr ⟨k - p.lanes.length, below, by omega, rfl⟩
    · rintro (⟨⟨⟩⟩ | ⟨i, below, rfl, rfl⟩)
      exact ⟨i, ⟨by omega, by omega⟩, rfl⟩

/-! ### Live lanes stay live -/

/-- A lane that growth adds is live under its own id. -/
theorem Grown.listed {count i : Nat} (grown : Grown p count p') (below : i < count) {id : Int}
    (unlisted : p.roster.get? id ≠ some (p.lanes.length + i)) :
    p'.roster.get? id = some (p.lanes.length + i) ↔ id = ((p.laneCount + i + 1 : Nat) : Int) := by
  rw [grown.roster]
  split
  · next within =>
    rw [Option.some_inj]
    omega
  · next beyond =>
    refine iff_of_false unlisted ?_
    intro new
    omega

theorem Grown.new_live {count i : Nat} (grown : Grown p count p') (below : i < count) :
    p'.Live (p.lanes.length + i) := by
  refine ⟨((p.laneCount + i + 1 : Nat) : Int), ?_⟩
  rw [grown.roster, if_pos (by omega)]
  congr 2
  omega

theorem Reroute.stays_live {changes : List RouteChange} {k : Nat} (change : Reroute p changes p')
    (sound : Sound p) (running : .emptied ∉ changes) (live : p.Live k) : p'.Live k := by
  obtain ⟨id, listed⟩ := live
  cases change with
  | keep same => exact ⟨id, by rw [same.roster, listed]⟩
  | grow grown =>
    have range := (sound.live id).mp ⟨k, listed⟩
    exact ⟨id, by rw [grown.roster, if_neg (by omega), listed]⟩
  | draw => exact ⟨id, listed⟩
  | pin => exact ⟨id, listed⟩
  | forget => exact ⟨id, listed⟩
  | empty => simp at running

theorem Reroutes.stays_live {changes : List RouteChange} {k : Nat}
    (rerouted : Reroutes p changes p') (sound : Sound p) (running : .emptied ∉ changes)
    (live : p.Live k) : p'.Live k := by
  induction rerouted with
  | refl => exact live
  | tail before last ih =>
    simp only [List.mem_append, not_or] at running
    exact last.stays_live (Reroutes.sound before sound) running.2 (ih running.1)

end Pool

namespace RunningPool
variable {α β γ σ : Type} {h : Handler α β γ σ} {s : RunningPool α β γ σ} {k : Nat}
  {lane : Lane α β γ}

/-! ### Where lanes come from -/

theorem apply_length {step : Step α γ σ} (same : ¬ Grows s.pool step) :
    (s.apply h step).pool.lanes.length = s.pool.lanes.length := by
  cases step with
  | grow count tick =>
    obtain ⟨cause, -, eq⟩ | ⟨granted, -⟩ := s.pool.grow_cases count tick
    · simp [apply, perform, eq]
    · exact absurd granted same
  | target object affinity => exact Pool.length_of_same (s.pool.target_same object affinity)
  | sendEach request objects wantsReply => exact s.pool.length_sendEach request objects wantsReply
  | sendTo id request wantsReply => exact (s.pool.sendTo_admits id request wantsReply).length
  | cast request => exact (s.pool.cast_admits request).length
  | getObject object => exact Pool.length_of_same (s.pool.owner_same object)
  | setObject object value => exact s.pool.length_setObject object value
  | removeObject object => exact s.pool.length_removeObject object
  | submit place request wantsReply => exact (s.pool.submit_admits place request wantsReply).length
  | retime place seconds => exact s.pool.length_retime place seconds
  | edit place change => exact s.pool.length_setTable place _
  | remember change => rfl
  | quit => exact s.pool.length_beginQuit
  | resume call =>
    simp only [apply]
    split
    · rfl
    · exact s.pool.length_advanceQuit _
  | consume now place => exact s.pool.length_consume h now place
  | tick now place => exact s.pool.length_tick now place
  | abort => exact s.pool.length_abort

/-- Unless it adds lanes, a step finds each lane that it leaves. -/
theorem apply_origin {step : Step α γ σ} (same : ¬ Grows s.pool step)
    (there : (s.apply h step).pool.lanes[k]? = some lane) :
    ∃ first events, s.pool.lanes[k]? = some first ∧ Lane.Moves h .any first events lane := by
  obtain ⟨first, events, was | ⟨gone, -⟩, -, moves⟩ :=
    (s.apply_evolves (h := h) step).origin there
  · exact ⟨first, events, was, moves⟩
  · have below := (List.getElem?_eq_some_iff.mp there).1
    rw [apply_length same] at below
    rw [List.getElem?_eq_none_iff] at gone
    omega

/-! ### What becomes of lanes -/

theorem run_retired {config : PoolConfig} {generator : Generator} {memory : σ}
    {steps : List (Step α γ σ)}
    (at_ : (run h steps (start config generator memory)).pool.lanes[k]? = some lane)
    (stopped : lane.mailbox.phase = .stopped) :
    Lane.Retired ((run h steps (start config generator memory)).pool.laneEvents k) := by
  obtain ⟨id, tick, moves⟩ := lane_moves_any at_
  exact moves.retired stopped

/-- For a lane whose consumer has ended the handler is not called again. -/
theorem run_quiet (at_ : s.pool.lanes[k]? = some lane) (ended : lane.mailbox.phase.ended = true)
    (steps : List (Step α γ σ)) :
    ∃ more, (run h steps s).pool.laneEvents k = s.pool.laneEvents k ++ more ∧
      Mailbox.Quiet (LaneEvent.inMailbox more) := by
  obtain ⟨lane', more, -, told, moves⟩ := (run_evolves (h := h) steps s).lane at_
  exact ⟨more, told, (moves.mailbox.quiet ended).1⟩

theorem apply_live {step : Step α γ σ} (sound : s.pool.Sound) (running : step ≠ .quit)
    (live : s.pool.Live k) : (s.apply h step).pool.Live k := by
  obtain ⟨changes, rerouted, only⟩ := s.apply_reroutes (h := h) step
  refine rerouted.stays_live sound (fun emptied => running ?_) live
  have change := only emptied
  cases step <;> simp [Step.changes] at change
  rfl

/-- Every lane is live or some call of quit has it, and these calls have told their lanes. -/
structure Accounted (s : RunningPool α β γ σ) : Prop where
  sound : s.pool.Sound
  told : ∀ stops ∈ s.quits, ∀ stop ∈ stops, s.pool.Told stop
  tended : ∀ {k lane}, s.pool.lanes[k]? = some lane → s.pool.Live k ∨ ∃ call, s.Awaits call k

theorem start_accounted (config : PoolConfig) (generator : Generator) (memory : σ) :
    (start config generator memory : RunningPool α β γ σ).Accounted where
  sound := .new config generator memory
  told := by simp [start]
  tended at_ := by simp [start, Pool.new] at at_

theorem Accounted.apply_told (accounted : s.Accounted) (step : Step α γ σ) :
    ∀ stops ∈ (s.apply h step).quits, ∀ stop ∈ stops, (s.apply h step).pool.Told stop := by
  have evolves := s.apply_evolves (h := h) step
  have old (stops) (mem : stops ∈ s.quits) (stop) (on : stop ∈ stops) :
      (s.apply h step).pool.Told stop := (accounted.told stops mem stop on).evolves evolves
  cases step with
  | quit =>
    intro stops mem
    rcases List.mem_append.mp mem with before | new
    · exact old stops before
    · obtain rfl := List.mem_singleton.mp new
      exact Pool.beginQuit_told h accounted.sound
  | resume call =>
    cases waits : s.quits[call]? with
    | none => simpa [apply, waits] using old
    | some stops =>
      rw [apply_resume waits] at old ⊢
      intro stops' mem
      rcases List.mem_or_eq_of_mem_set mem with before | rfl
      · exact old stops' before
      · exact Pool.advanceQuit_told h (accounted.told stops (List.mem_of_getElem? waits))
  | _ => exact old

theorem Accounted.apply_tended (accounted : s.Accounted) (step : Step α γ σ)
    (there : (s.apply h step).pool.lanes[k]? = some lane) :
    (s.apply h step).pool.Live k ∨ ∃ call, (s.apply h step).Awaits call k := by
  have stays {first : Lane α β γ} (at_ : s.pool.lanes[k]? = some first) :
      (s.apply h step).pool.Live k ∨ ∃ call, (s.apply h step).Awaits call k := by
    rcases accounted.tended at_ with live | ⟨call, awaits⟩
    · by_cases quits : step = .quit
      · exact .inr ⟨s.quits.length, quits ▸ quit_awaits live⟩
      · exact .inl (apply_live accounted.sound quits live)
    · exact .inr ⟨call, apply_awaits awaits step⟩
  by_cases grows : Grows s.pool step
  · cases step with
    | grow count tick =>
      rcases (Pool.grow_lanes grows tick).mp there with before | ⟨i, below, rfl, -⟩
      · exact stays before
      · obtain ⟨cause, refused, -⟩ | ⟨-, -, grown⟩ := s.pool.grow_cases count tick
        · exact absurd (grows.symm.trans refused) (by simp)
        · exact .inl (grown.new_live below)
    | _ => exact grows.elim
  · obtain ⟨first, events, at_, -⟩ := apply_origin grows there
    exact stays at_

theorem Accounted.apply (accounted : s.Accounted) (step : Step α γ σ) :
    (s.apply h step).Accounted where
  sound := s.apply_sound step accounted.sound
  told := accounted.apply_told step
  tended := accounted.apply_tended step

theorem run_accounted {steps : List (Step α γ σ)} (accounted : s.Accounted) :
    (run h steps s).Accounted :=
  run_keeps (P := Accounted) (fun _ step accounted => accounted.apply step) steps accounted

/-- The lanes of a call of quit that has finished have ended. -/
theorem Accounted.ended_of_finished (accounted : s.Accounted) {call : Nat}
    {stops : List LaneStop} (waits : s.quits[call]? = some stops) (awaits : s.Awaits call k)
    (finished : Pool.stopsFinished stops = true) (at_ : s.pool.lanes[k]? = some lane) :
    lane.mailbox.phase.ended = true := by
  have on := awaits.finished waits finished
  obtain ⟨lane', at', told⟩ := accounted.told stops (List.mem_of_getElem? waits) _ on
  obtain rfl : lane = lane' := Option.some.inj (at_.symm.trans at')
  exact told.finished rfl

end RunningPool
end Lanes
