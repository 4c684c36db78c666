import Lanes.Proofs.Pool.Stops

/-!
# Shutdown of a pool

From the call of quit on the pool looks empty, until it grows again. Each lane that it had handles
everything that it accepts, whoever sends it, until the call closes its mailbox behind the last beat
of its ticker; then it says farewell and stops.
-/
namespace Lanes
namespace Pool
variable {α β γ σ : Type} {h : Handler α β γ σ} {p p' : Pool α β γ σ}

/-! ### Pools without lanes -/

/-- Neither lanes nor routes. -/
structure Vacant (p : Pool α β γ σ) : Prop where
  laneCount : p.laneCount = 0
  roster : p.roster = .empty
  routes : p.routes = .empty

/-- What callers see of a pool without lanes. Its next lanes have the ids from one on. -/
structure LooksEmpty (p : Pool α β γ σ) : Prop where
  ids : p.ids = []
  target : ∀ object affinity, p.target object affinity = (.error .noWorkers, p)
  cast : ∀ request, p.cast request = (.error .noWorkers, p)
  sendEach : ∀ request objects wantsReply, objects ≠ [] →
    p.sendEach request objects wantsReply = (.error .noWorkers, p)
  sendTo : ∀ id request wantsReply,
    p.sendTo id request wantsReply = (.refused (.noSuchWorker id), p)
  grow : ∀ count tick, (∃ cause, p.grow count tick = (.error cause, p)) ∨
    (p.grow count tick).1 = .ok ((List.range count).map (fun i => ((i + 1 : Nat) : Int)))

theorem Vacant.looksEmpty (vacant : p.Vacant) : p.LooksEmpty where
  ids := by simp [ids, vacant.roster, OrderedMap.keys, OrderedMap.empty]
  target object affinity := by simp [Pool.target, vacant.laneCount]
  cast request := by simp [Pool.cast, vacant.roster, OrderedMap.isEmpty, OrderedMap.empty]
  sendEach request objects wantsReply some := by
    simp [Pool.sendEach, some, size, vacant.roster, OrderedMap.size, OrderedMap.empty]
  sendTo id request wantsReply := by simp [Pool.sendTo, place?, vacant.roster]
  grow count tick := by
    obtain ⟨cause, -, eq⟩ | ⟨-, ok, -⟩ := p.grow_cases count tick
    · exact .inl ⟨cause, eq⟩
    · exact .inr (by simp [ok, nextIds, vacant.laneCount])

theorem Reroute.vacant {changes : List RouteChange} (change : Reroute p changes p')
    (same : .grown ∉ changes) (vacant : p.Vacant) : p'.Vacant := by
  cases change with
  | keep same =>
    exact ⟨same.laneCount.trans vacant.laneCount, same.roster.trans vacant.roster,
      same.routes.trans vacant.routes⟩
  | grow => simp at same
  | draw => exact ⟨vacant.laneCount, vacant.roster, vacant.routes⟩
  | pin _ stocked => exact absurd vacant.laneCount stocked
  | forget => exact ⟨vacant.laneCount, vacant.roster, by rw [vacant.routes]; rfl⟩
  | empty => exact ⟨rfl, rfl, rfl⟩

theorem Reroutes.vacant {changes : List RouteChange} (rerouted : Reroutes p changes p')
    (same : .grown ∉ changes) (vacant : p.Vacant) : p'.Vacant := by
  induction rerouted with
  | refl => exact vacant
  | tail _ last ih =>
    simp only [List.mem_append, not_or] at same
    exact last.vacant same.2 (ih same.1)

theorem beginQuit_vacant (p : Pool α β γ σ) : p.beginQuit.2.Vacant := by
  have same := p.beginQuit_routes
  exact ⟨same.laneCount, same.roster, same.routes⟩

/-! ### Acceptances -/

/-- The lanes at some places have accepted a request, and nothing else has happened to lanes. -/
def Took (p : Pool α β γ σ) (request : α) (wantsReply : Bool) (takers : List Nat)
    (p' : Pool α β γ σ) : Prop :=
  ∀ k, ∃ serial, p'.laneEvents k = p.laneEvents k ++
    if k ∈ takers then [.mailbox (.accepted ⟨serial, .request request, wantsReply⟩)] else []

/-- A submission is refused without a trace, or the lane accepts the request. -/
theorem submit_took (p : Pool α β γ σ) (place : Nat) (request : α) (wantsReply : Bool) :
    (∃ cause, p.submit place request wantsReply = (.refused cause, p)) ∨
      (∀ cause, (p.submit place request wantsReply).1 ≠ .refused cause) ∧
        p.Took request wantsReply [place] (p.submit place request wantsReply).2 := by
  obtain ⟨serial, ok, told⟩ | ⟨cause, eq⟩ := p.deliver_told place (.request request) wantsReply
  · refine .inr ⟨?_, ?_⟩
    · intro cause
      simp only [submit, ok]
      cases wantsReply <;> simp
    · intro k
      refine ⟨serial, ?_⟩
      rw [p.submit_snd, told]
      simp [eq_comm]
  · exact .inl ⟨cause, by simp [submit, eq]⟩

/-- Live lanes have places of their own. -/
theorem Sound.places_nodup (sound : p.Sound) : (p.roster.entries.map Prod.snd).Nodup := by
  rw [List.Nodup, List.pairwise_map]
  refine p.roster.ascending.imp_of_mem ?_
  intro a b left right below same
  obtain ⟨lane, at_, is⟩ := sound.lane (OrderedMap.get?_eq_some_iff.mpr left)
  obtain ⟨lane', at', is'⟩ := sound.lane (OrderedMap.get?_eq_some_iff.mpr right)
  rw [same] at at_
  obtain rfl : lane = lane' := Option.some.inj (at_.symm.trans at')
  rw [is.symm.trans is'] at below
  exact Int.lt_irrefl _ below

theorem castTo_took (request : α) (counted : Nat × Pool α β γ σ) (entry : LaneId × Nat) :
    ((castTo request counted entry).1 = counted.1 + 1 ∧
      counted.2.Took request false [entry.2] (castTo request counted entry).2) ∨
    ((castTo request counted entry).1 = counted.1 ∧
      ∀ k, (castTo request counted entry).2.laneEvents k = counted.2.laneEvents k) := by
  unfold castTo push
  obtain ⟨serial, ok, told⟩ | ⟨cause, eq⟩ :=
    counted.2.deliver_told entry.2 (.request request) false
  · refine .inl ⟨by simp [ok, Except.map], ?_⟩
    intro k
    refine ⟨serial, ?_⟩
    simp only [ok, Except.map]
    rw [told]
    simp [eq_comm]
  · refine .inr ⟨by simp [eq, Except.map], ?_⟩
    intro k
    simp only [eq, Except.map]
    simp [PoolEvent.at?]

theorem foldl_castTo_took (request : α) {entries : List (LaneId × Nat)}
    (apart : (entries.map Prod.snd).Nodup) (counted : Nat × Pool α β γ σ) :
    ∃ takers, List.Sublist takers (entries.map Prod.snd) ∧
      (entries.foldl (castTo request) counted).1 = counted.1 + takers.length ∧
      counted.2.Took request false takers (entries.foldl (castTo request) counted).2 := by
  induction entries generalizing counted with
  | nil => exact ⟨[], .slnil, rfl, fun k => ⟨0, by simp⟩⟩
  | cons entry rest ih =>
    obtain ⟨new, apart⟩ := List.nodup_cons.mp apart
    obtain ⟨takers, sub, count, took⟩ := ih apart (castTo request counted entry)
    obtain ⟨one, first⟩ | ⟨none, first⟩ := castTo_took request counted entry
    · refine ⟨entry.2 :: takers, sub.cons_cons _, by simp [count, one]; omega, ?_⟩
      intro k
      obtain ⟨serial, told⟩ := first k
      obtain ⟨serial', told'⟩ := took k
      by_cases here : k = entry.2
      · subst here
        have absent : entry.2 ∉ takers := fun mem => new (sub.subset mem)
        exact ⟨serial, by simp [told', told, absent]⟩
      · exact ⟨serial', by simp [told', told, here]⟩
    · refine ⟨takers, sub.cons _, by simp [count, none], ?_⟩
      intro k
      obtain ⟨serial, told⟩ := took k
      exact ⟨serial, by rw [List.foldl_cons, told, first]⟩

/-- The result of a cast is the number of lanes that accepted the request. -/
theorem Sound.cast_took (sound : p.Sound) {request : α} {count : Nat}
    (ok : (p.cast request).1 = .ok count) :
    ∃ takers, takers.Nodup ∧ (∀ k ∈ takers, p.Live k) ∧ takers.length = count ∧
      p.Took request false takers (p.cast request).2 := by
  unfold cast at ok ⊢
  split at ok
  · cases ok
  · next some =>
    rw [if_neg some]
    obtain ⟨takers, sub, counted, took⟩ :=
      foldl_castTo_took request sound.places_nodup (0, p)
    refine ⟨takers, sub.nodup sound.places_nodup, ?_, ?_, took⟩
    · intro k mem
      obtain ⟨entry, listed, rfl⟩ := List.mem_map.mp (sub.subset mem)
      exact ⟨entry.1, OrderedMap.get?_eq_some_iff.mpr listed⟩
    · rw [← Except.ok.inj ok, counted, Nat.zero_add]

end Pool

namespace RunningPool
variable {α β γ σ : Type} {h : Handler α β γ σ} {s : RunningPool α β γ σ}

/-- The step adds lanes to the pool. -/
def Grows (p : Pool α β γ σ) : Step α γ σ → Prop
  | .grow count _ => p.growthRefusal count = none
  | _ => False

theorem apply_vacant {step : Step α γ σ} (same : ¬ Grows s.pool step) (vacant : s.pool.Vacant) :
    (s.apply h step).pool.Vacant := by
  obtain ⟨changes, rerouted, only⟩ := s.apply_reroutes (h := h) step
  cases step with
  | grow count tick =>
    obtain ⟨cause, -, eq⟩ | ⟨none, -⟩ := s.pool.grow_cases count tick
    · simpa [apply, perform, eq] using vacant
    · exact absurd none same
  | _ => exact rerouted.vacant (fun grown => by simpa [Step.changes] using only grown) vacant

theorem run_vacant {steps : List (Step α γ σ)}
    (same : ∀ visit ∈ visits h steps s, ¬ Grows visit.1 visit.2) (vacant : s.pool.Vacant) :
    (run h steps s).pool.Vacant := by
  induction steps generalizing s with
  | nil => exact vacant
  | cons step steps ih =>
    rw [visits, List.forall_mem_cons] at same
    exact ih same.2 (apply_vacant same.1 vacant)

/-- A call of quit that has finished leaves its lanes stopped. -/
theorem Orderly.stopped_of_finished (orderly : s.Orderly) {call k : Nat} {stops : List LaneStop}
    (awaits : s.Awaits call k) (waits : s.quits[call]? = some stops)
    (finished : Pool.stopsFinished stops = true) {lane : Lane α β γ}
    (at_ : s.pool.lanes[k]? = some lane) : lane.mailbox.phase = .stopped := by
  have on := awaits.finished waits finished
  obtain ⟨lane', at', told⟩ := (orderly.told stops (List.mem_of_getElem? waits) _ on).1
  obtain rfl : lane = lane' := Option.some.inj (at_.symm.trans at')
  exact (orderly.kept at_).stopped (told.finished rfl)

/-- Each lane that a pool has when it is told to quit handles what it accepts, once and in order of
acceptance, beats a last time before its mailbox is closed, and says farewell once, at the end. It
has come so far when the call of quit finishes, and it comes so far if its ticker wakes up, the call
goes on and its consumer takes its steps. Meanwhile the pool looks empty, until it grows again.
Whether lanes accept a request is what the results of submissions and casts say. -/
theorem quit_ends_lanes (h : Handler α β γ σ) (config : PoolConfig) (generator : Generator)
    (memory : σ) (before later : List (Step α γ σ)) (up : .abort ∉ before ++ later) :
    let s := run h before (start config generator memory)
    let t := run h later (s.apply h .quit)
    (∀ k first, s.pool.Live k → s.pool.lanes[k]? = some first →
      ∃ lane events, t.pool.lanes[k]? = some lane ∧
        t.pool.laneEvents k = s.pool.laneEvents k ++ events ∧
        Lane.StopsCleanly first (s.pool.laneEvents k) events lane ∧
        (∀ stops, t.quits[s.quits.length]? = some stops → Pool.stopsFinished stops = true →
          lane.mailbox.phase = .stopped) ∧
        ∀ begun going ending now,
          later = begun ++ .tick now k :: (going ++ .resume s.quits.length :: ending) →
          first.mailbox.capacity + 3 ≤ ending.countP (Step.consumes k) →
          lane.mailbox.phase = .stopped) ∧
    ((∀ visit ∈ visits h later (s.apply h .quit), ¬ Grows visit.1 visit.2) → t.pool.LooksEmpty) ∧
    (∀ place request wantsReply,
      (∃ cause, s.pool.submit place request wantsReply = (.refused cause, s.pool)) ∨
        (∀ cause, (s.pool.submit place request wantsReply).1 ≠ .refused cause) ∧
          s.pool.Took request wantsReply [place] (s.pool.submit place request wantsReply).2) ∧
    ∀ request count, (s.pool.cast request).1 = .ok count →
      ∃ takers, takers.Nodup ∧ (∀ k ∈ takers, s.pool.Live k) ∧ takers.length = count ∧
        s.pool.Took request false takers (s.pool.cast request).2 := by
  intro s t
  obtain ⟨up₁, up₂⟩ := not_or.mp (mt List.mem_append.mpr up)
  have orderly : s.Orderly := run_orderly (start_orderly config generator memory) up₁
  have told : (s.apply h .quit).Orderly := apply_orderly orderly (by simp)
  have orderly' : t.Orderly := run_orderly told up₂
  have hosted {steps : List (Step α γ σ)} (up : .abort ∉ steps) (step) (mem : step ∈ steps) :
      step.Within .hosted := Step.within_hosted fun is => up (is ▸ mem)
  have evolves : Pool.Evolves h .hosted (s.apply h .quit).pool t.pool :=
    run_evolves_within (fun _ _ => trivial) (hosted up₂) _
  refine ⟨?_, ?_, s.pool.submit_took, fun request count ok => orderly.sound.cast_took ok⟩
  · intro k first live at_
    obtain ⟨id, tick, born⟩ := lane_moves_hosted up₁ at_
    obtain ⟨lane₀, begin, there₀, history₀, moves₀⟩ :=
      (s.apply_evolves_hosted (h := h) .quit (by simp)).lane at_
    obtain ⟨lane, events, there, history, moves⟩ := evolves.lane there₀
    have clean := born.stopsCleanly (orderly.untold live at_) (moves₀.trans moves)
      fun down => down
    refine ⟨lane, begin ++ events, there, by rw [history, history₀, List.append_assoc], clean,
      ?_, ?_⟩
    · intro stops waits finished
      have awaits : t.Awaits s.quits.length k := run_awaits (quit_awaits live) later
      exact orderly'.stopped_of_finished awaits waits finished there
    · rintro begun going ending now rfl enough
      obtain ⟨lane', there', stopped⟩ := run_stops told (quit_awaits live) there₀ up₂
        (by rw [moves₀.capacity]; exact enough)
      obtain rfl : lane = lane' := Option.some.inj (there.symm.trans there')
      exact stopped
  · intro same
    exact (run_vacant same s.pool.beginQuit_vacant).looksEmpty

/-- What a lane's handler is called for. -/
inductive Duty where
  | request (payload : Nat)
  | tick
  | farewell
  deriving DecidableEq

/-- Remembers what it was called for. -/
def diarist : Handler Nat Unit Nat (List Duty) where
  process _ _ request table memory := .done (.returned (), table, memory ++ [.request request])
  onTick _ _ table memory := (.returned (), table, memory ++ [.tick])
  onQuit _ _ memory := (.returned (), memory ++ [.farewell])

/-- A lane with a ticker and room for three. -/
def tickingStart : List (Step Nat Nat (List Duty)) :=
  [.grow 1 (some (.ofSeconds 1)), .sendTo 1 10 false]

/-- A request is still pushed while the ticker finishes, and one after the mailbox was closed. -/
def lateRequests : List (Step Nat Nat (List Duty)) :=
  [.submit 0 11 false, .tick 0 0, .resume 0, .submit 0 12 false, .consume 0 0, .consume 0 0,
    .consume 0 0, .consume 0 0, .consume 0 0, .consume 0 0]

theorem lateRequests_end_lane :
    let s := run diarist tickingStart (start ⟨3, defaultTickPeriod⟩ (.seeded 0) [])
    let t := run diarist lateRequests (s.apply diarist .quit)
    .abort ∉ tickingStart ++ lateRequests ∧
    t.pool.memory = [.request 10, .request 11, .tick, .farewell] ∧
    ∃ first lane events, s.pool.lanes[0]? = some first ∧ t.pool.lanes[0]? = some lane ∧
      lane.mailbox.phase = .stopped ∧
      Lane.StopsCleanly first (s.pool.laneEvents 0) events lane ∧ t.pool.LooksEmpty := by
  intro s t
  have up : .abort ∉ tickingStart ++ lateRequests := by simp [tickingStart, lateRequests]
  obtain ⟨lanes, empty, -, -⟩ := quit_ends_lanes diarist ⟨3, defaultTickPeriod⟩ (.seeded 0) []
    tickingStart lateRequests up
  have live : s.pool.Live 0 := ⟨1, by decide +kernel⟩
  obtain ⟨first, at_, room⟩ : ∃ first, s.pool.lanes[0]? = some first ∧
      first.mailbox.capacity = 3 :=
    ⟨_, rfl, rfl⟩
  obtain ⟨lane, events, there, -, clean, -, stops⟩ := lanes 0 first live at_
  have stopped := stops [.submit 0 11 false] []
    [.submit 0 12 false, .consume 0 0, .consume 0 0, .consume 0 0, .consume 0 0, .consume 0 0,
      .consume 0 0] 0 rfl (by rw [room]; decide)
  refine ⟨up, by decide +kernel, first, lane, events, at_, there, stopped, clean, empty ?_⟩
  intro visit visited
  simp only [lateRequests, visits, List.mem_cons, List.not_mem_nil, or_false] at visited
  rcases visited with rfl | rfl | rfl | rfl | rfl | rfl | rfl | rfl | rfl | rfl <;> exact id

end RunningPool
end Lanes
