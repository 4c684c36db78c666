import Lanes.Proofs.Lane.Shutdown
import Lanes.Proofs.Pool.Routing

/-!
# Stops

A call of quit stops the lanes that are live when it is made, and no others. Each of its stops has
cancelled the ticker of its lane, or it has gone on to close the mailbox; so the lane's ticker beats
once more, the call closes the mailbox when it goes on after that, and the consumer comes to an end
after at most as many steps as the mailbox has room for, and three.
-/
namespace Lanes
namespace Pool
variable {α β γ σ : Type} {h : Handler α β γ σ} {outer : Influence α γ} {p p' : Pool α β γ σ}

/-- The stop has told its lane. -/
def Told (p : Pool α β γ σ) (stop : LaneStop) : Prop :=
  ∃ lane, p.lanes[stop.place]? = some lane ∧ lane.Told stop.stage

theorem Told.evolves {stop : LaneStop} (told : p.Told stop) (evolves : Evolves h outer p p') :
    p'.Told stop := by
  obtain ⟨lane, at_, has⟩ := told
  obtain ⟨lane', events, there, -, moves⟩ := evolves.lane at_
  exact ⟨lane', there, moves.told has⟩

/-! ### One stop -/

theorem closeMailbox_closed {place : Nat} {lane : Lane α β γ}
    (at_ : p.lanes[place]? = some lane) :
    ∃ lane', (p.closeMailbox place lane).lanes[place]? = some lane' ∧
      lane'.mailbox.closed = true := by
  unfold closeMailbox Mailbox.close?
  cases closed : lane.mailbox.closed with
  | true => exact ⟨lane, by simpa using at_, closed⟩
  | false => exact ⟨_, by simpa using lane_updateLane_self at_ _, rfl⟩

/-- A stop goes on to close the mailbox as soon as the ticker has ended. -/
theorem passTicker_told {stop : LaneStop} (told : p.Told stop) :
    (p.passTicker stop).2.Told (p.passTicker stop).1 ∧
      ∀ lane, p.lanes[stop.place]? = some lane → lane.tickerEnded = true →
        ∃ lane', (p.passTicker stop).2.lanes[stop.place]? = some lane' ∧
          lane'.mailbox.closed = true := by
  have closing (known : Pool α β γ σ) {lane : Lane α β γ}
      (at_ : known.lanes[stop.place]? = some lane) :
      (known.closeMailbox stop.place lane).Told ⟨stop.place, .consumer⟩ ∧
        ∃ lane', (known.closeMailbox stop.place lane).lanes[stop.place]? = some lane' ∧
          lane'.mailbox.closed = true := by
    obtain ⟨lane', there, closed⟩ := closeMailbox_closed at_
    exact ⟨⟨lane', there, .inr closed, by simp⟩, lane', there, closed⟩
  obtain ⟨lane, at_, has⟩ := told
  obtain ⟨place, stage⟩ := stop
  cases stage with
  | ticker =>
    simp only [passTicker, at_]
    cases ticking : lane.metronome with
    | none =>
      obtain ⟨told, closed⟩ := closing p at_
      exact ⟨told, fun _ _ _ => closed⟩
    | some metronome =>
      cases ended : metronome.phase.ended with
      | true =>
        simp only [ended, if_true]
        let known : Pool α β γ σ :=
          if metronome.phase = .aborted then p.noteTicker place lane.id .foundAborted else p
        have there : known.lanes[place]? = some lane := by
          simp only [known]
          split <;> exact at_
        obtain ⟨told, closed⟩ := closing known there
        exact ⟨told, fun _ _ _ => closed⟩
      | false =>
        simp only [ended, Bool.false_eq_true, if_false]
        refine ⟨⟨lane, at_, has⟩, ?_⟩
        intro other is past
        obtain rfl : lane = other := Option.some.inj is
        simp [Lane.tickerEnded, ticking, ended] at past
  | consumer => exact ⟨⟨lane, at_, has⟩, fun _ _ _ => ⟨lane, at_, has.closed (by simp)⟩⟩
  | finished => exact ⟨⟨lane, at_, has⟩, fun _ _ _ => ⟨lane, at_, has.closed (by simp)⟩⟩

theorem passConsumer_told {stop : LaneStop} (told : p.Told stop) :
    (p.passConsumer stop).2.Told (p.passConsumer stop).1 := by
  obtain ⟨lane, at_, has⟩ := told
  obtain ⟨place, stage⟩ := stop
  cases stage with
  | consumer =>
    simp only [passConsumer, at_]
    split
    · next ended =>
      refine ⟨lane, ?_, .inr (has.closed (by simp)), fun _ => ended⟩
      split <;> exact at_
    · exact ⟨lane, at_, has⟩
  | _ => exact ⟨lane, at_, has⟩

theorem passConsumer_lanes (p : Pool α β γ σ) (stop : LaneStop) :
    (p.passConsumer stop).2.lanes = p.lanes := by
  unfold passConsumer
  split
  · dsimp only
    split
    · split <;> rfl
    · rfl
  · rfl

theorem passConsumer_place (p : Pool α β γ σ) (stop : LaneStop) :
    (p.passConsumer stop).1.place = stop.place := by
  unfold passConsumer
  split
  · split <;> rfl
  · rfl

theorem advanceStop_place (p : Pool α β γ σ) (stop : LaneStop) :
    (p.advanceStop stop).1.place = stop.place :=
  (passConsumer_place _ _).trans (p.passTicker_place stop)

theorem advanceStop_told {stop : LaneStop} (told : p.Told stop) :
    (p.advanceStop stop).2.Told (p.advanceStop stop).1 :=
  passConsumer_told (passTicker_told told).1

theorem advanceStop_closes {stop : LaneStop} (told : p.Told stop) {lane : Lane α β γ}
    (at_ : p.lanes[stop.place]? = some lane) (ended : lane.tickerEnded = true) :
    ∃ lane', (p.advanceStop stop).2.lanes[stop.place]? = some lane' ∧
      lane'.mailbox.closed = true := by
  obtain ⟨lane', there, closed⟩ := (passTicker_told told).2 lane at_ ended
  exact ⟨lane', by rw [advanceStop, passConsumer_lanes, there], closed⟩

theorem beginStop_place (p : Pool α β γ σ) (place : Nat) :
    (p.beginStop place).1.place = place := by
  unfold beginStop
  split
  · rfl
  · split
    · exact advanceStop_place _ ⟨place, .ticker⟩
    · split <;> exact advanceStop_place _ ⟨place, .ticker⟩

theorem beginStop_told {place : Nat} {lane : Lane α β γ} (at_ : p.lanes[place]? = some lane) :
    (p.beginStop place).2.Told (p.beginStop place).1 := by
  have first {p : Pool α β γ σ} {lane : Lane α β γ} (at_ : p.lanes[place]? = some lane)
      (cancelled : lane.Cancelled) : p.Told ⟨place, .ticker⟩ :=
    ⟨lane, at_, .inl ⟨rfl, cancelled⟩, by simp⟩
  simp only [beginStop, at_]
  cases ticking : lane.metronome with
  | none =>
    refine advanceStop_told (first at_ ?_)
    intro metronome has
    rw [ticking] at has
    cases has
  | some metronome =>
    cases ok : metronome.close? with
    | error cause =>
      simp only [ok]
      refine advanceStop_told (first at_ ?_)
      intro metronome' has
      obtain rfl := Option.some.inj (ticking.symm.trans has)
      have shut : metronome.closed = true := by
        unfold Metronome.close? at ok
        cases closed : metronome.closed <;> simp [closed] at ok ⊢
      simp [Metronome.cancelled, shut]
    | ok closed =>
      obtain ⟨-, rfl⟩ := Metronome.close?_eq_ok_iff.mp ok
      let closed : Metronome := { metronome with closed := true }
      have there : ((p.updateMetronome place (fun _ => closed)).noteTicker place lane.id
          .cancelled).lanes[place]? = some { lane with metronome := some closed } := by
        simp [updateMetronome, at_, ticking]
      simp only [ok]
      refine advanceStop_told (first there ?_)
      intro metronome' has
      obtain rfl := Option.some.inj has
      rfl

/-! ### All the stops of a call -/

section Each
variable {ι : Type} {f : Pool α β γ σ → ι → LaneStop × Pool α β γ σ}

theorem forEach_places {key : ι → Nat} (each : ∀ p x, (f p x).1.place = key x) (list : List ι)
    (p : Pool α β γ σ) : (forEach f list p).1.map (·.place) = list.map key := by
  induction list generalizing p with
  | nil => rfl
  | cons x rest ih => simp [forEach, each, ih]

theorem forEach_lane {key : ι → Nat} (each : ∀ p x, Touches (key x) p (f p x).2)
    {list : List ι} {k : Nat} (aside : k ∉ list.map key) (p : Pool α β γ σ) :
    (forEach f list p).2.lanes[k]? = p.lanes[k]? := by
  induction list generalizing p with
  | nil => rfl
  | cons x rest ih =>
    obtain ⟨here, later⟩ := not_or.mp (mt List.mem_cons.mpr aside)
    exact (ih later _).trans ((each p x).lanes k here)

/-- What each stop brings about, and what no evolution undoes, holds when all have been taken. -/
theorem forEach_gives {Q : Pool α β γ σ → LaneStop → Prop}
    (evolves : ∀ p x, Evolves h outer p (f p x).2)
    (kept : ∀ {p p' stop}, Evolves h outer p p' → Q p stop → Q p' stop)
    {list : List ι} {p : Pool α β γ σ}
    (each : ∀ p', Evolves h outer p p' → ∀ x ∈ list, Q (f p' x).2 (f p' x).1) :
    ∀ stop ∈ (forEach f list p).1, Q (forEach f list p).2 stop := by
  induction list generalizing p with
  | nil => simp [forEach]
  | cons x rest ih =>
    simp only [forEach, List.mem_cons, forall_eq_or_imp]
    constructor
    · exact kept (forEach_evolves evolves rest _) (each p (.refl p) x (by simp))
    · exact ih fun p' later x' mem => each p' ((evolves p x).trans later) x' (by simp [mem])

end Each

@[simp] theorem concludeQuit_fst (quitting : List LaneStop × Pool α β γ σ) :
    (concludeQuit quitting).1 = quitting.1 := by
  unfold concludeQuit
  split <;> rfl

@[simp] theorem concludeQuit_lanes (quitting : List LaneStop × Pool α β γ σ) :
    (concludeQuit quitting).2.lanes = quitting.2.lanes := by
  unfold concludeQuit
  split <;> rfl

theorem Told.conclude {quitting : List LaneStop × Pool α β γ σ} {stop : LaneStop}
    (told : quitting.2.Told stop) : (concludeQuit quitting).2.Told stop := by
  unfold Told
  rw [concludeQuit_lanes]
  exact told

theorem advanceQuit_places (p : Pool α β γ σ) (stops : List LaneStop) :
    (p.advanceQuit stops).1.map (·.place) = stops.map (·.place) := by
  unfold advanceQuit
  split
  · rfl
  · rw [concludeQuit_fst]
    exact forEach_places advanceStop_place stops p

theorem advanceQuit_lane {stops : List LaneStop} {k : Nat} (aside : k ∉ stops.map (·.place))
    (p : Pool α β γ σ) : (p.advanceQuit stops).2.lanes[k]? = p.lanes[k]? := by
  unfold advanceQuit
  split
  · rfl
  · rw [concludeQuit_lanes]
    exact forEach_lane advanceStop_touches aside p

theorem advanceQuit_told (h : Handler α β γ σ) {stops : List LaneStop}
    (told : ∀ stop ∈ stops, p.Told stop) :
    ∀ stop ∈ (p.advanceQuit stops).1, (p.advanceQuit stops).2.Told stop := by
  unfold advanceQuit
  split
  · exact told
  · rw [concludeQuit_fst]
    have evolves (p : Pool α β γ σ) (stop : LaneStop) : Evolves h .any p (p.advanceStop stop).2 :=
      advanceStop_evolves trivial p stop
    have all := forEach_gives (Q := Told) evolves (fun later told => told.evolves later)
      fun p' later stop mem => advanceStop_told ((told stop mem).evolves later)
    exact fun stop mem => (all stop mem).conclude

/-- A call that goes on closes the mailboxes of its lanes whose tickers have ended. -/
theorem advanceQuit_closes (h : Handler α β γ σ) {stops : List LaneStop}
    (told : ∀ stop ∈ stops, p.Told stop) {k : Nat} (mine : k ∈ stops.map (·.place))
    {lane : Lane α β γ} (at_ : p.lanes[k]? = some lane) (ended : lane.tickerEnded = true) :
    ∃ lane', (p.advanceQuit stops).2.lanes[k]? = some lane' ∧ lane'.mailbox.closed = true := by
  obtain ⟨stop, mem, rfl⟩ := List.mem_map.mp mine
  unfold advanceQuit
  split
  · next past =>
    obtain ⟨lane', there, has⟩ := told stop mem
    have last : stop.stage = .finished := by
      simpa using List.all_eq_true.mp past stop mem
    exact ⟨lane', there, has.closed (by simp [last])⟩
  · rw [concludeQuit_lanes]
    have evolves (p : Pool α β γ σ) (stop : LaneStop) : Evolves h .any p (p.advanceStop stop).2 :=
      advanceStop_evolves trivial p stop
    let Closed (p' : Pool α β γ σ) (stop' : LaneStop) : Prop := stop'.place = stop.place →
      ∃ lane', p'.lanes[stop.place]? = some lane' ∧ lane'.mailbox.closed = true
    have kept {p p' : Pool α β γ σ} {stop' : LaneStop} (later : Evolves h .any p p')
        (closed : Closed p stop') : Closed p' stop' := by
      intro here
      obtain ⟨lane', there, shut⟩ := closed here
      obtain ⟨lane'', events, there', -, moves⟩ := later.lane there
      exact ⟨lane'', there', moves.closed shut⟩
    have each (p' : Pool α β γ σ) (later : Evolves h .any p p') (stop' : LaneStop)
        (mem' : stop' ∈ stops) : Closed (p'.advanceStop stop').2 (p'.advanceStop stop').1 := by
      intro here
      rw [advanceStop_place] at here
      obtain ⟨lane', events, there, -, moves⟩ := later.lane at_
      rw [← here] at there ⊢
      exact advanceStop_closes ((told stop' mem').evolves later) there (moves.ticker_over ended)
    have all := forEach_gives (Q := Closed) evolves kept each
    obtain ⟨stop', mem', same⟩ : ∃ stop' ∈ (forEach advanceStop stops p).1,
        stop'.place = stop.place := by
      rw [← List.mem_map, forEach_places advanceStop_place]
      exact List.mem_map_of_mem mem
    exact all stop' mem' same

theorem beginQuit_places (p : Pool α β γ σ) :
    p.beginQuit.1.map (·.place) = p.roster.entries.map Prod.snd := by
  rw [beginQuit_eq, concludeQuit_fst, forEach_places beginStop_place]
  exact List.map_id _

theorem beginQuit_told (h : Handler α β γ σ) (sound : p.Sound) :
    ∀ stop ∈ p.beginQuit.1, p.beginQuit.2.Told stop := by
  have evolves (p : Pool α β γ σ) (place : Nat) : Evolves h .any p (p.beginStop place).2 :=
    beginStop_evolves trivial p place
  have all := forEach_gives (Q := Told) (p := p.emptied) (f := beginStop) evolves
    (fun later told => told.evolves later)
    fun p' later place listed => by
      obtain ⟨entry, mem, rfl⟩ := List.mem_map.mp listed
      obtain ⟨lane, at_, -⟩ := sound.lane (OrderedMap.get?_eq_some_iff.mpr mem)
      obtain ⟨lane', events, there, -, -⟩ := later.lane at_
      exact beginStop_told there
  rw [beginQuit_eq, concludeQuit_fst]
  exact fun stop mem => (all stop mem).conclude

/-! ### Which lanes are live -/

theorem Grown.live {count k : Nat} (grown : Grown p count p') (live : p'.Live k) :
    p.Live k ∨ ∃ i, i < count ∧ k = p.lanes.length + i := by
  obtain ⟨id, listed⟩ := live
  rw [grown.roster] at listed
  split at listed
  · exact .inr ⟨(id - p.laneCount - 1).toNat, by omega, (Option.some.inj listed).symm⟩
  · exact .inl ⟨id, listed⟩

theorem Reroute.live {changes : List RouteChange} {k : Nat} (change : Reroute p changes p')
    (same : .grown ∉ changes) (live : p'.Live k) : p.Live k := by
  obtain ⟨id, listed⟩ := live
  cases change with
  | keep same => exact ⟨id, by rw [← same.roster, listed]⟩
  | grow => simp at same
  | draw => exact ⟨id, listed⟩
  | pin => exact ⟨id, listed⟩
  | forget => exact ⟨id, listed⟩
  | empty => simp [emptied, note] at listed

theorem Reroutes.live {changes : List RouteChange} {k : Nat} (rerouted : Reroutes p changes p')
    (same : .grown ∉ changes) (live : p'.Live k) : p.Live k := by
  induction rerouted with
  | refl => exact live
  | tail _ last ih =>
    simp only [List.mem_append, not_or] at same
    exact ih same.1 (last.live same.2 live)

end Pool

/-! ### Lanes along a run -/

namespace RunningPool
variable {α β γ σ : Type} {h : Handler α β γ σ}

/-- Nobody has told a live lane to stop, and the calls of quit have told those of their stops. -/
structure Orderly (s : RunningPool α β γ σ) : Prop where
  sound : s.pool.Sound
  kept : ∀ {k : Nat} {lane : Lane α β γ}, s.pool.lanes[k]? = some lane → lane.Kept
  untold : ∀ {k : Nat} {lane : Lane α β γ}, s.pool.Live k → s.pool.lanes[k]? = some lane →
    lane.Untold
  told : ∀ stops ∈ s.quits, ∀ stop ∈ stops, s.pool.Told stop ∧ ¬ s.pool.Live stop.place

variable {s : RunningPool α β γ σ}

theorem start_orderly (config : PoolConfig) (generator : Generator) (memory : σ) :
    (start config generator memory : RunningPool α β γ σ).Orderly where
  sound := .new config generator memory
  kept at_ := by simp [start, Pool.new] at at_
  untold _ at_ := by simp [start, Pool.new] at at_
  told := by simp [start]

theorem apply_evolves_hosted (s : RunningPool α β γ σ) (step : Step α γ σ) (up : step ≠ .abort) :
    Pool.Evolves h .hosted s.pool (s.apply h step).pool :=
  s.apply_evolves_within (fun _ _ => trivial) (Step.within_hosted up)

/-- Routing stays sound and lanes are kept in any step; what is left to see is who was told. -/
theorem Orderly.step (orderly : s.Orderly) (step : Step α γ σ) (up : step ≠ .abort)
    (untold : ∀ {k : Nat} {lane : Lane α β γ}, (s.apply h step).pool.Live k →
      (s.apply h step).pool.lanes[k]? = some lane → lane.Untold)
    (told : ∀ stops ∈ (s.apply h step).quits, ∀ stop ∈ stops,
      (s.apply h step).pool.Told stop ∧ ¬ (s.apply h step).pool.Live stop.place) :
    (s.apply h step).Orderly := by
  have evolves := s.apply_evolves_hosted (h := h) step up
  refine ⟨s.apply_sound step orderly.sound, ?_, untold, told⟩
  intro k lane at_
  obtain ⟨first, events, was | ⟨-, id, tick, rfl⟩, -, moves⟩ := evolves.origin at_
  · exact moves.kept (fun down => down) (orderly.kept was)
  · exact moves.kept (fun down => down) (.new ..)

theorem Orderly.grow (orderly : s.Orderly) (count : Nat) (tick : Option Duration) :
    (s.apply h (.grow count tick)).Orderly := by
  obtain ⟨cause, -, eq⟩ | ⟨-, -, grown⟩ := s.pool.grow_cases count tick
  · have same : s.apply h (.grow count tick) = s := by simp [apply, perform, eq]
    rw [same]
    exact orderly
  · have evolves := s.apply_evolves_hosted (h := h) (.grow count tick) (by simp)
    refine orderly.step _ (by simp) ?_ ?_
    · intro k lane live at_
      rcases grown.live live with ⟨id, listed⟩ | ⟨i, below, rfl⟩
      · obtain ⟨first, was, -⟩ := orderly.sound.lane listed
        have below := (List.getElem?_eq_some_iff.mp was).1
        exact orderly.untold ⟨id, listed⟩ ((grown.old k below).symm.trans at_)
      · obtain ⟨capacity, tick, there⟩ := grown.new i below
        obtain rfl := Option.some.inj (there.symm.trans at_)
        exact .new ..
    · intro stops mem stop on
      obtain ⟨told, dead⟩ := orderly.told stops mem stop on
      refine ⟨told.evolves evolves, ?_⟩
      intro live
      rcases grown.live live with before | ⟨i, -, new⟩
      · exact dead before
      · -- the new lanes come behind all those that there were
        obtain ⟨lane, at_, -⟩ := told
        have below := (List.getElem?_eq_some_iff.mp at_).1
        omega

theorem Orderly.quit (orderly : s.Orderly) : (s.apply h .quit).Orderly := by
  have evolves := s.apply_evolves_hosted (h := h) (.quit) (by simp)
  have dead (k : Nat) : ¬ (s.apply h .quit).pool.Live k := by
    rintro ⟨id, listed⟩
    rw [apply, s.pool.beginQuit_routes.roster] at listed
    simp [Pool.emptied, Pool.note] at listed
  refine orderly.step _ (by simp) (fun {k lane} live => absurd live (dead k))
    fun stops mem stop on => ⟨?_, dead _⟩
  rcases List.mem_append.mp mem with old | new
  · exact (orderly.told stops old stop on).1.evolves evolves
  · obtain rfl := List.mem_singleton.mp new
    exact Pool.beginQuit_told h orderly.sound stop on

theorem apply_resume {call : Nat} {stops : List LaneStop} (waits : s.quits[call]? = some stops) :
    s.apply h (.resume call) =
      ⟨(s.pool.advanceQuit stops).2, s.quits.set call (s.pool.advanceQuit stops).1⟩ := by
  simp [apply, waits]

theorem Orderly.resume (orderly : s.Orderly) (call : Nat) :
    (s.apply h (.resume call)).Orderly := by
  have evolves := s.apply_evolves_hosted (h := h) (.resume call) (by simp)
  have step := orderly.step (h := h) (.resume call) (by simp)
  cases waits : s.quits[call]? with
  | none =>
    have same : s.apply h (.resume call) = s := by simp [apply, waits]
    rw [same]
    exact orderly
  | some stops =>
    have known := orderly.told stops (List.mem_of_getElem? waits)
    have live {k : Nat} (alive : (s.pool.advanceQuit stops).2.Live k) : s.pool.Live k := by
      rwa [Pool.Live, (s.pool.advanceQuit_routes stops).roster] at alive
    rw [apply_resume waits] at evolves step ⊢
    refine step ?_ ?_
    · intro k lane alive at_
      have aside : k ∉ stops.map (·.place) := by
        intro mine
        obtain ⟨stop, on, rfl⟩ := List.mem_map.mp mine
        exact (known stop on).2 (live alive)
      rw [Pool.advanceQuit_lane aside] at at_
      exact orderly.untold (live alive) at_
    · intro stops' mem stop on
      rcases List.mem_or_eq_of_mem_set mem with old | rfl
      · obtain ⟨told, dead⟩ := orderly.told stops' old stop on
        exact ⟨told.evolves evolves, fun alive => dead (live alive)⟩
      · refine ⟨Pool.advanceQuit_told h (fun stop on => (known stop on).1) stop on, ?_⟩
        obtain ⟨stop', on', same⟩ : ∃ stop' ∈ stops, stop'.place = stop.place := by
          rw [← List.mem_map, ← s.pool.advanceQuit_places stops]
          exact List.mem_map_of_mem on
        rw [← same]
        exact fun alive => (known stop' on').2 (live alive)

/-- A step that adds no lanes and concerns no call of quit leaves live lanes untold. -/
theorem Orderly.aside (orderly : s.Orderly) (step : Step α γ σ)
    (within : step.Within .unstopped) (same : .grown ∉ step.changes)
    (quits : (s.apply h step).quits = s.quits) (up : step ≠ .abort) :
    (s.apply h step).Orderly := by
  have evolves : Pool.Evolves h .unstopped s.pool (s.apply h step).pool :=
    s.apply_evolves_within (fun _ _ => trivial) within
  obtain ⟨changes, rerouted, only⟩ := s.apply_reroutes (h := h) step
  have live {k : Nat} (alive : (s.apply h step).pool.Live k) : s.pool.Live k :=
    rerouted.live (fun grown => same (only grown)) alive
  refine orderly.step step up ?_ ?_
  · intro k lane alive at_
    obtain ⟨id, listed⟩ := live alive
    obtain ⟨first, was, -⟩ := orderly.sound.lane listed
    obtain ⟨lane', events, there, -, moves⟩ := evolves.lane was
    obtain rfl : lane' = lane := Option.some.inj (there.symm.trans at_)
    exact moves.untold (fun told => told) (fun down => down) (orderly.untold ⟨id, listed⟩ was)
  · intro stops mem stop on
    rw [quits] at mem
    obtain ⟨told, dead⟩ := orderly.told stops mem stop on
    exact ⟨told.evolves evolves, fun alive => dead (live alive)⟩

theorem apply_orderly {step : Step α γ σ} (orderly : s.Orderly) (up : step ≠ .abort) :
    (s.apply h step).Orderly := by
  have aside := orderly.aside (h := h) step
  cases step with
  | grow count tick => exact orderly.grow count tick
  | quit => exact orderly.quit
  | resume call => exact orderly.resume call
  | abort => exact absurd rfl up
  | _ => exact aside (by simp [Step.Within, Influence.unstopped]) (by simp [Step.changes]) rfl up

theorem run_orderly {steps : List (Step α γ σ)} (orderly : s.Orderly) (up : .abort ∉ steps) :
    (run h steps s).Orderly := by
  induction steps generalizing s with
  | nil => exact orderly
  | cons step steps ih =>
    obtain ⟨here, later⟩ := not_or.mp (mt List.mem_cons.mpr up)
    exact ih (apply_orderly orderly (Ne.symm here)) later

end RunningPool

/-! ### The way to the end -/

namespace Pool
variable {α β γ σ : Type} {h : Handler α β γ σ} {p : Pool α β γ σ} {place : Nat}
  {lane : Lane α β γ}

/-- A cancelled ticker ends as soon as it wakes up. -/
theorem tick_ends (now : Moment) (at_ : p.lanes[place]? = some lane)
    (cancelled : lane.Cancelled) :
    ∃ lane', (p.tick now place).lanes[place]? = some lane' ∧ lane'.tickerEnded = true := by
  rcases p.tick_cases now place with ⟨idle, eq⟩ | ⟨other, metronome, at', has, -, beaten⟩
  · rw [eq]
    refine ⟨lane, at_, ?_⟩
    unfold Lane.tickerEnded
    cases has : lane.metronome with
    | none => rfl
    | some metronome =>
      have rests := idle lane metronome at_ has
      unfold Metronome.due at rests
      cases phase : metronome.phase <;>
        simp [phase, cancelled metronome has, MetronomePhase.ended] at rests ⊢
  · obtain rfl : lane = other := Option.some.inj (at_.symm.trans at')
    rcases beaten with ⟨-, eq⟩ | ⟨goes, -⟩
    · rw [eq]
      obtain ⟨fired, -⟩ := lane_fire
        (show (p.announced place lane.id metronome).lanes[place]? = some lane by simp [at_])
      have kept := lane.beat_keeps.2.1
      unfold orphanIfAbandoned
      split <;>
        simp [updateMetronome, fired, kept, has, Lane.tickerEnded, Metronome.stop,
          MetronomePhase.ended]
    · rw [cancelled metronome has] at goes
      cases goes

theorem consume_consumes (now : Moment) (at_ : p.lanes[place]? = some lane)
    (busy : lane.mailbox.turn ≠ .wait) :
    ∃ lane' events, (p.consume h now place).lanes[place]? = some lane' ∧
      LaneEvent.inMailbox ((p.consume h now place).laneEvents place) =
        LaneEvent.inMailbox (p.laneEvents place) ++ events ∧
      Mailbox.Consumption lane.mailbox events lane'.mailbox := by
  simp only [consume, at_]
  cases turn : lane.mailbox.turn with
  | wait => exact absurd turn busy
  | start =>
    exact ⟨_, [.started], by simpa [enter] using lane_updateLane_self at_ _, by simp [enter],
      .start turn⟩
  | drain =>
    exact ⟨_, [.draining lane.mailbox.size], by simpa [enter] using lane_updateLane_self at_ _,
      by simp [enter], .drain turn⟩
  | dispatch envelope =>
    obtain ⟨during, mailbox, outcome, table, meanwhile, -, -, there, -, told⟩ :=
      lane_dispatch h now envelope at_
    exact ⟨_, _, there, by simp [told], .dispatch (some outcome) turn meanwhile.sendings⟩
  | finish =>
    refine ⟨{ lane with mailbox := lane.mailbox.enter .stopped }, _, ?_, ?_,
      .finish (some (h.onQuit lane.id now p.memory).1) turn⟩
    · simp [finish, enter, at_]
    · simp [finish, enter]

/-- A step of the consumer brings a closed mailbox nearer to its end. -/
theorem consume_closed (now : Moment) (at_ : p.lanes[place]? = some lane)
    (closed : lane.mailbox.closed = true) :
    ∃ lane', (p.consume h now place).lanes[place]? = some lane' ∧
      lane'.mailbox.closed = true ∧ lane'.mailbox.remaining ≤ lane.mailbox.remaining - 1 := by
  have shut : lane.mailbox.sealed = true := by simp [Mailbox.sealed, closed]
  by_cases idle : lane.mailbox.turn = .wait
  · have still : p.consume h now place = p := by simp only [consume, at_, idle]
    have past := Mailbox.remaining_eq_zero_of_wait shut idle
    rw [still]
    exact ⟨lane, at_, closed, by omega⟩
  · obtain ⟨lane', events, there, -, consumed⟩ := consume_consumes now at_ idle
    obtain ⟨still, none⟩ := consumed.closed closed
    have nearer := consumed.remaining_lt none
    exact ⟨lane', there, still, by omega⟩

end Pool

namespace RunningPool
variable {α β γ σ : Type} {h : Handler α β γ σ} {s : RunningPool α β γ σ} {k : Nat}
  {lane : Lane α β γ}

/-- Whether the step is one of the consumer of the lane at a place. -/
def Step.consumes (k : Nat) : Step α γ σ → Bool
  | .consume _ place => place = k
  | _ => false

/-- The call of quit stops the lane at the place. -/
def Awaits (s : RunningPool α β γ σ) (call k : Nat) : Prop :=
  ∃ stops, s.quits[call]? = some stops ∧ k ∈ stops.map (·.place)

/-- A call that has finished has finished the stop of each lane that it stops. -/
theorem Awaits.finished {call : Nat} {stops : List LaneStop} (awaits : s.Awaits call k)
    (waits : s.quits[call]? = some stops) (all : Pool.stopsFinished stops = true) :
    ⟨k, .finished⟩ ∈ stops := by
  obtain ⟨stops', waits', mine⟩ := awaits
  obtain rfl : stops = stops' := Option.some.inj (waits.symm.trans waits')
  obtain ⟨stop, on, rfl⟩ := List.mem_map.mp mine
  have last : stop.stage = .finished := by
    simpa using List.all_eq_true.mp all stop on
  exact last ▸ on

theorem quit_awaits (live : s.pool.Live k) : (s.apply h .quit).Awaits s.quits.length k := by
  obtain ⟨id, listed⟩ := live
  refine ⟨s.pool.beginQuit.1, by simp [apply], ?_⟩
  rw [Pool.beginQuit_places]
  exact List.mem_map_of_mem (OrderedMap.get?_eq_some_iff.mp listed)

theorem apply_awaits {call : Nat} (awaits : s.Awaits call k) (step : Step α γ σ) :
    (s.apply h step).Awaits call k := by
  obtain ⟨stops, waits, mine⟩ := awaits
  have below : call < s.quits.length := (List.getElem?_eq_some_iff.mp waits).1
  cases step with
  | quit => exact ⟨stops, by simpa [apply, List.getElem?_append_left below] using waits, mine⟩
  | resume other =>
    cases found : s.quits[other]? with
    | none => exact ⟨stops, by simpa [apply, found] using waits, mine⟩
    | some stops' =>
      rw [apply_resume found]
      by_cases same : other = call
      · subst same
        obtain rfl := Option.some.inj (found.symm.trans waits)
        refine ⟨(s.pool.advanceQuit stops').1, by simp [below], ?_⟩
        rwa [Pool.advanceQuit_places]
      · exact ⟨stops, by simpa [List.getElem?_set_ne same] using waits, mine⟩
  | _ => exact ⟨stops, waits, mine⟩

theorem run_awaits {call : Nat} (awaits : s.Awaits call k) (steps : List (Step α γ σ)) :
    (run h steps s).Awaits call k :=
  run_keeps (P := fun s => s.Awaits call k) (fun _ step awaits => apply_awaits awaits step) steps
    awaits

/-- The ticker of a lane that was told to stop is over after it has woken up once. -/
theorem apply_tick_ends (orderly : s.Orderly) {call : Nat} (awaits : s.Awaits call k)
    (now : Moment) :
    ∃ lane, (s.apply h (.tick now k)).pool.lanes[k]? = some lane ∧ lane.tickerEnded = true := by
  obtain ⟨stops, waits, mine⟩ := awaits
  obtain ⟨stop, on, rfl⟩ := List.mem_map.mp mine
  obtain ⟨lane, at_, told⟩ := (orderly.told stops (List.mem_of_getElem? waits) stop on).1
  rcases told.way with ⟨-, cancelled⟩ | closed
  · exact Pool.tick_ends now at_ cancelled
  · -- the mailbox is not closed before the ticker has ended
    have ended := (orderly.kept at_).ended_of_closed closed
    obtain ⟨lane', events, there, -, moves⟩ :=
      (s.apply_evolves (h := h) (.tick now stop.place)).lane at_
    exact ⟨lane', there, moves.ticker_over ended⟩

theorem apply_resume_closes (orderly : s.Orderly) {call : Nat} (awaits : s.Awaits call k)
    (at_ : s.pool.lanes[k]? = some lane) (ended : lane.tickerEnded = true) :
    ∃ lane', (s.apply h (.resume call)).pool.lanes[k]? = some lane' ∧
      lane'.mailbox.closed = true := by
  obtain ⟨stops, waits, mine⟩ := awaits
  have told := orderly.told stops (List.mem_of_getElem? waits)
  rw [apply_resume waits]
  exact Pool.advanceQuit_closes h (fun stop on => (told stop on).1) mine at_ ended

/-- As many steps of its consumer as it has left bring a closed lane to its end, whatever else
happens in between. -/
theorem run_closed {steps : List (Step α γ σ)} (at_ : s.pool.lanes[k]? = some lane)
    (closed : lane.mailbox.closed = true)
    (enough : lane.mailbox.remaining ≤ steps.countP (Step.consumes k)) :
    ∃ lane', (run h steps s).pool.lanes[k]? = some lane' ∧ lane'.mailbox.phase.ended = true := by
  induction steps generalizing s lane with
  | nil =>
    simp only [List.countP_nil, Nat.le_zero] at enough
    exact ⟨lane, at_, Mailbox.remaining_eq_zero_iff.mp enough⟩
  | cons step steps ih =>
    rw [List.countP_cons] at enough
    cases mine : step.consumes k with
    | false =>
      obtain ⟨lane', events, there, -, moves⟩ := (s.apply_evolves (h := h) step).lane at_
      obtain ⟨still, -, le⟩ := moves.mailbox.closed closed
      simp only [mine, Bool.false_eq_true, if_false] at enough
      exact ih there still (by omega)
    | true =>
      cases step with
      | consume now place =>
        obtain rfl : place = k := by simpa [Step.consumes] using mine
        obtain ⟨lane', there, still, nearer⟩ := Pool.consume_closed (h := h) now at_ closed
        simp only [mine, if_true] at enough
        exact ih there still (by omega)
      | _ => simp [Step.consumes] at mine

/-- The mailbox of a lane that was told to stop is closed once the ticker has woken up and the call
of quit has gone on after that. -/
theorem run_closes (orderly : s.Orderly) {call : Nat} (awaits : s.Awaits call k)
    {first second : List (Step α γ σ)} (now : Moment) (up₁ : .abort ∉ first)
    (up₂ : .abort ∉ second) :
    ∃ lane, (run h (first ++ .tick now k :: (second ++ [.resume call])) s).pool.lanes[k]? =
      some lane ∧ lane.mailbox.closed = true := by
  have orderly₁ : (run h first s).Orderly := run_orderly orderly up₁
  have orderly₂ : ((run h first s).apply h (.tick now k)).Orderly :=
    apply_orderly orderly₁ (by simp)
  have awaits₁ : (run h first s).Awaits call k := run_awaits awaits first
  have awaits₂ := apply_awaits (h := h) awaits₁ (.tick now k)
  obtain ⟨lane, at_, ended⟩ := apply_tick_ends (h := h) orderly₁ awaits₁ now
  obtain ⟨lane', events, there, -, moves⟩ := (run_evolves (h := h) second _).lane at_
  rw [run_append, run_cons, run_append, run_cons, run_nil]
  exact apply_resume_closes (run_orderly orderly₂ up₂) (run_awaits awaits₂ second) there
    (moves.ticker_over ended)

/-- After that the lane comes to its end as soon as its consumer has taken enough steps. -/
theorem run_stops (orderly : s.Orderly) {call : Nat} (awaits : s.Awaits call k)
    (at_ : s.pool.lanes[k]? = some lane) {first second third : List (Step α γ σ)} {now : Moment}
    (up : .abort ∉ first ++ .tick now k :: (second ++ .resume call :: third))
    (enough : lane.mailbox.capacity + 3 ≤ third.countP (Step.consumes k)) :
    ∃ lane', (run h (first ++ .tick now k :: (second ++ .resume call :: third)) s).pool.lanes[k]? =
      some lane' ∧ lane'.mailbox.phase = .stopped := by
  let begun := first ++ .tick now k :: (second ++ [.resume call])
  have split : first ++ .tick now k :: (second ++ .resume call :: third) = begun ++ third := by
    simp [begun]
  rw [split] at up ⊢
  have past : (run h (begun ++ third) s).Orderly := run_orderly orderly up
  rw [run_append] at past ⊢
  obtain ⟨up₁, -⟩ := not_or.mp (mt List.mem_append.mpr up)
  have between : (run h begun s).Orderly := run_orderly orderly up₁
  simp only [begun, List.mem_append, List.mem_cons, not_or] at up₁
  obtain ⟨lane₁, there, closed⟩ : ∃ lane₁, (run h begun s).pool.lanes[k]? = some lane₁ ∧
      lane₁.mailbox.closed = true := run_closes orderly awaits now up₁.1 up₁.2.2.1
  have room : lane₁.mailbox.remaining ≤ lane.mailbox.capacity + 3 := by
    obtain ⟨lane', events, there', -, moves⟩ := (run_evolves (h := h) begun s).lane at_
    obtain rfl : lane' = lane₁ := Option.some.inj (there'.symm.trans there)
    calc lane'.mailbox.remaining ≤ lane'.mailbox.size + 3 := lane'.mailbox.remaining_le
      _ ≤ lane'.mailbox.capacity + 3 := Nat.add_le_add_right (between.kept there).fits 3
      _ = lane.mailbox.capacity + 3 := by rw [moves.capacity]
  obtain ⟨lane₂, there₂, ended⟩ := run_closed (h := h) there closed (Nat.le_trans room enough)
  exact ⟨lane₂, there₂, (past.kept there₂).stopped ended⟩

end RunningPool
end Lanes
