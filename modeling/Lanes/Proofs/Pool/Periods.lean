import Lanes.Proofs.Pool.Abandonment
import Lanes.Proofs.Ticker.Period

/-!
# Periods of the tickers of a pool

The ticker of a lane takes its period from the pool's configuration or from whoever adds the lane,
and either may be zero; then the default is taken. What retimes it later is checked as any period
is. So the period is positive from the start, every move of a lane keeps it so, and a beat is never
followed by another one at the same moment.
-/
namespace Lanes

open Duration (IsPeriod)

/-- What becomes of a number of seconds as a period: it is granted exactly if it stands for one, and
otherwise nothing changes. -/
structure Retimes {state : Type} (seconds : Binary64) (before : state)
    (retimed : Duration → state) (call : Except Error Unit × state) : Prop where
  ok_iff : call.1 = .ok () ↔ ∃ nanos, IsPeriod seconds nanos
  granted : ∀ nanos, IsPeriod seconds nanos → call = (.ok (), retimed ⟨nanos⟩)
  refused : (¬ ∃ nanos, IsPeriod seconds nanos) →
    ∃ reason, call = (.error (.invalidArgument reason), before)

namespace Retimes
variable {state : Type} {seconds : Binary64} {before : state} {retimed : Duration → state}
  {call : Except Error Unit × state}

theorem of_granted {nanos : ℕ} (is : IsPeriod seconds nanos)
    (eq : call = (.ok (), retimed ⟨nanos⟩)) : Retimes seconds before retimed call where
  ok_iff := by simpa [eq] using ⟨nanos, is⟩
  granted other also := by rw [eq, is.unique also]
  refused none := absurd ⟨nanos, is⟩ none

theorem of_refused (none : ∀ nanos, ¬ IsPeriod seconds nanos) {reason : String}
    (eq : call = (.error (.invalidArgument reason), before)) :
    Retimes seconds before retimed call where
  ok_iff := by simpa [eq] using none
  granted nanos is := absurd is (none nanos)
  refused _ := ⟨reason, eq⟩

end Retimes

theorem Ticker.retime_retimes {σ : Type} (t : Ticker σ) (seconds : Binary64) :
    Retimes seconds t (fun period => { t with metronome := { t.metronome with period } })
      (t.retime seconds) := by
  obtain ⟨nanos, is, ok⟩ | ⟨none, reason, failed⟩ := t.metronome.retime_cases seconds
  · exact .of_granted is (by simp only [Ticker.retime, ok])
  · have eq : t.retime seconds = (.error (.invalidArgument reason), t) := by
      simp only [Ticker.retime, failed]
    exact .of_refused none eq

/-! ### Lanes -/

namespace Lane
variable {α β γ σ : Type} {h : Handler α β γ σ} {outer : Influence α γ} {lane lane' : Lane α β γ}
  {events : List (LaneEvent α β)}

/-- The period of the ticker is positive, if there is one. -/
def Paced (lane : Lane α β γ) : Prop :=
  ∀ metronome, lane.metronome = some metronome → 0 < metronome.period.nanos

theorem Paced.new (id : LaneId) (capacity : Nat) (tick : Option Duration) :
    (Lane.new id capacity tick : Lane α β γ).Paced := by
  intro metronome has
  obtain ⟨period, -, rfl⟩ := Option.map_eq_some_iff.mp has
  exact Duration.orDefault_pos (by decide)

theorem Paced.of_period (paced : lane.Paced)
    (same : lane'.tickPeriod = lane.tickPeriod) : lane'.Paced := by
  intro metronome has
  have period : lane.tickPeriod = some metronome.period := by rw [← same, tickPeriod, has]; rfl
  obtain ⟨before, had, eq⟩ := Option.map_eq_some_iff.mp period
  exact eq ▸ paced before had

theorem retime_paced {seconds : Binary64} (ok : lane.retime seconds = .ok lane') :
    lane'.Paced := by
  obtain ⟨metronome, retimed, -, told, rfl⟩ := retime_ok ok
  obtain ⟨period, positive, rfl⟩ := Metronome.retime_ok told
  rintro _ ⟨rfl⟩
  exact positive

theorem Move.paced (m : Move h outer lane events lane') (paced : lane.Paced) : lane'.Paced := by
  cases m with
  | retime ok => exact retime_paced ok
  | @closeTicker metronome _ _ has ok =>
    refine paced.of_period ?_
    unfold Metronome.close? at ok
    split at ok
    · cases ok
    · obtain rfl := Except.ok.inj ok
      simp [tickPeriod, has]
  | @dispatch envelope =>
    refine paced.of_period ?_
    cases envelope.payload <;> rfl
  | beat now has => exact paced.of_period (by simp [tickPeriod, has, Metronome.rest])
  | lastBeat now has => exact paced.of_period (by simp [tickPeriod, has, Metronome.stop])
  | abortTicker _ has running =>
    exact paced.of_period (by simp [tickPeriod, has, Metronome.abort, running])
  | _ => exact paced

theorem Paced.abandoned (paced : lane.Paced) : lane.abandoned.Paced := by
  refine paced.of_period ?_
  unfold Lane.abandoned
  split
  · rfl
  · cases has : lane.metronome <;> simp [tickPeriod, has, Metronome.drop]

end Lane

/-! ### Pools -/

namespace Pool
variable {α β γ σ : Type} {h : Handler α β γ σ} {outer : Influence α γ} {p p' : Pool α β γ σ}

theorem retime_retimes {place : Nat} {lane : Lane α β γ} {metronome : Metronome}
    (at_ : p.lanes[place]? = some lane) (has : lane.metronome = some metronome)
    (seconds : Binary64) :
    Retimes seconds p
      (fun period =>
        p.updateLane place (fun _ => { lane with metronome := some { metronome with period } }))
      (p.retime place seconds) := by
  obtain ⟨nanos, is, ok⟩ | ⟨none, reason, failed⟩ := metronome.retime_cases seconds
  · exact .of_granted is (by simp only [Pool.retime, at_, Lane.retime, has, ok, Except.map])
  · have eq : p.retime place seconds = (.error (.invalidArgument reason), p) := by
      simp only [Pool.retime, at_, Lane.retime, has, failed, Except.map]
    exact .of_refused none eq

/-- The periods of all tickers are positive. -/
def Paced (p : Pool α β γ σ) : Prop :=
  ∀ (k : Nat) (lane : Lane α β γ), p.lanes[k]? = some lane → lane.Paced

theorem Evolves.paced (e : Evolves h outer p p') (paced : p.Paced) : p'.Paced := by
  intro k lane at_
  obtain ⟨first, events, before | ⟨-, id, tick, rfl⟩, -, moves⟩ := e.origin at_
  · exact moves.keeps Lane.Move.paced (paced k first before)
  · exact moves.keeps Lane.Move.paced (.new id p.config.capacity tick)

theorem Paced.abandonLane (paced : p.Paced) (place : Nat) : (p.abandonLane place).Paced := by
  intro k lane at_
  by_cases here : place = k
  · subst here
    cases before : p.lanes[place]? with
    | none =>
      simp only [Pool.abandonLane, before] at at_
      exact paced place lane (before ▸ at_)
    | some held =>
      obtain rfl := Option.some.inj ((lane_abandonLane before).1.symm.trans at_)
      exact (paced place held before).abandoned
  · rw [(p.abandonLane_touches place).lanes k (Ne.symm here)] at at_
    exact paced k lane at_

theorem Paced.foldl_abandonLane (paced : p.Paced) (places : List Nat) :
    (places.foldl Pool.abandonLane p).Paced := by
  induction places generalizing p with
  | nil => exact paced
  | cons place rest ih => exact ih (paced.abandonLane place)

theorem Paced.abandon (paced : p.Paced) : p.abandon.Paced := by
  have emptied : Pool.Paced { p with roster := .empty, routes := .empty, laneCount := 0 } := paced
  exact emptied.foldl_abandonLane (p.roster.entries.map Prod.snd)

/-- After a beat the ticker has nothing to do at the same moment. -/
theorem Paced.tickerDue_tick (paced : p.Paced) (now : Moment) (k : Nat) :
    (p.tick now k).tickerDue now k = false := by
  obtain ⟨idle, eq⟩ | ⟨lane, metronome, at_, has, -, beaten⟩ := p.tick_cases now k
  · rw [eq]
    cases at_ : p.lanes[k]? with
    | none => simp [tickerDue, at_]
    | some lane =>
      cases has : lane.metronome with
      | none => simp [tickerDue, at_, has]
      | some metronome => simpa [tickerDue, at_, has] using idle lane metronome at_ has
  · have kept := lane.beat_keeps.2.1
    obtain ⟨fired, -⟩ := lane_fire
      (show (p.announced k lane.id metronome).lanes[k]? = some lane by simp [at_])
    rcases beaten with ⟨-, eq⟩ | ⟨goes, eq⟩
    · rw [eq]
      cases lane.dropped <;>
        simp [tickerDue, orphanIfAbandoned, updateMetronome, fired, kept, has, Metronome.due,
          Metronome.stop]
    · have rested : (p.tick now k).tickerDue now k = (metronome.rest now).due now := by
        rw [eq]
        simp [tickerDue, updateMetronome, fired, kept, has]
      rw [rested]
      by_contra due
      have told := Metronome.due_rest (paced k lane at_ metronome has) now (by simpa using due)
      simp [goes] at told

end Pool

namespace RunningPool
variable {α β γ σ : Type} {h : Handler α β γ σ} {s : RunningPool α β γ σ}

/-- The pools that there can be, held by somebody or abandoned. -/
inductive Reachable (h : Handler α β γ σ) : RunningPool α β γ σ → Prop
  | start (config : PoolConfig) (generator : Generator) (memory : σ) :
      Reachable h (start config generator memory)
  | step {s : RunningPool α β γ σ} (step : Step α γ σ) (before : Reachable h s) :
      Reachable h (s.apply h step)
  | abandon {s : RunningPool α β γ σ} (before : Reachable h s) : Reachable h s.abandon

theorem Reachable.paced (reachable : Reachable h s) : s.pool.Paced := by
  induction reachable with
  | start config generator memory =>
    intro k lane at_
    simp [RunningPool.start, Pool.new] at at_
  | step step _ ih => exact (apply_evolves (h := h) _ step).paced ih
  | abandon _ ih => exact ih.abandon

end RunningPool

open RunningPool in
/-- A number of seconds is granted as a period exactly if it stands for one, by tickers as by lanes,
and else it is refused and nothing changes. So no ticker, whatever it was made with and whatever has
happened since, has a period of less than a nanosecond, and none beats twice at a moment unless it
was told to end. -/
theorem retiming_is_exact_and_keeps_pace {α β γ σ τ : Type} (h : Handler α β γ σ)
    (seconds : Binary64) :
    (∀ t : Ticker τ, Retimes seconds t
      (fun period => { t with metronome := { t.metronome with period } }) (t.retime seconds)) ∧
    (∀ (p : Pool α β γ σ) (place : Nat) (lane : Lane α β γ) (metronome : Metronome),
      p.lanes[place]? = some lane → lane.metronome = some metronome → Retimes seconds p
        (fun period =>
          p.updateLane place (fun _ => { lane with metronome := some { metronome with period } }))
        (p.retime place seconds)) ∧
    (∀ t : Ticker τ, t.Reachable → 1 ≤ t.metronome.period.nanos ∧
      ∀ now, (t.wake now).metronome.due now = true → (t.wake now).metronome.cancelled = true) ∧
    (∀ s : RunningPool α β γ σ, Reachable h s → ∀ k lane metronome,
      s.pool.lanes[k]? = some lane → lane.metronome = some metronome →
        1 ≤ metronome.period.nanos ∧ ∀ now, (s.pool.tick now k).tickerDue now k = false) := by
  refine ⟨fun t => t.retime_retimes seconds, ?lanes, ?tickers, ?pools⟩
  case lanes => exact fun p place lane metronome at_ has => Pool.retime_retimes at_ has seconds
  case tickers => exact fun t reachable => ⟨reachable.paced, fun now => reachable.paced.due_wake now⟩
  case pools =>
    intro s reachable k lane metronome at_ has
    exact ⟨reachable.paced k lane at_ metronome has, fun now => reachable.paced.tickerDue_tick now k⟩

open RunningPool in
/-- The 1024th part of a second lies halfway between two numbers of nanoseconds. It is set where the
period was asked to be zero. -/
theorem halfway_period_is_even :
    let seconds : Binary64 := ⟨0x3f50000000000000⟩
    let ticker := Ticker.new ⟨0⟩ none ()
    let s := run diarist [.grow 1 (some ⟨0⟩)] (start ⟨3, ⟨0⟩⟩ (.seeded 0) [])
    IsPeriod seconds 976562 ∧
    ticker.metronome.period = defaultTickPeriod ∧
    ((ticker.retime seconds).1 = .ok () ∧
      (ticker.retime seconds).2.metronome.period = ⟨976562⟩ ∧
      ((ticker.retime seconds).2.wake 0).metronome.due 0 = false) ∧
    ∃ lane metronome, s.pool.lanes[0]? = some lane ∧ lane.metronome = some metronome ∧
      metronome.period = defaultTickPeriod ∧ (s.pool.tick 0 0).tickerDue 0 0 = false ∧
      s.pool.retime 0 seconds = (.ok (), s.pool.updateLane 0 (fun _ =>
        { lane with metronome := some { metronome with period := ⟨976562⟩ } })) := by
  intro seconds ticker s
  have rounded : Duration.period? seconds = .ok ⟨976562⟩ := by decide +kernel
  have period : IsPeriod seconds 976562 := Duration.period?_eq_ok_iff.mp rounded
  obtain ⟨tickers, lanes, beats, pools⟩ :=
    @retiming_is_exact_and_keeps_pace _ _ _ _ Unit diarist seconds
  have granted := (tickers ticker).granted 976562 period
  obtain ⟨lane, metronome, at_, has, default⟩ : ∃ lane metronome,
      s.pool.lanes[0]? = some lane ∧ lane.metronome = some metronome ∧
      metronome.period = defaultTickPeriod := ⟨_, _, rfl, rfl, rfl⟩
  have reachable : Reachable diarist s :=
    .step (.grow 1 (some ⟨0⟩)) (.start ⟨3, ⟨0⟩⟩ (.seeded 0) [])
  refine ⟨period, rfl, ⟨by rw [granted], by rw [granted], ?_⟩, lane, metronome, at_, has, default,
    (pools s reachable 0 lane metronome at_ has).2 0,
    (lanes s.pool 0 lane metronome at_ has).granted 976562 period⟩
  cases due : ((ticker.retime seconds).2.wake 0).metronome.due 0 with
  | false => rfl
  | true =>
    have reached : (ticker.retime seconds).2.Reachable :=
      .meddle (.retime seconds) (.new ⟨0⟩ none ())
    have told := (beats (ticker.retime seconds).2 reached).2 0 due
    exact told.symm.trans (by decide +kernel)

end Lanes
