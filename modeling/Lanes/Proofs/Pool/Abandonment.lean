import Lanes.Proofs.Lane.Dismissal
import Lanes.Proofs.Pool.Population

/-!
# Abandoned pools

A pool that nobody holds any more forgets its lanes just as one that is told to quit, and cancels
their tickers. No call is there to close the mailboxes, but each loses its last sender when its
ticker ends. In either case the steps of the tasks after that are steps of dismissed lanes, so that
the handler is called for the same, lane by lane, if the tasks take their turns in the same order.
-/
namespace Lanes

namespace Lane
variable {α β γ : Type}

/-- The lane once its only holder is gone. -/
def abandoned (lane : Lane α β γ) : Lane α β γ :=
  if lane.tickerEnded then { lane with dropped := true, mailbox := lane.mailbox.orphan }
  else { lane with dropped := true, metronome := lane.metronome.map (·.drop) }

def abandonEvents (lane : Lane α β γ) : List (LaneEvent α β) :=
  if lane.tickerEnded then [.mailbox .orphaned] else [.ticker .cancelled]

/-- The ticker beats at most once more. -/
def Spent (lane : Lane α β γ) : Prop := lane.tickerEnded = true ∨ lane.Cancelled

variable {lane : Lane α β γ}

theorem abandonEvents_quiet (lane : Lane α β γ) :
    Mailbox.Quiet (LaneEvent.inMailbox lane.abandonEvents) := by
  unfold abandonEvents
  split <;> exact ⟨rfl, rfl, rfl⟩

theorem spares_abandoned (lane : Lane α β γ) : lane.Spares lane.abandoned := by
  unfold abandoned
  split
  · next ended => exact ⟨rfl, rfl, rfl, rfl, rfl, fun running => by simp [ended] at running⟩
  · refine ⟨rfl, rfl, rfl, rfl, ?_, fun _ => rfl⟩
    cases has : lane.metronome <;> simp [tickerEnded, has, Metronome.drop]

/-- A lane that runs and is abandoned is adrift. -/
theorem Untold.adrift (untold : lane.Untold) (kept : lane.Kept) : lane.abandoned.Adrift := by
  unfold abandoned
  cases ended : lane.tickerEnded with
  | true =>
    refine ⟨rfl, ?_, untold.closed, ended.symm, by simp [Mailbox.orphan], kept.hosted, kept.fits⟩
    intro metronome has
    simp [untold.running (show lane.metronome = some metronome from has)] at ended
  | false =>
    refine ⟨rfl, ?_, untold.closed, ?_, fun _ => kept.admits untold.closed, kept.hosted,
      kept.fits⟩
    · intro metronome has
      obtain ⟨before, -, rfl⟩ := Option.map_eq_some_iff.mp has
      simp [Metronome.cancelled, Metronome.drop]
    · have same := lane.spares_abandoned.tickerEnded
      simp only [abandoned, ended, Bool.false_eq_true, if_false] at same
      exact kept.orphaned.trans same.symm

/-- A lane that runs takes what there is room for. -/
theorem Untold.open (untold : lane.Untold) (kept : lane.Kept) (metered : lane.Metered) :
    lane.Open :=
  ⟨untold.closed, kept.orphaned, kept.admits untold.closed, metered⟩

end Lane

namespace Pool
variable {α β γ σ : Type} {h : Handler α β γ σ} {p p' p'' : Pool α β γ σ} {place k : Nat}
  {lane : Lane α β γ}

/-! ### What leaves lanes to themselves -/

/-- The lane at a place has been spared. -/
def Spares (k : Nat) (p p' : Pool α β γ σ) : Prop :=
  ∀ lane, p.lanes[k]? = some lane → ∃ lane' events, p'.lanes[k]? = some lane' ∧
    p'.laneEvents k = p.laneEvents k ++ events ∧ Mailbox.Quiet (LaneEvent.inMailbox events) ∧
    lane.Spares lane'

theorem Spares.of_same (lanes : p'.lanes[k]? = p.lanes[k]?)
    (events : p'.laneEvents k = p.laneEvents k) : Spares k p p' :=
  fun lane at_ => ⟨lane, [], lanes.trans at_, by rw [events, List.append_nil], .nil, .refl lane⟩

theorem Spares.refl (p : Pool α β γ σ) : Spares k p p := .of_same rfl rfl

theorem Spares.trans (a : Spares k p p') (b : Spares k p' p'') : Spares k p p'' := by
  intro lane at_
  obtain ⟨lane', events, there, told, quiet, spares⟩ := a lane at_
  obtain ⟨lane'', more, there', told', quiet', spares'⟩ := b lane' there
  refine ⟨lane'', events ++ more, there', by rw [told', told, List.append_assoc], ?_,
    spares.trans spares'⟩
  rw [LaneEvent.inMailbox_append]
  exact quiet.append quiet'

/-- What touches another lane, or spares the one that it touches. -/
theorem Spares.of_touches (touches : Touches place p p') (here : place = k → Spares k p p') :
    Spares k p p' := by
  by_cases same : place = k
  · exact here same
  · exact .of_same (touches.lanes k (Ne.symm same)) (touches.laneEvents k (Ne.symm same))

theorem Spares.note (p : Pool α β γ σ) {event : PoolEvent α β}
    (quiet : Mailbox.Quiet (LaneEvent.inMailbox (event.at? k).toList)) :
    Spares k p (p.note event) :=
  fun lane at_ => ⟨lane, (event.at? k).toList, at_, p.laneEvents_note event k, quiet, .refl lane⟩

theorem Spares.noteTicker (p : Pool α β γ σ) (id : LaneId) (event : Metronome.Event) :
    Spares k p (p.noteTicker place id event) :=
  .note p (by simp only [PoolEvent.at?_ticker]; split <;> exact ⟨rfl, rfl, rfl⟩)

theorem closeMailbox_spares (at_ : p.lanes[place]? = some lane) (ended : lane.tickerEnded = true) :
    Spares k p (p.closeMailbox place lane) := by
  refine .of_touches (p.closeMailbox_touches place lane) ?_
  rintro rfl lane' at'
  obtain rfl : lane = lane' := Option.some.inj (at_.symm.trans at')
  unfold closeMailbox
  cases ok : lane.mailbox.close? with
  | error cause => exact Spares.refl p lane at_
  | ok mailbox =>
    obtain ⟨-, rfl⟩ := Mailbox.close?_eq_ok_iff.mp ok
    refine ⟨{ lane with mailbox := { lane.mailbox with closed := true } }, [.mailbox .closed],
      by simp [at_], by simp, ⟨rfl, rfl, rfl⟩, rfl, rfl, rfl, rfl, rfl, ?_⟩
    intro running
    exact absurd (running.symm.trans ended) (by simp)

theorem passTicker_spares (p : Pool α β γ σ) (stop : LaneStop) :
    Spares k p (p.passTicker stop).2 := by
  unfold passTicker
  split
  · next lane _ at_ =>
    split
    · next none => exact closeMailbox_spares at_ (by simp [Lane.tickerEnded, none])
    · next metronome has =>
      split
      · next ended =>
        have past : lane.tickerEnded = true := by simp [Lane.tickerEnded, has, ended]
        dsimp only
        split
        · exact (Spares.noteTicker p lane.id _).trans
            (closeMailbox_spares (by simpa using at_) past)
        · exact closeMailbox_spares at_ past
      · exact .refl p
  · exact .refl p

theorem passConsumer_spares (p : Pool α β γ σ) (stop : LaneStop) :
    Spares k p (p.passConsumer stop).2 := by
  have stopped (p : Pool α β γ σ) (id : LaneId) : Spares k p (p.note (.stopped id)) :=
    .note p ⟨rfl, rfl, rfl⟩
  unfold passConsumer
  split
  · next lane _ _ =>
    split
    · dsimp only
      split
      · refine Spares.trans (.note p ?_) (stopped _ lane.id)
        simp only [PoolEvent.at?_mailbox]
        split <;> exact ⟨rfl, rfl, rfl⟩
      · exact stopped p lane.id
    · exact .refl p
  · exact .refl p

theorem advanceStop_spares (p : Pool α β γ σ) (stop : LaneStop) :
    Spares k p (p.advanceStop stop).2 :=
  (p.passTicker_spares stop).trans (passConsumer_spares _ _)

theorem beginStop_spares (p : Pool α β γ σ) (place : Nat) :
    Spares k p (p.beginStop place).2 := by
  unfold beginStop
  cases at_ : p.lanes[place]? with
  | none => exact .refl p
  | some lane =>
    simp only
    cases has : lane.metronome with
    | none => exact p.advanceStop_spares ⟨place, .ticker⟩
    | some metronome =>
      simp only
      cases ok : metronome.close? with
      | error cause => exact p.advanceStop_spares ⟨place, .ticker⟩
      | ok closed =>
        obtain ⟨-, rfl⟩ := Metronome.close?_eq_ok_iff.mp ok
        refine Spares.trans ?_ (advanceStop_spares _ ⟨place, .ticker⟩)
        refine .of_touches ((updateMetronome_touches ..).trans (.noteTicker _ lane.id _)) ?_
        rintro rfl lane' at'
        obtain rfl : lane = lane' := Option.some.inj (at_.symm.trans at')
        refine ⟨{ lane with metronome := some { metronome with closed := true } },
          [.ticker .cancelled], by simp [updateMetronome, at_, has], by simp [updateMetronome],
          ⟨rfl, rfl, rfl⟩, rfl, rfl, rfl, rfl, by simp [Lane.tickerEnded, has], fun _ => rfl⟩

theorem forEach_spares {ι : Type} {f : Pool α β γ σ → ι → LaneStop × Pool α β γ σ}
    (each : ∀ p x, Spares k p (f p x).2) (list : List ι) (p : Pool α β γ σ) :
    Spares k p (forEach f list p).2 := by
  induction list generalizing p with
  | nil => exact .refl p
  | cons x rest ih => exact (each p x).trans (ih _)

theorem concludeQuit_spares (quitting : List LaneStop × Pool α β γ σ) :
    Spares k quitting.2 (concludeQuit quitting).2 := by
  unfold concludeQuit
  split
  · exact .note _ ⟨rfl, rfl, rfl⟩
  · exact .refl _

theorem beginQuit_spares (p : Pool α β γ σ) : Spares k p p.beginQuit.2 := by
  have forgotten : Spares k p { p with roster := .empty, routes := .empty, laneCount := 0 } :=
    .of_same rfl rfl
  have emptied : Spares k p p.emptied := forgotten.trans (.note _ ⟨rfl, rfl, rfl⟩)
  rw [beginQuit_eq]
  exact (emptied.trans (forEach_spares beginStop_spares _ _)).trans (concludeQuit_spares _)

theorem advanceQuit_spares (p : Pool α β γ σ) (stops : List LaneStop) :
    Spares k p (p.advanceQuit stops).2 := by
  unfold advanceQuit
  split
  · exact .refl p
  · exact (forEach_spares advanceStop_spares stops p).trans (concludeQuit_spares _)

/-! ### Abandonment -/

theorem abandonLane_touches (p : Pool α β γ σ) (place : Nat) :
    Touches place p (p.abandonLane place) := by
  unfold abandonLane
  split
  · exact .refl p
  · next lane _ =>
    dsimp only
    split
    · exact (Touches.updateLane p _).trans (orphanIfAbandoned_touches ..)
    · exact ((Touches.updateLane p _).trans (updateMetronome_touches ..)).trans
        (.noteTicker _ lane.id _)

theorem lane_abandonLane (at_ : p.lanes[place]? = some lane) :
    (p.abandonLane place).lanes[place]? = some lane.abandoned ∧
      (p.abandonLane place).laneEvents place = p.laneEvents place ++ lane.abandonEvents := by
  simp only [abandonLane, at_, Lane.abandoned, Lane.abandonEvents]
  cases lane.tickerEnded <;> simp [orphanIfAbandoned, updateMetronome, at_]

theorem foldl_abandonLane_touches {places : List Nat} (aside : k ∉ places) (p : Pool α β γ σ) :
    (places.foldl abandonLane p).lanes[k]? = p.lanes[k]? ∧
      (places.foldl abandonLane p).laneEvents k = p.laneEvents k := by
  induction places generalizing p with
  | nil => exact ⟨rfl, rfl⟩
  | cons place rest ih =>
    obtain ⟨here, later⟩ := not_or.mp (mt List.mem_cons.mpr aside)
    have touches := p.abandonLane_touches place
    obtain ⟨lanes, events⟩ := ih later (p.abandonLane place)
    exact ⟨lanes.trans (touches.lanes k here), events.trans (touches.laneEvents k here)⟩

theorem foldl_abandonLane_routes (places : List Nat) (p : Pool α β γ σ) :
    RoutesAs p (places.foldl abandonLane p) := by
  induction places generalizing p with
  | nil => exact .refl p
  | cons place rest ih => exact (p.abandonLane_touches place).routes.trans (ih _)

theorem abandon_vacant (p : Pool α β γ σ) : p.abandon.Vacant := by
  have same := foldl_abandonLane_routes (p.roster.entries.map Prod.snd)
    { p with roster := .empty, routes := .empty, laneCount := 0 }
  exact ⟨same.laneCount, same.roster, same.routes⟩

/-- Each live lane is abandoned once. -/
theorem Sound.abandon_live (sound : p.Sound) (live : p.Live k)
    (at_ : p.lanes[k]? = some lane) :
    p.abandon.lanes[k]? = some lane.abandoned ∧
      p.abandon.laneEvents k = p.laneEvents k ++ lane.abandonEvents := by
  obtain ⟨id, listed⟩ := live
  have mem : k ∈ p.roster.entries.map Prod.snd :=
    List.mem_map_of_mem (OrderedMap.get?_eq_some_iff.mp listed)
  obtain ⟨front, back, split⟩ := List.append_of_mem mem
  have apart := sound.places_nodup
  rw [split, List.nodup_append] at apart
  have before : k ∉ front := fun mem => apart.2.2 k mem k (by simp) rfl
  have behind : k ∉ back := (List.nodup_cons.mp apart.2.1).1
  let emptied : Pool α β γ σ := { p with roster := .empty, routes := .empty, laneCount := 0 }
  obtain ⟨lanes, events⟩ := foldl_abandonLane_touches before emptied
  obtain ⟨there, told⟩ := lane_abandonLane (lanes.trans at_)
  obtain ⟨lanes', events'⟩ :=
    foldl_abandonLane_touches behind ((front.foldl abandonLane emptied).abandonLane k)
  have eq : p.abandon =
      back.foldl abandonLane ((front.foldl abandonLane emptied).abandonLane k) := by
    rw [abandon, split, List.foldl_append, List.foldl_cons]
  rw [eq]
  exact ⟨lanes'.trans there, events'.trans (told.trans (congrArg (· ++ _) events))⟩

/-- Lanes that are not live are not concerned. -/
theorem abandon_dead (dead : ¬ p.Live k) :
    p.abandon.lanes[k]? = p.lanes[k]? ∧ p.abandon.laneEvents k = p.laneEvents k := by
  have aside : k ∉ p.roster.entries.map Prod.snd := by
    intro mem
    obtain ⟨entry, listed, rfl⟩ := List.mem_map.mp mem
    exact dead ⟨entry.1, OrderedMap.get?_eq_some_iff.mpr listed⟩
  exact foldl_abandonLane_touches aside
    { p with roster := .empty, routes := .empty, laneCount := 0 }

/-! ### Tasks of a pool without lanes -/

/-- Nothing that a handler sends finds a lane. -/
theorem run_forward_vacant {result : Type} (vacant : p.Vacant)
    (call : Call (Forward α) (Except Error Unit) result) : (call.run forward p).2 = p := by
  induction call with
  | done => rfl
  | ask question resume ih =>
    have refused : forward question p = (.error (.noSuchWorker question.lane), p) := by
      simp [forward, place?, vacant.roster]
    rw [Call.run_ask, refused]
    exact ih _

theorem handle_vacant (h : Handler α β γ σ) (now : Moment) (id : LaneId) (table : Table γ)
    (message : LaneMessage α) (vacant : p.Vacant) : (handle h now id table message p).2 = p := by
  cases message with
  | request request => exact run_forward_vacant vacant (h.process id now request table p.memory)
  | tick => rfl

/-- A dispatch in such a pool concerns no other lane. -/
theorem dispatch_vacant (h : Handler α β γ σ) (now : Moment)
    (envelope : Envelope (LaneMessage α)) (vacant : p.Vacant)
    (at_ : p.lanes[place]? = some lane) :
    Touches place p (p.dispatch h now place lane envelope) ∧
    ∃ outcome table, h.Handles lane.id lane.table envelope.payload outcome table ∧
      (p.dispatch h now place lane envelope).lanes[place]? =
        some { lane.take envelope.payload with
          mailbox := lane.mailbox.take.answer envelope (Mailbox.verdict (some outcome))
          table } ∧
      (p.dispatch h now place lane envelope).laneEvents place = p.laneEvents place ++
        [.mailbox (.dispatched envelope (some outcome))] := by
  let taken := p.updateLane place (fun l => l.take envelope.payload)
  have still : taken.Vacant := ⟨vacant.laneCount, vacant.roster, vacant.routes⟩
  have same := handle_vacant h now lane.id lane.table envelope.payload still
  have results := handle_handles h now lane.id lane.table envelope.payload taken
  have there := lane_updateLane_self at_ (fun l => l.take envelope.payload)
  refine ⟨?_, _, _, results, ?_, ?_⟩
  · have remembered (memory : σ) : Touches place taken { taken with memory } :=
      ⟨⟨rfl, rfl, rfl, rfl, rfl⟩, fun _ _ => rfl, fun _ _ => rfl⟩
    have touches : Touches place p taken := .updateLane p _
    simp only [dispatch]
    rw [same]
    exact (touches.trans (remembered _)).trans
      ((Touches.updateLane _ _).trans (.noteMailbox _ lane.id _))
  · simp only [dispatch]
    rw [same]
    simp [at_, taken]
  · simp only [dispatch]
    rw [same]
    simp [taken]

/-! ### Tasks of dismissed lanes -/

/-- A turn of the consumer of the lane at a place. -/
theorem consume_ebbs (h : Handler α β γ σ) (now : Moment) (vacant : p.Vacant)
    (at_ : p.lanes[place]? = some lane) :
    Touches place p (p.consume h now place) ∧
    ∃ lane' events, (p.consume h now place).lanes[place]? = some lane' ∧
      (p.consume h now place).laneEvents place = p.laneEvents place ++ events ∧
      Lane.Ebb h .consumer lane events lane' := by
  simp only [consume, at_]
  cases turn : lane.mailbox.turn with
  | wait => exact ⟨.refl p, lane, [], at_, by simp, .wait turn⟩
  | start =>
    exact ⟨p.enter_touches place lane.id _ _, _, _,
      by simpa [enter] using lane_updateLane_self at_ _, by simp [enter], .start turn⟩
  | drain =>
    exact ⟨p.enter_touches place lane.id _ _, _, _,
      by simpa [enter] using lane_updateLane_self at_ _, by simp [enter], .drain turn⟩
  | dispatch envelope =>
    obtain ⟨touches, outcome, table, handled, there, told⟩ :=
      dispatch_vacant h now envelope vacant at_
    exact ⟨touches, _, _, there, told, .dispatch turn handled⟩
  | finish =>
    have touches : Touches place p (p.finish h now place lane.id) :=
      ⟨⟨rfl, rfl, rfl, rfl, rfl⟩, fun k ne => by simp [finish, enter, Ne.symm ne],
        fun k ne => by simp [finish, enter, Ne.symm ne]⟩
    exact ⟨touches, { lane with mailbox := lane.mailbox.enter .stopped }, _,
      by simp [finish, enter, at_], by simp [finish, enter],
      .finish (h.onQuit lane.id now p.memory).1 turn⟩

/-- The ticker of a lane that was told to stop, or abandoned, has nothing to do or beats a last
time. -/
theorem tick_ebbs (h : Handler α β γ σ) (now : Moment) (at_ : p.lanes[place]? = some lane)
    (spent : lane.Spent) :
    ∃ lane' events, (p.tick now place).lanes[place]? = some lane' ∧
      (p.tick now place).laneEvents place = p.laneEvents place ++ events ∧
      Lane.Ebb h .ticker lane events lane' := by
  rcases p.tick_cases now place with ⟨-, eq⟩ | ⟨other, metronome, at', has, due, beaten⟩
  · have ended : lane.tickerEnded = true := spent.elim id fun cancelled => by
      obtain ⟨lane', there, ended⟩ := tick_ends now at_ cancelled
      rw [eq] at there
      obtain rfl : lane = lane' := Option.some.inj (at_.symm.trans there)
      exact ended
    rw [eq]
    exact ⟨lane, [], at_, by simp, .late ended⟩
  · obtain rfl : lane = other := Option.some.inj (at_.symm.trans at')
    have running := Lane.tickerEnded_of_due has due
    have cancelled : metronome.cancelled = true :=
      spent.elim (fun ended => by simp [running] at ended) fun cancelled => cancelled metronome has
    rcases beaten with ⟨-, eq⟩ | ⟨goes, -⟩
    · rw [eq]
      have told := p.laneEvents_announced place lane.id metronome
      obtain ⟨fired, rang⟩ := lane_fire
        (show (p.announced place lane.id metronome).lanes[place]? = some lane by simp [at_])
      have kept := lane.beat_keeps.2.1
      refine ⟨lane.lastBeaten metronome, lane.lastBeatEvents metronome, ?_, ?_, .lastBeat has ?_⟩
      · cases held : lane.dropped <;>
          simp [orphanIfAbandoned, Lane.lastBeaten, updateMetronome, fired, kept, has, held]
      · cases held : lane.dropped <;>
          simp [orphanIfAbandoned, Lane.lastBeatEvents, updateMetronome, rang, told, held]
      · rw [← Lane.tickerEnded_eq has, running]
    · rw [cancelled] at goes
      cases goes

/-- Nothing is left to do for the consumer and the ticker of the lane at a place. -/
def Rests (p : Pool α β γ σ) (k : Nat) : Prop :=
  p.consumerDue k = false ∧ ∀ now, p.tickerDue now k = false

theorem rests_iff (at_ : p.lanes[k]? = some lane) (spent : lane.Spent) :
    p.Rests k ↔ lane.mailbox.turn = .wait ∧ lane.tickerEnded = true := by
  have idle : p.consumerDue k = false ↔ lane.mailbox.turn = .wait := by
    simp only [consumerDue, at_]
    cases lane.mailbox.turn <;> simp
  have beatless : (∀ now, p.tickerDue now k = false) ↔ lane.tickerEnded = true := by
    simp only [tickerDue, at_, Option.bind_some, Lane.tickerEnded]
    cases has : lane.metronome with
    | none => simp
    | some metronome =>
      have cancelled : metronome.phase.ended = false → metronome.cancelled = true := by
        intro running
        refine spent.elim (fun ended => ?_) fun cancelled => cancelled metronome has
        simp [Lane.tickerEnded, has, running] at ended
      unfold Metronome.due
      cases phase : metronome.phase with
      | sleeping wakeAt =>
        simp [phase, MetronomePhase.ended, cancelled (by simp [phase, MetronomePhase.ended])]
      | _ => simp [phase, MetronomePhase.ended]
  exact and_congr idle beatless

end Pool

namespace RunningPool
variable {α β γ σ : Type} {h : Handler α β γ σ} {s : RunningPool α β γ σ} {k : Nat}
  {lane : Lane α β γ}

/-! ### Runs of tasks -/

/-- The pool is dropped while nobody holds one of its lanes. -/
def abandon (s : RunningPool α β γ σ) : RunningPool α β γ σ := { s with pool := s.pool.abandon }

/-- Whether the step is one of a consumer or a ticker. -/
def Step.isTask : Step α γ σ → Bool
  | .consume _ _ | .tick _ _ => true
  | _ => false

/-- Whether the step is one of a consumer or a ticker, or of a call of quit that goes on. -/
def Step.isBackground : Step α γ σ → Bool
  | .resume _ => true
  | step => step.isTask

/-- Whose step it is for the lane at a place, if it concerns that lane. -/
def Step.actor? (k : Nat) : Step α γ σ → Option Actor
  | .consume _ place => if place = k then some .consumer else none
  | .tick _ place => if place = k then some .ticker else none
  | .resume _ => some .caller
  | _ => none

/-- How many turns the consumer of the lane at a place has before the first one of its ticker. -/
def turnsBeforeTick (k : Nat) (steps : List (Step α γ σ)) : Nat :=
  headway (steps.filterMap (Step.actor? k))

theorem apply_ebbs {step : Step α γ σ} (background : step.isBackground = true)
    (vacant : s.pool.Vacant) (at_ : s.pool.lanes[k]? = some lane) (spent : lane.Spent) :
    ∃ lane' events, (s.apply h step).pool.lanes[k]? = some lane' ∧
      (s.apply h step).pool.laneEvents k = s.pool.laneEvents k ++ events ∧
      Lane.Ebbs h (step.actor? k).toList lane events lane' := by
  have elsewhere {place : Nat} (apart : place ≠ k)
      (touches : Pool.Touches place s.pool (s.apply h step).pool) :
      ∃ lane' events, (s.apply h step).pool.lanes[k]? = some lane' ∧
        (s.apply h step).pool.laneEvents k = s.pool.laneEvents k ++ events ∧
        Lane.Ebbs h [] lane events lane' :=
    ⟨lane, [], (touches.lanes k (Ne.symm apart)).trans at_,
      by rw [touches.laneEvents k (Ne.symm apart), List.append_nil], .nil lane⟩
  cases step with
  | consume now place =>
    by_cases here : place = k
    · subst here
      obtain ⟨-, lane', events, there, told, ebb⟩ := Pool.consume_ebbs h now vacant at_
      exact ⟨lane', events, there, told, by simpa [Step.actor?] using Lane.Ebbs.single ebb⟩
    · have touches : Pool.Touches place s.pool (s.pool.consume h now place) := by
        cases there : s.pool.lanes[place]? with
        | none =>
          simp only [Pool.consume, there]
          exact .refl _
        | some other => exact (Pool.consume_ebbs h now vacant there).1
      simpa [Step.actor?, here] using elsewhere here touches
  | tick now place =>
    by_cases here : place = k
    · subst here
      obtain ⟨lane', events, there, told, ebb⟩ := Pool.tick_ebbs h now at_ spent
      exact ⟨lane', events, there, told, by simpa [Step.actor?] using Lane.Ebbs.single ebb⟩
    · simpa [Step.actor?, here] using elsewhere here (s.pool.tick_touches now place)
  | resume call =>
    obtain ⟨lane', events, there, told, quiet, spares⟩ : ∃ lane' events,
        (s.apply h (.resume call)).pool.lanes[k]? = some lane' ∧
        (s.apply h (.resume call)).pool.laneEvents k = s.pool.laneEvents k ++ events ∧
        Mailbox.Quiet (LaneEvent.inMailbox events) ∧ lane.Spares lane' := by
      have spared : Pool.Spares k s.pool (s.apply h (.resume call)).pool := by
        simp only [apply]
        split
        · exact .refl _
        · exact s.pool.advanceQuit_spares _
      exact spared lane at_
    exact ⟨lane', events, there, told, .single (.aside quiet spares)⟩
  | _ => simp [Step.isBackground, Step.isTask] at background

theorem isBackground_of_isTask {step : Step α γ σ} (task : step.isTask = true) :
    step.isBackground = true := by
  cases step <;> simp [Step.isTask] at task <;> rfl

theorem count_consumer (k : Nat) (steps : List (Step α γ σ)) :
    (steps.filterMap (Step.actor? k)).count .consumer = steps.countP (Step.consumes k) := by
  induction steps with
  | nil => rfl
  | cons step steps ih =>
    cases step with
    | consume now place => by_cases here : place = k <;> simp [Step.actor?, Step.consumes, here, ih]
    | tick now place => by_cases here : place = k <;> simp [Step.actor?, Step.consumes, here, ih]
    | _ => simp [List.filterMap_cons, Step.actor?, Step.consumes, ih]

/-- No caller takes part in the steps of tasks. -/
theorem not_mem_actors {steps : List (Step α γ σ)}
    (running : ∀ step ∈ steps, step.isTask = true) :
    .caller ∉ steps.filterMap (Step.actor? k) := by
  rw [List.mem_filterMap]
  rintro ⟨step, mem, actor⟩
  have task := running step mem
  cases step <;> simp [Step.isTask, Step.actor?] at task actor

theorem apply_background {step : Step α γ σ} (background : step.isBackground = true)
    (vacant : s.pool.Vacant) : (s.apply h step).pool.Vacant := by
  refine apply_vacant ?_ vacant
  cases step with
  | grow => simp [Step.isBackground, Step.isTask] at background
  | _ => exact id

/-- In a pool without lanes the tasks of a lane that was told to stop, or abandoned, take the steps
of a dismissed lane. -/
theorem run_ebbs {steps : List (Step α γ σ)}
    (background : ∀ step ∈ steps, step.isBackground = true) (vacant : s.pool.Vacant)
    (at_ : s.pool.lanes[k]? = some lane) (spent : lane.Spent) :
    ∃ lane' events, (run h steps s).pool.lanes[k]? = some lane' ∧
      (run h steps s).pool.laneEvents k = s.pool.laneEvents k ++ events ∧
      Lane.Ebbs h (steps.filterMap (Step.actor? k)) lane events lane' ∧ lane'.Spent := by
  induction steps generalizing s lane with
  | nil => exact ⟨lane, [], at_, by simp, .nil lane, spent⟩
  | cons step steps ih =>
    obtain ⟨here, later⟩ := List.forall_mem_cons.mp background
    obtain ⟨lane₁, events, there, told, ebbs⟩ := apply_ebbs (h := h) here vacant at_ spent
    have spent₁ : lane₁.Spent := by
      obtain ⟨other, _, there', -, moves⟩ := (s.apply_evolves (h := h) step).lane at_
      obtain rfl : lane₁ = other := Option.some.inj (there.symm.trans there')
      exact spent.imp moves.ticker_over moves.cancelled
    obtain ⟨lane₂, more, there₂, told₂, ebbs₂, spent₂⟩ :=
      ih later (apply_background here vacant) there spent₁
    refine ⟨lane₂, events ++ more, there₂, ?_, ?_, spent₂⟩
    · rw [run_cons, told₂, told, List.append_assoc]
    · have all := ebbs.trans ebbs₂
      cases mine : step.actor? k with
      | none => simpa [List.filterMap_cons, mine] using all
      | some actor => simpa [List.filterMap_cons, mine] using all

/-- Calls of quit that go on make no difference to whose turns come first. -/
theorem turnsBeforeTick_filter (k : Nat) (steps : List (Step α γ σ)) :
    turnsBeforeTick k (steps.filter Step.isTask) = turnsBeforeTick k steps := by
  unfold turnsBeforeTick
  induction steps with
  | nil => rfl
  | cons step steps ih =>
    cases step with
    | consume now place =>
      by_cases here : place = k <;> simp [List.filter_cons, Step.isTask, Step.actor?, here, ih]
    | tick now place =>
      by_cases here : place = k <;> simp [List.filter_cons, Step.isTask, Step.actor?, here, ih]
    | _ => simp [List.filterMap_cons, Step.isTask, Step.actor?, ih]

/-! ### Dismissal -/

/-- A lane that is not live any more has stopped, if all calls of quit have finished. -/
theorem Orderly.stopped_of_dead (orderly : s.Orderly) (accounted : s.Accounted)
    (settled : ∀ stops ∈ s.quits, Pool.stopsFinished stops = true) (dead : ¬ s.pool.Live k)
    (at_ : s.pool.lanes[k]? = some lane) :
    lane.mailbox.phase = .stopped ∧ lane.tickerEnded = true := by
  obtain ⟨call, stops, waits, mine⟩ := (accounted.tended at_).resolve_left dead
  have awaits : s.Awaits call k := ⟨stops, waits, mine⟩
  have finished := settled stops (List.mem_of_getElem? waits)
  have stopped := orderly.stopped_of_finished awaits waits finished at_
  have kept := orderly.kept at_
  exact ⟨stopped, kept.ended_of_closed (kept.closed_of_late (by rw [stopped]; rfl))⟩

/-- In a pool that was told to quit each ticker has been told. -/
theorem Orderly.spent (orderly : s.Orderly) (accounted : s.Accounted) (vacant : s.pool.Vacant)
    (at_ : s.pool.lanes[k]? = some lane) : lane.Spent := by
  have dead : ¬ s.pool.Live k := by
    rintro ⟨id, listed⟩
    simp [vacant.roster] at listed
  obtain ⟨call, stops, waits, mine⟩ := (accounted.tended at_).resolve_left dead
  obtain ⟨stop, on, rfl⟩ := List.mem_map.mp mine
  obtain ⟨other, at', told⟩ := (orderly.told stops (List.mem_of_getElem? waits) stop on).1
  obtain rfl : lane = other := Option.some.inj (at_.symm.trans at')
  rcases told.way with ⟨-, cancelled⟩ | closed
  · exact .inr cancelled
  · exact .inl ((orderly.kept at_).ended_of_closed closed)

/-- What abandonment makes of a lane. -/
theorem Orderly.abandon_leaves (orderly : s.Orderly) (accounted : s.Accounted)
    (settled : ∀ stops ∈ s.quits, Pool.stopsFinished stops = true)
    (at_ : s.pool.lanes[k]? = some lane) :
    ∃ lane' events, s.abandon.pool.lanes[k]? = some lane' ∧
      s.abandon.pool.laneEvents k = s.pool.laneEvents k ++ events ∧
      Mailbox.Quiet (LaneEvent.inMailbox events) ∧ lane.Spares lane' ∧ lane'.Spent ∧
      lane'.Leaving := by
  by_cases live : s.pool.Live k
  · obtain ⟨there, told⟩ := orderly.sound.abandon_live live at_
    have adrift := (orderly.untold live at_).adrift (orderly.kept at_)
    exact ⟨_, _, there, told, lane.abandonEvents_quiet, lane.spares_abandoned,
      .inr adrift.cancelled, .inl adrift⟩
  · obtain ⟨lanes, events⟩ := Pool.abandon_dead live
    obtain ⟨stopped, ended⟩ := orderly.stopped_of_dead accounted settled live at_
    exact ⟨lane, [], lanes.trans at_, by rw [List.append_nil]; exact events, .nil, .refl lane,
      .inl ended, .inr ⟨stopped, ended⟩⟩

/-- The lane at a place since it was dismissed. -/
structure Dismissed (s t : RunningPool α β γ σ) (k : Nat) (first lane : Lane α β γ)
    (events : List (LaneEvent α β)) (turns : Nat) : Prop where
  there : t.pool.lanes[k]? = some lane
  told : t.pool.laneEvents k = s.pool.laneEvents k ++ events
  departs : lane.mailbox.phase = .stopped →
    Lane.Departs first (s.pool.laneEvents k) events turns

section Ends
variable {first : Lane α β γ} {id : LaneId} {capacity : Nat} {tick : Option Duration}

/-- As long as its ticker runs, a lane of such a pool takes what there is room for. -/
theorem Orderly.open (orderly : s.Orderly) (accounted : s.Accounted)
    (settled : ∀ stops ∈ s.quits, Pool.stopsFinished stops = true)
    (born : Lane.Moves h .hosted (Lane.new id capacity tick) (s.pool.laneEvents k) first)
    (at_ : s.pool.lanes[k]? = some first) (running : first.tickerEnded = false) : first.Open := by
  by_cases live : s.pool.Live k
  · exact (orderly.untold live at_).open (orderly.kept at_)
      (born.metered (fun down => down) (.new ..))
  · simp [(orderly.stopped_of_dead accounted settled live at_).2] at running

/-- How a lane of a dropped pool ends. -/
theorem Orderly.abandoned_ends (orderly : s.Orderly) (accounted : s.Accounted)
    (settled : ∀ stops ∈ s.quits, Pool.stopsFinished stops = true)
    (born : Lane.Moves h .hosted (Lane.new id capacity tick) (s.pool.laneEvents k) first)
    (at_ : s.pool.lanes[k]? = some first) {tasks : List (Step α γ σ)}
    (running : ∀ step ∈ tasks, step.isTask = true) :
    ∃ lane events,
      Dismissed s (run h tasks s.abandon) k first lane events (turnsBeforeTick k tasks) ∧
      ((run h tasks s.abandon).pool.Rests k ↔ lane.mailbox.phase = .stopped) ∧
      ∀ begun ending now, tasks = begun ++ .tick now k :: ending →
        first.mailbox.capacity + 3 ≤ ending.countP (Step.consumes k) →
        lane.mailbox.phase = .stopped := by
  obtain ⟨lane₀, begin, there₀, history₀, quiet, spares, spent₀, leaving⟩ :=
    orderly.abandon_leaves accounted settled at_
  obtain ⟨lane, events, there, history, ebbs, spent⟩ := run_ebbs (h := h)
    (fun step mem => isBackground_of_isTask (running step mem)) s.pool.abandon_vacant there₀ spent₀
  have alone : .caller ∉ tasks.filterMap (Step.actor? k) := not_mem_actors running
  have whole := Lane.Ebbs.cons (.aside quiet spares) ebbs
  refine ⟨lane, begin ++ events, ⟨there, ?_, ?_⟩, ?_, ?_⟩
  · rw [history, history₀, List.append_assoc]
  · intro stopped
    simpa [turnsBeforeTick] using whole.departs born (fun down => down)
      (orderly.open accounted settled born at_) (by rw [stopped]; rfl)
  · rw [Pool.rests_iff there spent]
    exact (ebbs.leaving alone leaving).over_iff
  · rintro begun ending now rfl enough
    have actors : (begun ++ .tick now k :: ending).filterMap (Step.actor? k) =
        begun.filterMap (Step.actor? k) ++ .ticker :: ending.filterMap (Step.actor? k) := by
      simp [Step.actor?]
    rw [actors] at ebbs alone
    refine ebbs.leaving_stops alone leaving ?_
    rw [spares.capacity, count_consumer]
    exact enough

/-- How a lane of a pool ends that is told to quit. -/
theorem Orderly.told_ends (orderly : s.Orderly) (accounted : s.Accounted)
    (settled : ∀ stops ∈ s.quits, Pool.stopsFinished stops = true)
    (born : Lane.Moves h .hosted (Lane.new id capacity tick) (s.pool.laneEvents k) first)
    (at_ : s.pool.lanes[k]? = some first) {quitting : List (Step α γ σ)}
    (going : ∀ step ∈ quitting, step.isBackground = true) :
    ∃ lane events,
      Dismissed s (run h quitting (s.apply h .quit)) k first lane events
        (turnsBeforeTick k quitting) ∧
      (∀ stops, (run h quitting (s.apply h .quit)).quits[s.quits.length]? = some stops →
        Pool.stopsFinished stops = true → lane.mailbox.phase = .stopped) ∧
      ∀ begun going ending now,
        quitting = begun ++ .tick now k :: (going ++ .resume s.quits.length :: ending) →
        first.mailbox.capacity + 3 ≤ ending.countP (Step.consumes k) →
        lane.mailbox.phase = .stopped := by
  have orderly₀ : (s.apply h .quit).Orderly := apply_orderly orderly (by simp)
  have vacant : (s.apply h .quit).pool.Vacant := s.pool.beginQuit_vacant
  obtain ⟨lane₀, begin, there₀, history₀, quiet, spares⟩ := s.pool.beginQuit_spares first at_
  have spent₀ : lane₀.Spent := orderly₀.spent (accounted.apply .quit) vacant there₀
  obtain ⟨lane, events, there, history, ebbs, -⟩ := run_ebbs (h := h) going vacant there₀ spent₀
  have up : .abort ∉ quitting := fun mem => by
    simpa [Step.isBackground, Step.isTask] using going _ mem
  have whole := Lane.Ebbs.cons (.aside quiet spares) ebbs
  refine ⟨lane, begin ++ events, ⟨there, ?_, ?_⟩, ?_, ?_⟩
  · rw [history, ← List.append_assoc]
    exact congrArg (· ++ events) history₀
  · intro stopped
    simpa [turnsBeforeTick] using whole.departs born (fun down => down)
      (orderly.open accounted settled born at_) (by rw [stopped]; rfl)
  · intro stops waits finished
    by_cases live : s.pool.Live k
    · have awaits := run_awaits (h := h) (quit_awaits (h := h) live) quitting
      exact (run_orderly orderly₀ up).stopped_of_finished awaits waits finished there
    · exact whole.still_stopped (orderly.stopped_of_dead accounted settled live at_).1
  · rintro begun going' ending now rfl enough
    by_cases live : s.pool.Live k
    · obtain ⟨lane', there', stopped⟩ := run_stops orderly₀ (quit_awaits live) there₀ up
        (by rw [spares.capacity]; exact enough)
      obtain rfl : lane = lane' := Option.some.inj (there.symm.trans there')
      exact stopped
    · exact whole.still_stopped (orderly.stopped_of_dead accounted settled live at_).1

end Ends

/-- Abandoned lanes end like those that were told to stop. If nobody holds a lane and no call is
under way, and the pool is dropped, the tasks of a lane have nothing left to do when it has stopped,
and not before; it stops after its ticker has had a turn and its consumer some more. Then its
handler was called, from the drop on, for each message that waited, for a last tick if none waited
and there was room when the ticker had its turn, and once for the farewell. If the pool is told to
quit instead, the same holds of the calls for each lane when quit has finished; so they are the same
if the tasks have their turns in the same order. -/
theorem abandoned_lanes_end_as_told (h : Handler α β γ σ) (config : PoolConfig)
    (generator : Generator) (memory : σ) (before tasks quitting : List (Step α γ σ))
    (up : .abort ∉ before) (running : ∀ step ∈ tasks, step.isTask = true)
    (going : ∀ step ∈ quitting, step.isBackground = true)
    (settled : ∀ stops ∈ (run h before (start config generator memory)).quits,
      Pool.stopsFinished stops = true) :
    let s := run h before (start config generator memory)
    let left := run h tasks s.abandon
    let told := run h quitting (s.apply h .quit)
    ∀ k first, s.pool.lanes[k]? = some first →
      ∃ lane events lane' events',
        Dismissed s left k first lane events (turnsBeforeTick k tasks) ∧
        Dismissed s told k first lane' events' (turnsBeforeTick k quitting) ∧
        (left.pool.Rests k ↔ lane.mailbox.phase = .stopped) ∧
        (∀ begun ending now, tasks = begun ++ .tick now k :: ending →
          first.mailbox.capacity + 3 ≤ ending.countP (Step.consumes k) →
          lane.mailbox.phase = .stopped) ∧
        (∀ stops, told.quits[s.quits.length]? = some stops → Pool.stopsFinished stops = true →
          lane'.mailbox.phase = .stopped) ∧
        (∀ begun going ending now,
          quitting = begun ++ .tick now k :: (going ++ .resume s.quits.length :: ending) →
          first.mailbox.capacity + 3 ≤ ending.countP (Step.consumes k) →
          lane'.mailbox.phase = .stopped) ∧
        (tasks = quitting.filter Step.isTask → lane.mailbox.phase = .stopped →
          lane'.mailbox.phase = .stopped → LaneEvent.calls events = LaneEvent.calls events') := by
  intro s left told k first at_
  have orderly : s.Orderly := run_orderly (start_orderly config generator memory) up
  have accounted : s.Accounted := run_accounted (start_accounted config generator memory)
  obtain ⟨id, tick, born⟩ := lane_moves_hosted up at_
  obtain ⟨lane, events, gone, rests, stops⟩ :=
    orderly.abandoned_ends accounted settled born at_ running
  obtain ⟨lane', events', dismissed, finished, stops'⟩ :=
    orderly.told_ends accounted settled born at_ going
  refine ⟨lane, events, lane', events', gone, dismissed, rests, stops, finished, stops', ?_⟩
  rintro rfl stopped stopped'
  rw [(gone.departs stopped).last, (dismissed.departs stopped').last, turnsBeforeTick_filter]

/-- Two requests wait on a lane with a ticker and room for three. -/
def waitingStart : List (Step Nat Nat (List Duty)) := tickingStart ++ [.sendTo 1 11 false]

/-- The consumer starts, the ticker beats, and the consumer goes on to the end. -/
def lastTurns : List (Step Nat Nat (List Duty)) :=
  [.consume 0 0, .tick 0 0, .consume 0 0, .consume 0 0, .consume 0 0, .consume 0 0, .consume 0 0,
    .consume 0 0]

/-- The same turns, and quit goes on behind the ticker and in the end. -/
def lastTurnsOfQuit : List (Step Nat Nat (List Duty)) :=
  [.consume 0 0, .tick 0 0, .resume 0, .consume 0 0, .consume 0 0, .consume 0 0, .consume 0 0,
    .consume 0 0, .consume 0 0, .resume 0]

theorem waitingStart_ends_as_told :
    let s := run diarist waitingStart (start ⟨3, defaultTickPeriod⟩ (.seeded 0) [])
    let left := run diarist lastTurns s.abandon
    let told := run diarist lastTurnsOfQuit (s.apply diarist .quit)
    left.pool.memory = [.request 10, .request 11, .tick, .farewell] ∧
    told.pool.memory = [.request 10, .request 11, .tick, .farewell] ∧
    left.pool.Rests 0 ∧
    ∃ first lane events lane' events', s.pool.lanes[0]? = some first ∧
      Dismissed s left 0 first lane events 1 ∧ Dismissed s told 0 first lane' events' 1 ∧
      LaneEvent.calls events = [.process 10, .process 11, .onTick, .onQuit] ∧
      LaneEvent.calls events = LaneEvent.calls events' := by
  intro s left told
  obtain ⟨first, at_, room, calls⟩ : ∃ first, s.pool.lanes[0]? = some first ∧
      first.mailbox.capacity = 3 ∧
      first.lastCalls 1 = [.process 10, .process 11, .onTick, .onQuit] :=
    ⟨_, rfl, rfl, by decide +kernel⟩
  obtain ⟨lane, events, lane', events', gone, dismissed, rests, stops, finished, -, same⟩ :=
    abandoned_lanes_end_as_told diarist ⟨3, defaultTickPeriod⟩ (.seeded 0) [] waitingStart
      lastTurns lastTurnsOfQuit (by simp [waitingStart, tickingStart])
      (by simp [lastTurns, Step.isTask])
      (by simp [lastTurnsOfQuit, Step.isBackground, Step.isTask])
      (by decide +kernel) 0 first at_
  have stopped := stops [.consume 0 0] [.consume 0 0, .consume 0 0, .consume 0 0, .consume 0 0,
    .consume 0 0, .consume 0 0] 0 rfl (by rw [room]; decide)
  obtain ⟨quits, waits, done⟩ : ∃ quits, told.quits[s.quits.length]? = some quits ∧
      Pool.stopsFinished quits = true := ⟨_, rfl, by decide +kernel⟩
  exact ⟨by decide +kernel, by decide +kernel, rests.mpr stopped, first, lane, events, lane',
    events', at_, gone, dismissed, (gone.departs stopped).last.trans calls,
    same rfl stopped (finished quits waits done)⟩

end RunningPool
end Lanes
