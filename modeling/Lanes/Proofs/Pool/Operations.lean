import Lanes.Proofs.Pool.Evolution

/-!
# Operations of a pool as evolutions

Tickers, growth, changes from outside, shutdown and the end of the host: each is an evolution of the
pool, and all but growth and the beginning of a shutdown leave the routing alone.
-/
namespace Lanes
namespace Pool
variable {α β γ σ : Type} {h : Handler α β γ σ} {outer : Influence α γ}

@[simp] theorem lanes_noteTicker (p : Pool α β γ σ) (place : Nat) (id : LaneId)
    (event : Metronome.Event) : (p.noteTicker place id event).lanes = p.lanes := rfl

@[simp] theorem laneEvents_noteTicker (p : Pool α β γ σ) (place k : Nat) (id : LaneId)
    (event : Metronome.Event) :
    (p.noteTicker place id event).laneEvents k =
      p.laneEvents k ++ if place = k then [.ticker event] else [] := by
  simp only [noteTicker, laneEvents_note, PoolEvent.at?_ticker]
  split <;> rfl

/-! ### Tickers -/

theorem fire_touches (p : Pool α β γ σ) (place : Nat) (lane : Lane α β γ) :
    Touches place p (p.fire place lane) := by
  unfold fire
  dsimp only
  cases lane.beat.2.1 with
  | none => exact (Touches.updateLane p _).trans (.noteTicker _ lane.id _)
  | some envelope =>
    exact ((Touches.updateLane p _).trans (.noteMailbox _ lane.id _)).trans
      (.noteTicker _ lane.id _)

theorem lane_fire {p : Pool α β γ σ} {place : Nat} {lane : Lane α β γ}
    (at_ : p.lanes[place]? = some lane) :
    (p.fire place lane).lanes[place]? = some lane.beat.2.2 ∧
      (p.fire place lane).laneEvents place = p.laneEvents place ++ lane.beatEvents := by
  unfold fire Lane.beatEvents
  dsimp only
  cases lane.beat.2.1 <;> simp [at_]

theorem updateMetronome_touches (p : Pool α β γ σ) (place : Nat) (f : Metronome → Metronome) :
    Touches place p (p.updateMetronome place f) :=
  .updateLane p _

theorem orphanIfAbandoned_touches (p : Pool α β γ σ) (place : Nat) (id : LaneId)
    (dropped : Bool) : Touches place p (p.orphanIfAbandoned place id dropped) := by
  unfold orphanIfAbandoned
  split
  · exact (Touches.updateLane p _).trans (.noteMailbox _ id _)
  · exact .refl p

theorem orphanIfAbandoned_evolves {p : Pool α β γ σ} {place : Nat} {lane : Lane α β γ}
    {id : LaneId} {dropped : Bool} (at_ : p.lanes[place]? = some lane) (same : lane.id = id)
    (still : lane.dropped = dropped) (ended : lane.tickerEnded = true) :
    Evolves h outer p (p.orphanIfAbandoned place id dropped) := by
  subst same still
  cases gone : lane.dropped with
  | false => exact .refl p
  | true =>
    exact .of_touches (orphanIfAbandoned_touches ..) at_ (by simp [orphanIfAbandoned, at_])
      (by simp [orphanIfAbandoned]) (.single (.orphan gone ended))

/-- The pool once the task of a ticker has said that it runs, if this is its first beat. -/
def announced (p : Pool α β γ σ) (place : Nat) (id : LaneId) (metronome : Metronome) :
    Pool α β γ σ :=
  if metronome.phase = .spawned then p.noteTicker place id (.started metronome.period) else p

@[simp] theorem lanes_announced (p : Pool α β γ σ) (place : Nat) (id : LaneId)
    (metronome : Metronome) : (p.announced place id metronome).lanes = p.lanes := by
  unfold announced
  split <;> rfl

theorem laneEvents_announced (p : Pool α β γ σ) (place : Nat) (id : LaneId)
    (metronome : Metronome) :
    (p.announced place id metronome).laneEvents place =
      p.laneEvents place ++ Lane.startEvents metronome := by
  unfold announced Lane.startEvents
  split <;> simp

theorem announced_touches (p : Pool α β γ σ) (place : Nat) (id : LaneId)
    (metronome : Metronome) : Touches place p (p.announced place id metronome) := by
  unfold announced
  split
  · exact .noteTicker p id _
  · exact .refl p

/-- A ticker has nothing to do, or it beats, and then it ends or sleeps again. -/
theorem tick_cases (now : Moment) (place : Nat) (p : Pool α β γ σ) :
    ((∀ lane metronome, p.lanes[place]? = some lane → lane.metronome = some metronome →
        metronome.due now = false) ∧ p.tick now place = p) ∨
    ∃ lane metronome, p.lanes[place]? = some lane ∧ lane.metronome = some metronome ∧
      metronome.due now = true ∧
      let fired := (p.announced place lane.id metronome).fire place lane
      (metronome.cancelled = true ∧ p.tick now place =
        ((fired.updateMetronome place (·.stop)).noteTicker place lane.id
          .stopped).orphanIfAbandoned place lane.id lane.dropped) ∨
      (metronome.cancelled = false ∧ p.tick now place =
        (fired.updateMetronome place (·.rest now)).noteTicker place lane.id
          (.resting (now.after metronome.period))) := by
  unfold tick announced
  cases at_ : p.lanes[place]? with
  | none =>
    refine .inl ⟨?_, rfl⟩
    intro lane metronome there
    cases there
  | some lane =>
    cases has : lane.metronome with
    | none =>
      refine .inl ⟨?_, by simp [has]⟩
      intro lane' metronome there ticking
      obtain rfl := Option.some.inj there
      rw [has] at ticking
      cases ticking
    | some metronome =>
      cases due : metronome.due now with
      | false =>
        refine .inl ⟨?_, by simp [has, due]⟩
        intro lane' metronome' there ticking
        obtain rfl := Option.some.inj there
        obtain rfl := Option.some.inj (has.symm.trans ticking)
        exact due
      | true =>
        refine .inr ⟨lane, metronome, rfl, has, due, ?_⟩
        cases ends : metronome.cancelled with
        | true => exact .inl ⟨rfl, by simp [has, due, ends]⟩
        | false => exact .inr ⟨rfl, by simp [has, due, ends]⟩

theorem tick_touches (now : Moment) (place : Nat) (p : Pool α β γ σ) :
    Touches place p (p.tick now place) := by
  rcases p.tick_cases now place with ⟨-, eq⟩ | ⟨lane, metronome, -, -, -, beaten⟩
  · rw [eq]
    exact .refl p
  · have fired := (p.announced_touches place lane.id metronome).trans
      (fire_touches _ place lane)
    rcases beaten with ⟨-, eq⟩ | ⟨-, eq⟩
    · rw [eq]
      exact (fired.trans ((updateMetronome_touches ..).trans (.noteTicker ..))).trans
        (orphanIfAbandoned_touches ..)
    · rw [eq]
      exact fired.trans ((updateMetronome_touches ..).trans (.noteTicker ..))

theorem tick_evolves (now : Moment) (place : Nat) (p : Pool α β γ σ) :
    Evolves h outer p (p.tick now place) := by
  rcases p.tick_cases now place with ⟨-, eq⟩ | ⟨lane, metronome, at_, has, due, beaten⟩
  · rw [eq]
    exact .refl p
  · have announced : (p.announced place lane.id metronome).lanes[place]? = some lane := by
      simp [at_]
    have told := p.laneEvents_announced place lane.id metronome
    obtain ⟨fired, rang⟩ := lane_fire announced
    have touched := (p.announced_touches place lane.id metronome).trans
      (fire_touches _ place lane)
    obtain ⟨same, kept, -, still⟩ := lane.beat_keeps
    rcases beaten with ⟨ends, eq⟩ | ⟨goes, eq⟩
    · rw [eq]
      have stopped := touched.trans ((updateMetronome_touches _ place (·.stop)).trans
        (.noteTicker _ lane.id .stopped))
      refine Evolves.trans (.of_touches stopped at_ ?_ ?_
        (.single (.lastBeat now has due ends))) ?_
      · simp [updateMetronome, fired, kept, has]
      · simp [updateMetronome, rang, told]
      · exact @orphanIfAbandoned_evolves _ _ _ _ h outer _ place
          { lane.beat.2.2 with metronome := some metronome.stop } lane.id lane.dropped
          (by simp [updateMetronome, fired, kept, has]) same still rfl
    · rw [eq]
      have rested := touched.trans ((updateMetronome_touches _ place (·.rest now)).trans
        (.noteTicker _ lane.id (.resting (now.after metronome.period))))
      refine .of_touches rested at_ ?_ ?_ (.single (.beat now has due goes))
      · simp [updateMetronome, fired, kept, has]
      · simp [updateMetronome, rang, told]

/-! ### Growth -/

theorem addLane_evolves (tick : Option Duration) (p : Pool α β γ σ) (id : LaneId) :
    Evolves h outer p (addLane tick p id) where
  config := rfl
  lane {k lane} at_ := by
    have below : k < p.lanes.length := (List.getElem?_eq_some_iff.mp at_).1
    refine ⟨lane, [], ?_, ?_, .refl _⟩
    · simp [addLane, List.getElem?_append_left below, at_]
    · simp only [addLane, laneEvents_note]
      simp [PoolEvent.at?, laneEvents]
  absent {k} gone := by
    have above : p.lanes.length ≤ k := List.getElem?_eq_none_iff.mp gone
    have same : (addLane tick p id).laneEvents k = p.laneEvents k := by
      simp only [addLane, laneEvents_note]
      simp [PoolEvent.at?, laneEvents]
    by_cases new : k = p.lanes.length
    · subst new
      exact .inr ⟨id, tick, _, [], by simp [addLane], by simp [same], .refl _⟩
    · refine .inl ⟨?_, same⟩
      simp only [addLane, lanes_note, List.getElem?_eq_none_iff, List.length_append,
        List.length_cons, List.length_nil]
      omega

theorem grow_evolves (p : Pool α β γ σ) (count : Nat) (tick : Option Duration) :
    Evolves h outer p (p.grow count tick).2 := by
  unfold grow
  cases p.growthRefusal count with
  | some cause => exact .refl p
  | none =>
    have added (period : Option Duration) (ids : List LaneId) (p : Pool α β γ σ) :
        Evolves h outer p (ids.foldl (addLane period) p) := by
      induction ids generalizing p with
      | nil => exact .refl p
      | cons id rest ih => exact (addLane_evolves period p id).trans (ih _)
    refine (added _ (p.nextIds count) p).trans (.of_same rfl rfl fun k => ?_)
    simp only [laneEvents_note]
    simp [PoolEvent.at?, laneEvents]

theorem grow_laneEvents (p : Pool α β γ σ) (count : Nat) (tick : Option Duration) (k : Nat) :
    (p.grow count tick).2.laneEvents k = p.laneEvents k := by
  unfold grow
  cases p.growthRefusal count with
  | some cause => rfl
  | none =>
    have added (period : Option Duration) (ids : List LaneId) (p : Pool α β γ σ) :
        (ids.foldl (addLane period) p).laneEvents k = p.laneEvents k := by
      induction ids generalizing p with
      | nil => rfl
      | cons id rest ih =>
        refine (ih _).trans ?_
        simp only [addLane, laneEvents_note]
        simp [PoolEvent.at?, laneEvents]
    simp only [laneEvents_note]
    simpa [PoolEvent.at?, laneEvents] using
      added (tick.map (fun d => d.orDefault p.config.tickPeriod)) (p.nextIds count) p

/-! ### Changes from outside -/

theorem setTable_evolves {p : Pool α β γ σ} {place : Nat} {table : Table γ}
    (edited : ∀ lane, p.lanes[place]? = some lane → outer.edits lane.table table) :
    Evolves h outer p (p.setTable place table) := by
  cases at_ : p.lanes[place]? with
  | none =>
    refine .of_same rfl ?_ fun _ => rfl
    exact List.modify_eq_self (List.getElem?_eq_none_iff.mp at_)
  | some lane =>
    exact .of_touches (.updateLane p _) at_ (lane_updateLane_self at_ _) (by simp [setTable])
      (.single (.setTable (edited lane at_)))

theorem retime_touches (p : Pool α β γ σ) (place : Nat) (seconds : Binary64) :
    Touches place p (p.retime place seconds).2 := by
  unfold Pool.retime
  split
  · exact .refl p
  · split
    · exact .refl p
    · exact .updateLane p _

theorem retime_evolves (p : Pool α β γ σ) (place : Nat) (seconds : Binary64) :
    Evolves h outer p (p.retime place seconds).2 := by
  unfold retime
  cases at_ : p.lanes[place]? with
  | none => exact .refl p
  | some lane =>
    simp only
    cases retimed : lane.retime seconds with
    | error cause => exact .refl p
    | ok lane' =>
      exact .of_touches (.updateLane p _) at_ (lane_updateLane_self at_ _) (by simp)
        (.single (.retime retimed))

/-! ### Shutdown -/

theorem closeMailbox_touches (p : Pool α β γ σ) (place : Nat) (lane : Lane α β γ) :
    Touches place p (p.closeMailbox place lane) := by
  unfold closeMailbox
  split
  · exact .refl p
  · exact (Touches.updateLane p _).trans (.noteMailbox _ lane.id _)

theorem closeMailbox_evolves (told : outer.stops) {p : Pool α β γ σ} {place : Nat}
    {lane : Lane α β γ} (at_ : p.lanes[place]? = some lane) (ended : lane.tickerEnded = true) :
    Evolves h outer p (p.closeMailbox place lane) := by
  have touches := p.closeMailbox_touches place lane
  cases ok : lane.mailbox.close? with
  | error cause => simpa [closeMailbox, ok] using Evolves.refl p
  | ok mailbox =>
    exact .of_touches touches at_ (by simp [closeMailbox, ok, at_]) (by simp [closeMailbox, ok])
      (.single (.close told ended ok))

theorem noteTicker_evolves {p : Pool α β γ σ} {place : Nat} {lane : Lane α β γ}
    (at_ : p.lanes[place]? = some lane) :
    Evolves h outer p (p.noteTicker place lane.id .foundAborted) :=
  .of_touches (.noteTicker p lane.id _) at_ at_ (by simp) (.single (.findTicker lane))

theorem passTicker_touches (p : Pool α β γ σ) (stop : LaneStop) :
    Touches stop.place p (p.passTicker stop).2 := by
  unfold passTicker
  split
  · next lane _ _ =>
    split
    · exact p.closeMailbox_touches stop.place lane
    · next metronome _ =>
      split
      · refine Touches.trans ?_ (closeMailbox_touches _ stop.place lane)
        split
        · exact .noteTicker p lane.id _
        · exact .refl p
      · exact .refl p
  · exact .refl p

theorem passTicker_evolves (told : outer.stops) (p : Pool α β γ σ) (stop : LaneStop) :
    Evolves h outer p (p.passTicker stop).2 := by
  unfold passTicker
  split
  · next lane _ at_ =>
    split
    · next none => exact closeMailbox_evolves told at_ (by simp [Lane.tickerEnded, none])
    · next metronome has =>
      split
      · next ended =>
        have past : lane.tickerEnded = true := by simp [Lane.tickerEnded, has, ended]
        dsimp only
        split
        · exact (noteTicker_evolves at_).trans (closeMailbox_evolves told (by simpa using at_) past)
        · exact closeMailbox_evolves told at_ past
      · exact .refl p
  · exact .refl p

theorem passConsumer_touches (p : Pool α β γ σ) (stop : LaneStop) :
    Touches stop.place p (p.passConsumer stop).2 := by
  unfold passConsumer
  split
  · next lane _ _ =>
    split
    · dsimp only
      split
      · exact (Touches.noteMailbox p lane.id _).trans (.note _ (fun _ _ => rfl))
      · exact .note p (fun _ _ => rfl)
    · exact .refl p
  · exact .refl p

theorem passConsumer_evolves (p : Pool α β γ σ) (stop : LaneStop) :
    Evolves h outer p (p.passConsumer stop).2 := by
  have stopped (p : Pool α β γ σ) (id : LaneId) : Evolves h outer p (p.note (.stopped id)) :=
    .of_same rfl rfl fun k => by simp [PoolEvent.at?]
  unfold passConsumer
  split
  · next lane _ at_ =>
    split
    · dsimp only
      split
      · next aborted =>
        refine Evolves.trans ?_ (stopped _ lane.id)
        exact .of_touches (.noteMailbox p lane.id _) at_ at_ (by simp) (.single (.find aborted))
      · exact stopped p lane.id
    · exact .refl p
  · exact .refl p

theorem passTicker_place (p : Pool α β γ σ) (stop : LaneStop) :
    (p.passTicker stop).1.place = stop.place := by
  unfold passTicker
  split
  · split
    · rfl
    · split <;> rfl
  · rfl

theorem advanceStop_touches (p : Pool α β γ σ) (stop : LaneStop) :
    Touches stop.place p (p.advanceStop stop).2 := by
  have second := (p.passTicker stop).2.passConsumer_touches (p.passTicker stop).1
  rw [passTicker_place] at second
  exact (p.passTicker_touches stop).trans second

theorem advanceStop_evolves (told : outer.stops) (p : Pool α β γ σ) (stop : LaneStop) :
    Evolves h outer p (p.advanceStop stop).2 :=
  (passTicker_evolves told p stop).trans (passConsumer_evolves _ _)

theorem beginStop_touches (p : Pool α β γ σ) (place : Nat) :
    Touches place p (p.beginStop place).2 := by
  unfold beginStop
  split
  · exact .refl p
  · next lane _ =>
    split
    · exact p.advanceStop_touches ⟨place, .ticker⟩
    · split
      · exact p.advanceStop_touches ⟨place, .ticker⟩
      · exact ((updateMetronome_touches ..).trans (.noteTicker _ lane.id _)).trans
          (advanceStop_touches _ ⟨place, .ticker⟩)

theorem beginStop_evolves (told : outer.stops) (p : Pool α β γ σ) (place : Nat) :
    Evolves h outer p (p.beginStop place).2 := by
  unfold beginStop
  cases at_ : p.lanes[place]? with
  | none => exact .refl p
  | some lane =>
    simp only
    cases has : lane.metronome with
    | none => exact advanceStop_evolves told p ⟨place, .ticker⟩
    | some metronome =>
      simp only
      cases ok : metronome.close? with
      | error cause => exact advanceStop_evolves told p ⟨place, .ticker⟩
      | ok closed =>
        refine Evolves.trans (.of_touches ((updateMetronome_touches ..).trans
          (.noteTicker _ lane.id .cancelled)) at_ ?_ ?_ (.single (.closeTicker told has ok)))
          (advanceStop_evolves told _ _)
        · simp [updateMetronome, at_, has]
        · simp [updateMetronome]

theorem forEach_evolves {ι : Type} {f : Pool α β γ σ → ι → LaneStop × Pool α β γ σ}
    (each : ∀ p x, Evolves h outer p (f p x).2) (list : List ι) (p : Pool α β γ σ) :
    Evolves h outer p (forEach f list p).2 := by
  induction list generalizing p with
  | nil => exact .refl p
  | cons x rest ih => exact (each p x).trans (ih _)

theorem concludeQuit_evolves (quitting : List LaneStop × Pool α β γ σ) :
    Evolves h outer quitting.2 (concludeQuit quitting).2 := by
  unfold concludeQuit
  split
  · exact .of_same rfl rfl fun k => by simp [PoolEvent.at?]
  · exact .refl _

/-- The pool as it looks from the moment when it is told to quit. -/
def emptied (p : Pool α β γ σ) : Pool α β γ σ :=
  { p with roster := .empty, routes := .empty, laneCount := 0 }.note
    (.stopping (p.roster.entries.map Prod.snd).length)

theorem beginQuit_eq (p : Pool α β γ σ) :
    p.beginQuit =
      concludeQuit (forEach beginStop (p.roster.entries.map Prod.snd) p.emptied) := rfl

theorem emptied_evolves (p : Pool α β γ σ) : Evolves h outer p p.emptied :=
  .of_same rfl rfl fun k => by
    simp only [emptied, laneEvents_note]
    simp [PoolEvent.at?, laneEvents]

theorem beginQuit_evolves (told : outer.stops) (p : Pool α β γ σ) :
    Evolves h outer p p.beginQuit.2 := by
  rw [beginQuit_eq]
  exact (p.emptied_evolves.trans (forEach_evolves (beginStop_evolves told) _ _)).trans
    (concludeQuit_evolves _)

theorem advanceQuit_evolves (told : outer.stops) (p : Pool α β γ σ) (stops : List LaneStop) :
    Evolves h outer p (p.advanceQuit stops).2 := by
  unfold advanceQuit
  split
  · exact .refl p
  · exact (forEach_evolves (advanceStop_evolves told) stops p).trans (concludeQuit_evolves _)

/-! ### The end of the host -/

theorem abortLane_touches (p : Pool α β γ σ) (place : Nat) :
    Touches place p (p.abortLane place) := by
  unfold abortLane
  split
  · exact .refl p
  · next lane _ =>
    dsimp only
    have silenced : Touches place p (if lane.tickerEnded = true then p else
        (p.updateMetronome place (·.abort)).noteTicker place lane.id .aborted) := by
      split
      · exact .refl p
      · exact (updateMetronome_touches ..).trans (.noteTicker _ lane.id _)
    split
    · exact silenced
    · exact (silenced.trans (.updateLane _ _)).trans (.noteMailbox _ lane.id _)

theorem abortLane_evolves (down : outer.aborts) (p : Pool α β γ σ) (place : Nat) :
    Evolves h outer p (p.abortLane place) := by
  unfold abortLane
  cases at_ : p.lanes[place]? with
  | none => exact .refl p
  | some lane =>
    simp only
    have silenced : ∃ lane', lane'.mailbox = lane.mailbox ∧
        (if lane.tickerEnded = true then p else
          (p.updateMetronome place (·.abort)).noteTicker place lane.id .aborted).lanes[place]? =
            some lane' ∧
        Evolves h outer p (if lane.tickerEnded = true then p else
          (p.updateMetronome place (·.abort)).noteTicker place lane.id .aborted) := by
      cases ended : lane.tickerEnded with
      | true => exact ⟨lane, rfl, at_, .refl p⟩
      | false =>
        cases has : lane.metronome with
        | none => simp [Lane.tickerEnded, has] at ended
        | some metronome =>
          refine ⟨{ lane with metronome := some metronome.abort }, rfl, ?_, ?_⟩
          · simp [updateMetronome, at_, has]
          · have there : ((p.updateMetronome place (·.abort)).noteTicker place lane.id
                .aborted).lanes[place]? = some { lane with metronome := some metronome.abort } := by
              simp [updateMetronome, at_, has]
            exact .of_touches ((updateMetronome_touches ..).trans (.noteTicker _ lane.id _)) at_
              there (by simp [updateMetronome])
              (.single (.abortTicker down has (by simpa [Lane.tickerEnded, has] using ended)))
    obtain ⟨lane', mailbox, there, evolves⟩ := silenced
    cases running : lane.mailbox.phase.ended with
    | true => simpa [running] using evolves
    | false =>
      simp only [Bool.false_eq_true, if_false]
      exact evolves.trans (.of_touches ((Touches.updateLane _ _).trans (.noteMailbox _ lane.id _))
        there (by simp [there]) (by simp) (.single (.abort down (by rw [mailbox, running]))))

theorem abort_evolves (down : outer.aborts) (p : Pool α β γ σ) : Evolves h outer p p.abort := by
  have folded (places : List Nat) (p : Pool α β γ σ) :
      Evolves h outer p (places.foldl abortLane p) := by
    induction places generalizing p with
    | nil => exact .refl p
    | cons place rest ih => exact (abortLane_evolves down p place).trans (ih _)
  exact folded _ p

end Pool
end Lanes
