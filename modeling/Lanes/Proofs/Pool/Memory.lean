import Lanes.Proofs.Pool.Run

/-!
# What the handler of a pool remembers

The memory of a handler is changed by the handler's own calls and by whoever holds it besides.
Nothing that is done to the pool, its lanes or its tickers changes it.
-/
namespace Lanes
namespace Pool
variable {α β γ σ : Type}

theorem grow_memory (p : Pool α β γ σ) (count : Nat) (tick : Option Duration) :
    (p.grow count tick).2.memory = p.memory := by
  obtain ⟨lanes, roster, laneCount, journal, same⟩ := p.grow_same count tick
  rw [same]

theorem target_memory (p : Pool α β γ σ) (object : ObjectId) (affinity : Bool) :
    (p.target object affinity).2.memory = p.memory := by
  obtain ⟨routes, generator, same⟩ := p.target_same object affinity
  rw [same]

theorem owner_memory (p : Pool α β γ σ) (object : ObjectId) :
    (p.owner object).2.memory = p.memory := by
  obtain ⟨routes, generator, same⟩ := p.owner_same object
  rw [same]

theorem sendEach_memory (p : Pool α β γ σ) (request : α) (objects : List ObjectId)
    (wantsReply : Bool) : (p.sendEach request objects wantsReply).2.memory = p.memory := by
  obtain ⟨routes, generator, same⟩ := targets_same objects p
  unfold sendEach
  split
  · rfl
  · split
    · rfl
    · exact (submitAll_admits request wantsReply _ _).memory.trans (by rw [same])

theorem setObject_memory (p : Pool α β γ σ) (object : ObjectId) (value : γ) :
    (p.setObject object value).2.memory = p.memory := by
  have owned := p.owner_memory object
  unfold setObject
  dsimp only
  split
  · exact owned
  · split <;> exact owned

theorem removeObject_memory (p : Pool α β γ σ) (object : ObjectId) :
    (p.removeObject object).2.memory = p.memory := by
  have owned := p.owner_memory object
  unfold removeObject
  dsimp only
  split
  · exact owned
  · split <;> exact owned

theorem retime_memory (p : Pool α β γ σ) (place : Nat) (seconds : Binary64) :
    (p.retime place seconds).2.memory = p.memory := by
  unfold retime
  split
  · rfl
  · split <;> rfl

theorem fire_memory (p : Pool α β γ σ) (place : Nat) (lane : Lane α β γ) :
    (p.fire place lane).memory = p.memory := by
  unfold fire
  dsimp only
  split <;> rfl

theorem orphanIfAbandoned_memory (p : Pool α β γ σ) (place : Nat) (id : LaneId) (dropped : Bool) :
    (p.orphanIfAbandoned place id dropped).memory = p.memory := by
  cases dropped <;> rfl

theorem tick_memory (p : Pool α β γ σ) (now : Moment) (place : Nat) :
    (p.tick now place).memory = p.memory := by
  have started (metronome : Metronome) (lane : Lane α β γ) :
      ((if metronome.phase = .spawned then p.noteTicker place lane.id (.started metronome.period)
        else p).fire place lane).memory = p.memory := by
    rw [fire_memory]
    split <;> rfl
  unfold tick
  split
  · rfl
  · split
    · rfl
    · dsimp only
      split
      · split
        · exact (orphanIfAbandoned_memory ..).trans (started ..)
        · exact started ..
      · rfl

theorem closeMailbox_memory (p : Pool α β γ σ) (place : Nat) (lane : Lane α β γ) :
    (p.closeMailbox place lane).memory = p.memory := by
  unfold closeMailbox
  split <;> rfl

theorem passTicker_memory (p : Pool α β γ σ) (stop : LaneStop) :
    (p.passTicker stop).2.memory = p.memory := by
  unfold passTicker
  split
  · split
    · exact closeMailbox_memory ..
    · split
      · refine (closeMailbox_memory ..).trans ?_
        split <;> rfl
      · rfl
  · rfl

theorem passConsumer_memory (p : Pool α β γ σ) (stop : LaneStop) :
    (p.passConsumer stop).2.memory = p.memory := by
  unfold passConsumer
  split
  · split
    · dsimp only
      split <;> rfl
    · rfl
  · rfl

theorem advanceStop_memory (p : Pool α β γ σ) (stop : LaneStop) :
    (p.advanceStop stop).2.memory = p.memory :=
  (passConsumer_memory ..).trans (passTicker_memory ..)

theorem beginStop_memory (p : Pool α β γ σ) (place : Nat) :
    (p.beginStop place).2.memory = p.memory := by
  unfold beginStop
  split
  · rfl
  · split
    · exact advanceStop_memory ..
    · split
      · exact advanceStop_memory ..
      · exact advanceStop_memory ..

theorem forEach_memory {ι : Type} {f : Pool α β γ σ → ι → LaneStop × Pool α β γ σ}
    (each : ∀ p x, (f p x).2.memory = p.memory) (list : List ι) (p : Pool α β γ σ) :
    (forEach f list p).2.memory = p.memory := by
  induction list generalizing p with
  | nil => rfl
  | cons x rest ih => exact (ih _).trans (each p x)

theorem concludeQuit_memory (quitting : List LaneStop × Pool α β γ σ) :
    (concludeQuit quitting).2.memory = quitting.2.memory := by
  unfold concludeQuit
  split <;> rfl

theorem beginQuit_memory (p : Pool α β γ σ) : p.beginQuit.2.memory = p.memory :=
  (concludeQuit_memory _).trans (forEach_memory beginStop_memory _ _)

theorem advanceQuit_memory (p : Pool α β γ σ) (stops : List LaneStop) :
    (p.advanceQuit stops).2.memory = p.memory := by
  unfold advanceQuit
  split
  · rfl
  · exact (concludeQuit_memory _).trans (forEach_memory advanceStop_memory _ _)

theorem abortLane_memory (p : Pool α β γ σ) (place : Nat) :
    (p.abortLane place).memory = p.memory := by
  unfold abortLane
  split
  · rfl
  · dsimp only
    split <;> split <;> rfl

/-- Without a call for a message, a consumer's step calls the handler at most to say farewell. -/
theorem consume_memory (h : Handler α β γ σ) (now : Moment) {place : Nat} {p : Pool α β γ σ}
    (idle : ∀ lane envelope, p.lanes[place]? = some lane →
      lane.mailbox.turn ≠ .dispatch envelope) :
    (p.consume h now place).memory = p.memory ∨
      ∃ lane, p.lanes[place]? = some lane ∧
        (p.consume h now place).memory = (h.onQuit lane.id now p.memory).2 := by
  unfold consume
  cases at_ : p.lanes[place]? with
  | none => exact .inl rfl
  | some lane =>
    cases turn : lane.mailbox.turn with
    | dispatch envelope => exact absurd turn (idle lane envelope at_)
    | wait => exact .inl (by simp only [turn])
    | finish => exact .inr ⟨lane, rfl, by simp only [turn]; rfl⟩
    | _ => exact .inl (by simp only [turn]; rfl)

theorem abort_memory (p : Pool α β γ σ) : p.abort.memory = p.memory := by
  have folded (places : List Nat) (p : Pool α β γ σ) :
      (places.foldl abortLane p).memory = p.memory := by
    induction places generalizing p with
    | nil => rfl
    | cons place rest ih => exact (ih _).trans (p.abortLane_memory place)
  exact folded _ p

end Pool

namespace RunningPool
variable {α β γ σ : Type} {h : Handler α β γ σ}

/-- What somebody else makes of the handler's memory in a step. -/
def Step.remembered : Step α γ σ → σ → σ
  | .remember change => change
  | _ => id

/-- Only steps of consumers call the handler. -/
theorem apply_memory (s : RunningPool α β γ σ) {step : Step α γ σ}
    (others : ∀ now place, step ≠ .consume now place) :
    (s.apply h step).pool.memory = step.remembered s.pool.memory := by
  cases step with
  | grow count tick => exact s.pool.grow_memory count tick
  | target object affinity => exact s.pool.target_memory object affinity
  | sendEach request objects wantsReply => exact s.pool.sendEach_memory request objects wantsReply
  | sendTo id request wantsReply => exact (s.pool.sendTo_admits id request wantsReply).memory
  | cast request => exact (s.pool.cast_admits request).memory
  | getObject object => exact s.pool.owner_memory object
  | setObject object value => exact s.pool.setObject_memory object value
  | removeObject object => exact s.pool.removeObject_memory object
  | submit place request wantsReply => exact (s.pool.submit_admits place request wantsReply).memory
  | retime place seconds => exact s.pool.retime_memory place seconds
  | edit place change => rfl
  | remember change => rfl
  | quit => exact s.pool.beginQuit_memory
  | resume call =>
    simp only [apply]
    split
    · rfl
    · exact s.pool.advanceQuit_memory _
  | consume now place => exact absurd rfl (others now place)
  | tick now place => exact s.pool.tick_memory now place
  | abort => exact s.pool.abort_memory

end RunningPool
end Lanes
