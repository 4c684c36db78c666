import Lanes.Proofs.Pool.Operations

/-!
# Runs of a pool

A run is a list of steps in any order: calls on the pool and on lanes that a caller keeps, the calls
of quit going on, steps of the consumers and tickers of all lanes, changes of what the handler
remembers, and the end of the host. Moments are part of the steps, so that a run may take any time.
Each lane of a pool that a run has reached has come there by moves of its own.
-/
namespace Lanes

/-- A pool and the calls of quit on it, each with the stops of lanes that it waits for. -/
structure RunningPool (α β γ σ : Type) where
  pool : Pool α β γ σ
  quits : List (List LaneStop)

namespace RunningPool
variable {α β γ σ : Type}

/-- One step of a run. -/
inductive Step (α γ σ : Type) where
  | grow (count : Nat) (tick : Option Duration)
  | target (object : ObjectId) (affinity : Bool)
  | sendEach (request : α) (objects : List ObjectId) (wantsReply : Bool)
  | sendTo (id : LaneId) (request : α) (wantsReply : Bool)
  | cast (request : α)
  | getObject (object : ObjectId)
  | setObject (object : ObjectId) (value : γ)
  | removeObject (object : ObjectId)
  /-- A request, or a push if no reply is wanted, through a lane that the caller keeps. -/
  | submit (place : Nat) (request : α) (wantsReply : Bool)
  | retime (place : Nat) (seconds : Binary64)
  /-- A change of a kept lane's table. -/
  | edit (place : Nat) (change : Table γ → Table γ)
  | remember (change : σ → σ)
  | quit
  /-- A call of quit goes on. -/
  | resume (call : Nat)
  | consume (now : Moment) (place : Nat)
  | tick (now : Moment) (place : Nat)
  /-- The host of all tasks goes down. -/
  | abort

/-- The pool after a step that is no call of quit. -/
def perform (h : Handler α β γ σ) (p : Pool α β γ σ) : Step α γ σ → Pool α β γ σ
  | .grow count tick => (p.grow count tick).2
  | .target object affinity => (p.target object affinity).2
  | .sendEach request objects wantsReply => (p.sendEach request objects wantsReply).2
  | .sendTo id request wantsReply => (p.sendTo id request wantsReply).2
  | .cast request => (p.cast request).2
  | .getObject object => (p.getObject object).2
  | .setObject object value => (p.setObject object value).2
  | .removeObject object => (p.removeObject object).2
  | .submit place request wantsReply => (p.submit place request wantsReply).2
  | .retime place seconds => (p.retime place seconds).2
  | .edit place change => p.setTable place (change (p.tableAt place))
  | .remember change => { p with memory := change p.memory }
  | .consume now place => p.consume h now place
  | .tick now place => p.tick now place
  | .abort => p.abort
  | .quit | .resume _ => p

/-- The pool and its calls of quit after a step. -/
def apply (h : Handler α β γ σ) (s : RunningPool α β γ σ) : Step α γ σ → RunningPool α β γ σ
  | .quit => ⟨s.pool.beginQuit.2, s.quits ++ [s.pool.beginQuit.1]⟩
  | .resume call =>
    match s.quits[call]? with
    | none => s
    | some stops =>
      ⟨(s.pool.advanceQuit stops).2, s.quits.set call (s.pool.advanceQuit stops).1⟩
  | step => { s with pool := perform h s.pool step }

/-- The pool and its calls of quit after a run. -/
def run (h : Handler α β γ σ) (steps : List (Step α γ σ)) (s : RunningPool α β γ σ) :
    RunningPool α β γ σ :=
  steps.foldl (apply h) s

/-- A new pool, on which nobody has called quit. -/
def start (config : PoolConfig) (generator : Generator) (memory : σ) : RunningPool α β γ σ :=
  ⟨.new config generator memory, []⟩

section Fold
variable (h : Handler α β γ σ) (s : RunningPool α β γ σ)

@[simp] theorem run_nil : run h [] s = s := rfl

@[simp] theorem run_cons (step : Step α γ σ) (steps : List (Step α γ σ)) :
    run h (step :: steps) s = run h steps (s.apply h step) := rfl

theorem run_append (steps more : List (Step α γ σ)) :
    run h (steps ++ more) s = run h more (run h steps s) := List.foldl_append ..

end Fold

/-- The steps of a run, each with the pool that it finds. -/
def visits (h : Handler α β γ σ) :
    List (Step α γ σ) → RunningPool α β γ σ → List (Pool α β γ σ × Step α γ σ)
  | [], _ => []
  | step :: steps, s => (s.pool, step) :: visits h steps (s.apply h step)

theorem visits_append (h : Handler α β γ σ) (steps more : List (Step α γ σ))
    (s : RunningPool α β γ σ) :
    visits h (steps ++ more) s = visits h steps s ++ visits h more (run h steps s) := by
  induction steps generalizing s with
  | nil => rfl
  | cons step steps ih => simp [visits, ih]

/-- A step is visited with the pool that the steps before it have left. -/
theorem mem_visits {h : Handler α β γ σ} {steps : List (Step α γ σ)} {s : RunningPool α β γ σ}
    {visit : Pool α β γ σ × Step α γ σ} :
    visit ∈ visits h steps s ↔
      ∃ earlier later, steps = earlier ++ visit.2 :: later ∧ visit.1 = (run h earlier s).pool := by
  induction steps generalizing s with
  | nil => simp [visits]
  | cons step steps ih =>
    rw [exists_split_cons, visits, List.mem_cons, ih]
    refine or_congr ?_ Iff.rfl
    rw [run_nil, Prod.ext_iff, and_comm, eq_comm (a := step)]

/-- What the steps of a run contribute. -/
def along {τ : Type} (h : Handler α β γ σ) (f : Pool α β γ σ → Step α γ σ → List τ)
    (steps : List (Step α γ σ)) (s : RunningPool α β γ σ) : List τ :=
  (visits h steps s).flatMap (fun visit => f visit.1 visit.2)

section Along
variable {τ : Type} (f : Pool α β γ σ → Step α γ σ → List τ)

theorem along_nil (h : Handler α β γ σ) (s : RunningPool α β γ σ) : along h f [] s = [] := rfl

theorem along_cons (h : Handler α β γ σ) (step : Step α γ σ) (steps : List (Step α γ σ))
    (s : RunningPool α β γ σ) :
    along h f (step :: steps) s = f s.pool step ++ along h f steps (s.apply h step) := by
  simp [along, visits]

theorem along_append (h : Handler α β γ σ) (steps more : List (Step α γ σ))
    (s : RunningPool α β γ σ) :
    along h f (steps ++ more) s = along h f steps s ++ along h f more (run h steps s) := by
  simp [along, visits_append]

end Along

/-- What every step keeps, every run keeps. -/
theorem run_keeps {h : Handler α β γ σ} {P : RunningPool α β γ σ → Prop}
    (each : ∀ s step, P s → P (s.apply h step)) (steps : List (Step α γ σ))
    {s : RunningPool α β γ σ} (start : P s) : P (run h steps s) := by
  induction steps generalizing s with
  | nil => exact start
  | cons step steps ih => exact ih (each s step start)

end RunningPool

/-! ### What growth and routing leave alone -/

namespace Pool
variable {α β γ σ : Type} {h : Handler α β γ σ} {outer : Influence α γ}

theorem foldl_addLane_same (period : Option Duration) (ids : List LaneId) (p : Pool α β γ σ) :
    ∃ lanes roster journal, ids.foldl (addLane period) p = { p with lanes, roster, journal } := by
  induction ids generalizing p with
  | nil => exact ⟨_, _, _, rfl⟩
  | cons id rest ih =>
    obtain ⟨lanes, roster, journal, same⟩ := ih (addLane period p id)
    exact ⟨lanes, roster, journal, same⟩

theorem grow_same (p : Pool α β γ σ) (count : Nat) (tick : Option Duration) :
    ∃ lanes roster laneCount journal,
      (p.grow count tick).2 = { p with lanes, roster, laneCount, journal } := by
  unfold grow
  split
  · exact ⟨_, _, _, _, rfl⟩
  · obtain ⟨lanes, roster, journal, same⟩ := foldl_addLane_same
      (tick.map (fun d => d.orDefault p.config.tickPeriod)) (p.nextIds count) p
    simp only [same]
    exact ⟨_, _, _, _, rfl⟩

theorem choose_same (p : Pool α β γ σ) (object : ObjectId) (affinity : Bool) :
    ∃ routes generator, (p.choose object affinity).2 = { p with routes, generator } := by
  unfold choose
  split
  · exact ⟨_, _, rfl⟩
  · split
    · split <;> exact ⟨_, _, rfl⟩
    · exact ⟨_, _, rfl⟩

theorem target_same (p : Pool α β γ σ) (object : ObjectId) (affinity : Bool) :
    ∃ routes generator, (p.target object affinity).2 = { p with routes, generator } := by
  unfold target
  split
  · exact ⟨_, _, rfl⟩
  · exact p.choose_same object affinity

theorem owner_same (p : Pool α β γ σ) (object : ObjectId) :
    ∃ routes generator, (p.owner object).2 = { p with routes, generator } := by
  unfold owner
  split
  · exact ⟨_, _, rfl⟩
  · exact p.target_same object true

theorem evolves_of_same {p p' : Pool α β γ σ}
    (same : ∃ routes generator, p' = { p with routes, generator }) : Evolves h outer p p' := by
  obtain ⟨routes, generator, rfl⟩ := same
  exact .of_same rfl rfl fun _ => rfl

theorem targets_same (objects : List ObjectId) (p : Pool α β γ σ) :
    ∃ routes generator, (p.targets objects).2 = { p with routes, generator } := by
  induction objects generalizing p with
  | nil => exact ⟨_, _, rfl⟩
  | cons object rest ih =>
    obtain ⟨routes, generator, first⟩ := p.target_same object true
    obtain ⟨routes', generator', others⟩ := ih (p.target object true).2
    refine ⟨routes', generator', ?_⟩
    simp only [targets]
    rw [others, first]

theorem sendEach_evolves (p : Pool α β γ σ) {request : α} (objects : List ObjectId)
    (wantsReply : Bool) (sent : outer.sends request) :
    Evolves h outer p (p.sendEach request objects wantsReply).2 := by
  unfold sendEach
  split
  · exact .refl p
  · split
    · exact .refl p
    · exact (evolves_of_same (targets_same objects p)).trans (.of_sent (submitAll_admits ..) sent)

theorem setObject_evolves (p : Pool α β γ σ) (object : ObjectId) (value : γ)
    (edited : ∀ table table', outer.edits table table') :
    Evolves h outer p (p.setObject object value).2 := by
  have owned : Evolves h outer p (p.owner object).2 := evolves_of_same (p.owner_same object)
  unfold setObject
  dsimp only
  split
  · exact owned
  · split
    · exact owned
    · exact owned.trans (setTable_evolves fun _ _ => edited _ _)

theorem removeObject_evolves (p : Pool α β γ σ) (object : ObjectId)
    (edited : ∀ table table', outer.edits table table') :
    Evolves h outer p (p.removeObject object).2 := by
  have owned : Evolves h outer p (p.owner object).2 := evolves_of_same (p.owner_same object)
  unfold removeObject
  dsimp only
  split
  · exact owned
  · split
    · exact owned
    · exact (owned.trans (setTable_evolves fun _ _ => edited _ _)).trans
        (evolves_of_same ⟨_, _, rfl⟩)

end Pool

namespace RunningPool
variable {α β γ σ : Type} {h : Handler α β γ σ} {outer : Influence α γ}

/-- Nothing but what is allowed reaches lanes from outside in the step. -/
def Step.Within (outer : Influence α γ) : Step α γ σ → Prop
  | .sendEach request _ _ | .sendTo _ request _ | .cast request | .submit _ request _ =>
    outer.sends request
  | .setObject _ _ | .removeObject _ | .edit _ _ => ∀ table table', outer.edits table table'
  | .quit | .resume _ => outer.stops
  | .abort => outer.aborts
  | _ => True

theorem Step.within_any (step : Step α γ σ) : step.Within .any := by
  cases step <;> simp [Within, Influence.any]

theorem Step.within_hosted {step : Step α γ σ} (up : step ≠ .abort) : step.Within .hosted := by
  cases step <;> simp [Within, Influence.hosted] at up ⊢

theorem perform_evolves (forwarded : ∀ request, h.Forwards request → outer.sends request)
    (p : Pool α β γ σ) {step : Step α γ σ} (within : step.Within outer) :
    Pool.Evolves h outer p (perform h p step) := by
  cases step with
  | grow count tick => exact p.grow_evolves count tick
  | target object affinity => exact Pool.evolves_of_same (p.target_same object affinity)
  | sendEach request objects wantsReply => exact p.sendEach_evolves objects wantsReply within
  | sendTo id request wantsReply => exact .of_sent (p.sendTo_admits id request wantsReply) within
  | cast request => exact .of_sent (p.cast_admits request) within
  | getObject object => exact Pool.evolves_of_same (p.owner_same object)
  | setObject object value => exact p.setObject_evolves object value within
  | removeObject object => exact p.removeObject_evolves object within
  | submit place request wantsReply =>
    exact .of_sent (p.submit_admits place request wantsReply) within
  | retime place seconds => exact p.retime_evolves place seconds
  | edit place change => exact Pool.setTable_evolves fun _ _ => within _ _
  | remember change => exact .of_same rfl rfl fun _ => rfl
  | consume now place => exact Pool.consume_evolves forwarded now place p
  | tick now place => exact p.tick_evolves now place
  | abort => exact Pool.abort_evolves within p
  | quit => exact .refl p
  | resume call => exact .refl p

theorem apply_evolves_within (forwarded : ∀ request, h.Forwards request → outer.sends request)
    (s : RunningPool α β γ σ) {step : Step α γ σ} (within : step.Within outer) :
    Pool.Evolves h outer s.pool (s.apply h step).pool := by
  have performed := perform_evolves (h := h) forwarded s.pool within
  cases step with
  | quit => exact Pool.beginQuit_evolves within s.pool
  | resume call =>
    simp only [apply]
    split
    · exact .refl _
    · exact Pool.advanceQuit_evolves within s.pool _
  | _ => exact performed

theorem apply_evolves (s : RunningPool α β γ σ) (step : Step α γ σ) :
    Pool.Evolves h .any s.pool (s.apply h step).pool :=
  s.apply_evolves_within (fun _ _ => trivial) step.within_any

theorem run_evolves_within (forwarded : ∀ request, h.Forwards request → outer.sends request)
    {steps : List (Step α γ σ)} (within : ∀ step ∈ steps, step.Within outer)
    (s : RunningPool α β γ σ) : Pool.Evolves h outer s.pool (run h steps s).pool := by
  induction steps generalizing s with
  | nil => exact .refl _
  | cons step steps ih =>
    obtain ⟨here, later⟩ := List.forall_mem_cons.mp within
    exact (s.apply_evolves_within forwarded here).trans (ih later (s.apply h step))

theorem run_evolves (steps : List (Step α γ σ)) (s : RunningPool α β γ σ) :
    Pool.Evolves h .any s.pool (run h steps s).pool :=
  run_evolves_within (fun _ _ => trivial) (fun step _ => step.within_any) s

/-- Each lane that a run has reached has come there by moves of its own, from a new lane on. -/
theorem lane_moves (forwarded : ∀ request, h.Forwards request → outer.sends request)
    {config : PoolConfig} {generator : Generator} {memory : σ} {steps : List (Step α γ σ)}
    (within : ∀ step ∈ steps, step.Within outer) {k : Nat} {lane : Lane α β γ}
    (at_ : (run h steps (start config generator memory)).pool.lanes[k]? = some lane) :
    ∃ id tick, Lane.Moves h outer (Lane.new id config.capacity tick)
      ((run h steps (start config generator memory)).pool.laneEvents k) lane := by
  have evolved := run_evolves_within forwarded within (start config generator memory)
  obtain ⟨first, events, before | ⟨-, id, tick, rfl⟩, told, moves⟩ := evolved.origin at_
  · simp [start, Pool.new] at before
  · refine ⟨id, tick, ?_⟩
    rw [told]
    simpa [start, Pool.new, Pool.laneEvents] using moves

theorem lane_moves_any {config : PoolConfig} {generator : Generator} {memory : σ}
    {steps : List (Step α γ σ)} {k : Nat} {lane : Lane α β γ}
    (at_ : (run h steps (start config generator memory)).pool.lanes[k]? = some lane) :
    ∃ id tick, Lane.Moves h .any (Lane.new id config.capacity tick)
      ((run h steps (start config generator memory)).pool.laneEvents k) lane :=
  lane_moves (fun _ _ => trivial) (fun step _ => step.within_any) at_

theorem lane_moves_hosted {config : PoolConfig} {generator : Generator} {memory : σ}
    {steps : List (Step α γ σ)} (up : .abort ∉ steps) {k : Nat} {lane : Lane α β γ}
    (at_ : (run h steps (start config generator memory)).pool.lanes[k]? = some lane) :
    ∃ id tick, Lane.Moves h .hosted (Lane.new id config.capacity tick)
      ((run h steps (start config generator memory)).pool.laneEvents k) lane :=
  lane_moves (fun _ _ => trivial) (fun _ mem => Step.within_hosted fun is => up (is ▸ mem)) at_

/-- A lane dispatches what it accepts in this order, whether or not it exists yet. -/
theorem lane_fifo (h : Handler α β γ σ) (config : PoolConfig) (generator : Generator) (memory : σ)
    (steps : List (Step α γ σ)) (k : Nat) :
    let events := LaneEvent.inMailbox
      ((run h steps (start config generator memory)).pool.laneEvents k)
    Mailbox.dispatches events <+: Mailbox.acceptances events ∧
      ((Mailbox.acceptances events).map Envelope.serial).Nodup := by
  intro events
  cases at_ : (run h steps (start config generator memory)).pool.lanes[k]? with
  | none =>
    have none : (run h steps (start config generator memory)).pool.laneEvents k = [] := by
      have evolved := run_evolves (h := h) steps (start config generator memory)
      obtain ⟨-, same⟩ | ⟨id, tick, lane, events, there, -, -⟩ :=
        evolved.absent (k := k) (by simp [start, Pool.new])
      · rw [same]
        rfl
      · rw [at_] at there
        cases there
    simp only [events, none]
    exact ⟨List.prefix_rfl, List.nodup_nil⟩
  | some lane =>
    obtain ⟨id, tick, moves⟩ := lane_moves_any at_
    obtain ⟨lost, flow, -⟩ := moves.mailbox.flow
    have fresh : (Lane.new id config.capacity tick : Lane α β γ).mailbox.buffer = [] := rfl
    rw [fresh, List.nil_append, List.append_assoc] at flow
    exact ⟨⟨_, flow.symm⟩, moves.mailbox.distinct⟩

end RunningPool
end Lanes
