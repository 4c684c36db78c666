import Lanes.Proofs.Pool.Population

/-!
# Succession of ids

A pool that is told to quit starts to number its lanes anew at once, while the lanes that it had are
still being stopped. So an id may come to belong to two lanes that both call the handler. That is so
exactly where the pool grows while one of the next ids belongs to a lane that has not stopped, and
never where calls of quit are awaited before the pool grows. Otherwise ids are handed on: whoever
had an id before is retired when a new lane gets it.
-/
namespace Lanes
namespace Pool
variable {α β γ σ : Type} {p : Pool α β γ σ}

/-- Lanes that have not stopped have ids of their own. -/
def OneOwner (p : Pool α β γ σ) : Prop :=
  ∀ (k k' : Nat) (lane lane' : Lane α β γ), p.lanes[k]? = some lane → p.lanes[k']? = some lane' →
    lane.mailbox.phase ≠ .stopped → lane'.mailbox.phase ≠ .stopped → lane.id = lane'.id → k = k'

/-- A lane with the id of an earlier one comes after this one has stopped. -/
def Succession (p : Pool α β γ σ) : Prop :=
  ∀ (k k' : Nat) (lane lane' : Lane α β γ), k < k' → p.lanes[k]? = some lane →
    p.lanes[k']? = some lane' → lane.id = lane'.id → lane.mailbox.phase = .stopped

theorem Succession.oneOwner (succession : p.Succession) : p.OneOwner := by
  intro k k' lane lane' at_ at' running running' same
  rcases Nat.lt_trichotomy k k' with before | here | after
  · exact absurd (succession k k' lane lane' before at_ at' same) running
  · exact here
  · exact absurd (succession k' k lane' lane after at' at_ same.symm) running'

theorem mem_nextIds {count : Nat} {id : Int} :
    id ∈ p.nextIds count ↔ ∃ i, i < count ∧ ((p.laneCount + i + 1 : Nat) : Int) = id := by
  simp [nextIds]

/-- Growth keeps the succession if no lane that runs has one of the next ids. -/
theorem Succession.grow (succession : p.Succession) {count : Nat}
    (granted : p.growthRefusal count = none) (tick : Option Duration)
    (free : ∀ lane ∈ p.lanes, lane.mailbox.phase ≠ .stopped → lane.id ∉ p.nextIds count) :
    (p.grow count tick).2.Succession := by
  intro k k' lane lane' before there there' same
  rcases (grow_lanes granted tick).mp there' with old' | ⟨i', below', rfl, rfl⟩
  · rcases (grow_lanes granted tick).mp there with old | ⟨i, -, rfl, -⟩
    · exact succession k k' lane lane' before old old' same
    · have inside := (List.getElem?_eq_some_iff.mp old').1
      omega
  · rcases (grow_lanes granted tick).mp there with old | ⟨i, -, rfl, rfl⟩
    · by_cases stopped : lane.mailbox.phase = .stopped
      · exact stopped
      · exact absurd (mem_nextIds.mpr ⟨i', below', same.symm⟩)
          (free lane (List.mem_of_getElem? old) stopped)
    · -- the new lanes have different ids
      have number : ((p.laneCount + i + 1 : Nat) : Int) = (p.laneCount + i' + 1 : Nat) := same
      omega

end Pool

namespace RunningPool
variable {α β γ σ : Type} {h : Handler α β γ σ} {s : RunningPool α β γ σ}
  {steps : List (Step α γ σ)}

/-- The step gives a new lane the id of one that has not stopped yet. -/
def Reuses (p : Pool α β γ σ) : Step α γ σ → Prop
  | .grow count _ => p.growthRefusal count = none ∧
    ∃ lane ∈ p.lanes, lane.mailbox.phase ≠ .stopped ∧ lane.id ∈ p.nextIds count
  | _ => False

theorem apply_succession {step : Step α γ σ} (succession : s.pool.Succession)
    (fresh : ¬ Reuses s.pool step) : (s.apply h step).pool.Succession := by
  by_cases grows : Grows s.pool step
  · cases step with
    | grow count tick =>
      exact succession.grow grows tick fun lane mem running taken =>
        fresh ⟨grows, lane, mem, running, taken⟩
    | _ => exact grows.elim
  · intro k k' lane lane' before there there' same
    obtain ⟨first, events, at_, moves⟩ := apply_origin grows there
    obtain ⟨first', events', at', moves'⟩ := apply_origin grows there'
    have stopped := succession k k' first first' before at_ at'
      (moves.id.symm.trans (same.trans moves'.id))
    rw [(moves.mailbox.quiet (by rw [stopped]; rfl)).2.1, stopped]

theorem run_succession (succession : s.pool.Succession)
    (never : ∀ visit ∈ visits h steps s, ¬ Reuses visit.1 visit.2) :
    (run h steps s).pool.Succession := by
  induction steps generalizing s with
  | nil => exact succession
  | cons step steps ih =>
    rw [visits, List.forall_mem_cons] at never
    exact ih (apply_succession succession never.1) never.2

/-- From then on the id has two owners. -/
theorem not_oneOwner_of_reuses {step : Step α γ σ} (reuses : Reuses s.pool step) :
    ¬ (s.apply h step).pool.OneOwner := by
  cases step with
  | grow count tick =>
    obtain ⟨granted, lane, mem, running, taken⟩ := reuses
    obtain ⟨k, at_⟩ := List.mem_iff_getElem?.mp mem
    obtain ⟨i, below, number⟩ := Pool.mem_nextIds.mp taken
    intro owner
    have old := (Pool.grow_lanes granted tick).mpr (.inl at_)
    have new := (Pool.grow_lanes granted tick).mpr (.inr ⟨i, below, rfl, rfl⟩)
    have same := owner k (s.pool.lanes.length + i) lane _ old new running
      (by simp [Lane.new, Mailbox.new]) number.symm
    have inside := (List.getElem?_eq_some_iff.mp at_).1
    omega
  | _ => exact reuses.elim

/-- Ids have one owner at a time exactly as long as no growth reuses the id of a lane that runs. -/
theorem oneOwner_iff (succession : s.pool.Succession) :
    (∀ earlier later, steps = earlier ++ later → (run h earlier s).pool.OneOwner) ↔
      ∀ visit ∈ visits h steps s, ¬ Reuses visit.1 visit.2 := by
  constructor
  · intro owner visit visited reuses
    obtain ⟨earlier, later, split, found⟩ := mem_visits.mp visited
    have after := owner (earlier ++ [visit.2]) later (by simp [split])
    rw [run_append, run_cons, run_nil] at after
    exact not_oneOwner_of_reuses (found ▸ reuses) after
  · rintro never earlier later rfl
    rw [visits_append, List.forall_mem_append] at never
    exact (run_succession succession never.1).oneOwner

/-- Where all calls of quit have finished, no lane that runs has one of the next ids. -/
theorem Orderly.not_reuses (orderly : s.Orderly) (accounted : s.Accounted)
    (finished : ∀ stops ∈ s.quits, Pool.stopsFinished stops = true) (step : Step α γ σ) :
    ¬ Reuses s.pool step := by
  intro reuses
  cases step with
  | grow count tick =>
    obtain ⟨-, lane, mem, running, taken⟩ := reuses
    obtain ⟨k, at_⟩ := List.mem_iff_getElem?.mp mem
    obtain ⟨i, -, number⟩ := Pool.mem_nextIds.mp taken
    rcases accounted.tended at_ with ⟨id, listed⟩ | ⟨call, stops, waits, mine⟩
    · -- live lanes have ids up to the number of lanes
      obtain ⟨lane', at', is⟩ := orderly.sound.lane listed
      obtain rfl : lane = lane' := Option.some.inj (at_.symm.trans at')
      have range := (orderly.sound.live id).mp ⟨k, listed⟩
      rw [← is, ← number] at range
      omega
    · exact running (orderly.stopped_of_finished ⟨stops, waits, mine⟩ waits
        (finished stops (List.mem_of_getElem? waits)) at_)
  | _ => exact reuses

/-- Two lanes that run never have the same id, unless the pool grows while one of the next ids
belongs to a lane that has not stopped. Until then every lane whose id has gone to another one has
handled what it accepted and said farewell before that, and the handler is not called for it again.
A pool whose calls of quit have all finished when it grows is safe. -/
theorem ids_are_handed_on (h : Handler α β γ σ) (config : PoolConfig) (generator : Generator)
    (memory : σ) (steps : List (Step α γ σ)) :
    let start : RunningPool α β γ σ := start config generator memory
    ((∀ earlier later, steps = earlier ++ later → (run h earlier start).pool.OneOwner) ↔
      ∀ visit ∈ visits h steps start, ¬ Reuses visit.1 visit.2) ∧
    (∀ earlier later, steps = earlier ++ later →
      (∀ visit ∈ visits h earlier start, ¬ Reuses visit.1 visit.2) →
      let p := (run h earlier start).pool
      ∀ k k' lane lane', k < k' → p.lanes[k]? = some lane → p.lanes[k']? = some lane' →
        lane.id = lane'.id →
        Lane.Retired (p.laneEvents k) ∧
        ∃ more, (run h steps start).pool.laneEvents k = p.laneEvents k ++ more ∧
          Mailbox.Quiet (LaneEvent.inMailbox more)) ∧
    (.abort ∉ steps →
      (∀ earlier count tick later, steps = earlier ++ .grow count tick :: later →
        ∀ stops ∈ (run h earlier start).quits, Pool.stopsFinished stops = true) →
      ∀ visit ∈ visits h steps start, ¬ Reuses visit.1 visit.2) := by
  intro start
  have succession : start.pool.Succession := by
    intro k k' lane lane' _ at_
    simp [start, RunningPool.start, Pool.new] at at_
  refine ⟨oneOwner_iff succession, ?_, ?_⟩
  · rintro earlier later rfl never p k k' lane lane' before at_ at' same
    have stopped := run_succession succession never k k' lane lane' before at_ at' same
    refine ⟨run_retired at_ stopped, ?_⟩
    rw [run_append]
    exact run_quiet at_ (by rw [stopped]; rfl) later
  · intro up finished visit visited reuses
    obtain ⟨earlier, later, split, found⟩ := mem_visits.mp visited
    have up' : .abort ∉ earlier := by
      rw [split, List.mem_append, not_or] at up
      exact up.1
    have orderly : (run h earlier start).Orderly :=
      run_orderly (start_orderly config generator memory) up'
    have accounted : (run h earlier start).Accounted :=
      run_accounted (start_accounted config generator memory)
    obtain ⟨p, step⟩ := visit
    cases step with
    | grow count tick =>
      exact orderly.not_reuses accounted (finished earlier count tick later split) _
        (found ▸ reuses)
    | _ => exact reuses

/-- Remembers for which lane it was called, and what for. -/
def registrar : Handler Nat Unit Nat (List (LaneId × Duty)) where
  process lane _ request table memory :=
    .done (.returned (), table, memory ++ [(lane, .request request)])
  onTick lane _ table memory := (.returned (), table, memory ++ [(lane, .tick)])
  onQuit lane _ memory := (.returned (), memory ++ [(lane, .farewell)])

/-- The pool quits and grows again before its first lane has stopped. -/
def hastyRun : List (Step Nat Nat (List (LaneId × Duty))) :=
  [.grow 1 (some (.ofSeconds 1)), .quit, .grow 1 none, .sendTo 1 2 true, .consume 0 1,
    .consume 0 1, .tick 0 0, .resume 0, .consume 0 0, .consume 0 0, .consume 0 0, .consume 0 0]

/-- The second lane with the id handles a request before the first one ticks and says farewell. -/
theorem hastyRun_gives_an_id_two_owners :
    ¬ (run registrar (hastyRun.take 6) (start .standard (.seeded 0) [])).pool.OneOwner ∧
    (run registrar hastyRun (start .standard (.seeded 0) [])).pool.memory =
      [(1, .request 2), (1, .tick), (1, .farewell)] := by
  refine ⟨?_, by decide +kernel⟩
  let p := (run registrar (hastyRun.take 6) (start .standard (.seeded 0) [])).pool
  have first : (p.lanes[0]?).map (fun lane => (lane.id, lane.mailbox.phase)) =
    some (1, .spawned) := by decide +kernel
  have second : (p.lanes[1]?).map (fun lane => (lane.id, lane.mailbox.phase)) =
    some (1, .receiving) := by decide +kernel
  obtain ⟨lane, at_, is⟩ := Option.map_eq_some_iff.mp first
  obtain ⟨lane', at', is'⟩ := Option.map_eq_some_iff.mp second
  obtain ⟨id, phase⟩ := Prod.mk.inj is
  obtain ⟨id', phase'⟩ := Prod.mk.inj is'
  intro owner
  have one := owner 0 1 lane lane' at_ at' (by simp [phase]) (by simp [phase']) (id.trans id'.symm)
  cases one

/-- The call of quit has finished when the pool grows again. -/
def patientRun : List (Step Nat Nat (List (LaneId × Duty))) :=
  [.grow 1 none, .sendTo 1 1 false, .quit, .consume 0 0, .consume 0 0, .consume 0 0, .consume 0 0,
    .resume 0, .grow 1 none, .sendTo 1 2 false, .consume 0 1, .consume 0 1]

theorem patientRun_waits {earlier later : List (Step Nat Nat (List (LaneId × Duty)))}
    {count : Nat} {tick : Option Duration}
    (split : patientRun = earlier ++ .grow count tick :: later) :
    ∀ stops ∈ (run registrar earlier (start .standard (.seeded 0) [])).quits,
      Pool.stopsFinished stops = true := by
  have taken : earlier = patientRun.take earlier.length := by simp [split]
  have next : patientRun[earlier.length]? = some (.grow count tick) := by simp [split]
  have place : earlier.length = 0 ∨ earlier.length = 8 := by
    generalize earlier.length = n at next
    match n with
    | 0 => exact .inl rfl
    | 8 => exact .inr rfl
    | 1 | 2 | 3 | 4 | 5 | 6 | 7 | 9 | 10 | 11 | n + 12 => simp [patientRun] at next
  rw [taken]
  rcases place with is | is <;> rw [is] <;> decide +kernel

theorem patientRun_hands_the_id_on :
    let t := run registrar patientRun (start .standard (.seeded 0) [])
    t.pool.OneOwner ∧ Lane.Retired (t.pool.laneEvents 0) ∧
    t.pool.memory = [(1, .request 1), (1, .farewell), (1, .request 2)] := by
  intro t
  obtain ⟨owner, retired, safe⟩ :=
    ids_are_handed_on registrar .standard (.seeded 0) [] patientRun
  have up : .abort ∉ patientRun := by simp [patientRun]
  have never := safe up fun _ _ _ _ split => patientRun_waits split
  have first : (t.pool.lanes[0]?).map (·.id) = some 1 := by decide +kernel
  have second : (t.pool.lanes[1]?).map (·.id) = some 1 := by decide +kernel
  obtain ⟨lane, at_, id⟩ := Option.map_eq_some_iff.mp first
  obtain ⟨lane', at', id'⟩ := Option.map_eq_some_iff.mp second
  have handed := retired patientRun [] (by simp) never 0 1 lane lane' (by decide) at_ at'
    (id.trans id'.symm)
  exact ⟨owner.mpr never patientRun [] (by simp), handed.1, by decide +kernel⟩

end RunningPool
end Lanes
