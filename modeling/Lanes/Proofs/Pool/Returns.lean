import Lanes.Proofs.Pool.Population

/-!
# What the return of quit tells

A call of quit takes over the lanes that it finds, and returns when each of them has ended. A second
call that overlaps with it finds the pool empty, and may return while the lanes of the first one
still have requests to handle. So what a caller may conclude from the return is about all lanes that
the pool has ever had, but for those that an earlier call is still stopping, and those that went
down with their host.
-/
namespace Lanes
namespace RunningPool
variable {α β γ σ : Type} {h : Handler α β γ σ} {s : RunningPool α β γ σ} {k : Nat}
  {lane : Lane α β γ}

/-- The call of quit has returned, since all lanes that it stops have ended. -/
def Returned (s : RunningPool α β γ σ) (call : Nat) : Prop :=
  ∃ stops, s.quits[call]? = some stops ∧ Pool.stopsFinished stops = true

theorem returned_iff {call : Nat} :
    s.Returned call ↔ (s.quits[call]?).any Pool.stopsFinished = true := by
  simp [Returned, Option.any_eq_true]

instance (call : Nat) : Decidable (s.Returned call) :=
  decidable_of_iff _ returned_iff.symm

/-- The lane is retired, and the handler is not called for it again, whatever happens. -/
def Drained (h : Handler α β γ σ) (s : RunningPool α β γ σ) (k : Nat) : Prop :=
  Lane.Retired (s.pool.laneEvents k) ∧
    ∀ steps, ∃ more, (run h steps s).pool.laneEvents k = s.pool.laneEvents k ++ more ∧
      Mailbox.Quiet (LaneEvent.inMailbox more)

/-- Once quit is called, that call or an earlier one stops each lane there is. -/
theorem Accounted.quit_awaits (accounted : s.Accounted) (at_ : s.pool.lanes[k]? = some lane) :
    ∃ call, call ≤ s.quits.length ∧ (s.apply h .quit).Awaits call k := by
  rcases accounted.tended at_ with live | ⟨call, awaits⟩
  · exact ⟨s.quits.length, Nat.le_refl _, RunningPool.quit_awaits live⟩
  · obtain ⟨stops, waits, -⟩ := id awaits
    have earlier : call < s.quits.length := (List.getElem?_eq_some_iff.mp waits).1
    exact ⟨call, Nat.le_of_lt earlier, apply_awaits awaits .quit⟩

/-- A call that has returned has drained its lanes, unless their host went down before. -/
theorem run_returned {config : PoolConfig} {generator : Generator} {memory : σ}
    {steps : List (Step α γ σ)} {call : Nat}
    (awaits : (run h steps (start config generator memory)).Awaits call k)
    (returned : (run h steps (start config generator memory)).Returned call)
    (at_ : (run h steps (start config generator memory)).pool.lanes[k]? = some lane) :
    Drained h (run h steps (start config generator memory)) k ∨
      .abort ∈ steps ∧ lane.mailbox.phase = .aborted := by
  obtain ⟨stops, waits, finished⟩ := returned
  have stopped (is : lane.mailbox.phase = .stopped) :
      Drained h (run h steps (start config generator memory)) k :=
    ⟨run_retired at_ is, run_quiet at_ (by rw [is]; rfl)⟩
  by_cases up : .abort ∈ steps
  · have ended := (run_accounted (start_accounted config generator memory)).ended_of_finished
      waits awaits finished at_
    cases phase : lane.mailbox.phase with
    | stopped => exact .inl (stopped phase)
    | aborted => exact .inr ⟨up, rfl⟩
    | _ => simp [phase, ConsumerPhase.ended] at ended
  · have orderly := run_orderly (h := h) (start_orderly config generator memory) up
    exact .inl (stopped (orderly.stopped_of_finished awaits waits finished at_))

/-- When a call of quit has returned, each lane that the pool had before the call is drained. Only a
lane that an earlier call stops, which has not returned, may still be at work, and one whose host
went down has not come so far. -/
theorem quit_returns (h : Handler α β γ σ) (config : PoolConfig) (generator : Generator)
    (memory : σ) (before later : List (Step α γ σ)) :
    let s := run h before (start config generator memory)
    let t := run h later (s.apply h .quit)
    t.Returned s.quits.length →
      ∀ k < s.pool.lanes.length,
        Drained h t k ∨
        (∃ call < s.quits.length, t.Awaits call k ∧ ¬ t.Returned call) ∨
        (.abort ∈ before ++ later ∧
          ∃ lane, t.pool.lanes[k]? = some lane ∧ lane.mailbox.phase = .aborted) := by
  intro s t returned k below
  have whole : t = run h (before ++ .quit :: later) (start config generator memory) := by
    rw [run_append, run_cons]
  have accounted : s.Accounted := run_accounted (start_accounted config generator memory)
  have evolves : Pool.Evolves h .any s.pool t.pool :=
    (s.apply_evolves .quit).trans (run_evolves later (s.apply h .quit))
  have at_ : s.pool.lanes[k]? = some s.pool.lanes[k] := List.getElem?_eq_getElem below
  obtain ⟨lane, -, there, -, -⟩ := evolves.lane at_
  obtain ⟨call, upTo, awaits⟩ := accounted.quit_awaits (h := h) at_
  have still : t.Awaits call k := run_awaits awaits later
  by_cases back : t.Returned call
  · rcases run_returned (whole ▸ still) (whole ▸ back) (whole ▸ there) with drained | ⟨down, is⟩
    · exact .inl (whole ▸ drained)
    · exact .inr (.inr ⟨by simpa using down, lane, there, is⟩)
  · have earlier : call ≠ s.quits.length := fun same => back (same ▸ returned)
    exact .inr (.inl ⟨call, by omega, still, back⟩)

/-- A lane that has not said farewell is not drained. -/
theorem not_drained_of_silent
    (silent : Mailbox.farewells (LaneEvent.inMailbox (s.pool.laneEvents k)) = []) :
    ¬ Drained h s k := by
  rintro ⟨⟨-, outcome, farewells⟩, -⟩
  rw [silent] at farewells
  cases farewells

/-- A lane with a request to handle. -/
def loadedStart : List (Step Nat Nat (List Duty)) :=
  [.grow 1 none, .sendTo 1 10 false]

/-- A second call returns at once while the lane still has the request and the farewell before it,
and a call returns although the host went down and the lane will never handle the request. -/
theorem loadedStart_is_not_drained :
    let first := run diarist (loadedStart ++ [.quit]) (start .standard (.seeded 0) [])
    let second := first.apply diarist .quit
    let down := run diarist (loadedStart ++ [.abort]) (start .standard (.seeded 0) [])
    let late := down.apply diarist .quit
    (first.pool.lanes.length = 1 ∧ second.Returned first.quits.length ∧
      ¬ Drained diarist second 0 ∧ second.pool.memory = [] ∧
      (run diarist (List.replicate 4 (.consume 0 0)) second).pool.memory =
        [.request 10, .farewell]) ∧
    (down.pool.lanes.length = 1 ∧ late.Returned down.quits.length ∧ ¬ Drained diarist late 0) := by
  intro first second down late
  have second_silent :
      Mailbox.farewells (LaneEvent.inMailbox (second.pool.laneEvents 0)) = [] := by decide +kernel
  have late_silent :
      Mailbox.farewells (LaneEvent.inMailbox (late.pool.laneEvents 0)) = [] := by decide +kernel
  exact ⟨⟨by decide +kernel, by decide +kernel, not_drained_of_silent second_silent,
    by decide +kernel, by decide +kernel⟩, by decide +kernel, by decide +kernel,
    not_drained_of_silent late_silent⟩

/-- The pool grows again between the two calls. The second one returns first. -/
def overtakenQuit : List (Step Nat Nat (List Duty)) :=
  [.grow 1 none, .sendTo 1 10 false, .quit, .grow 1 none, .sendTo 1 11 false]

theorem overtakenQuit_drains_second_lane :
    let s := run diarist overtakenQuit (start .standard (.seeded 0) [])
    let later := [.consume 0 1, .consume 0 1, .consume 0 1, .consume 0 1, .resume 1]
    let t := run diarist later (s.apply diarist .quit)
    t.Returned s.quits.length ∧ Drained diarist t 1 ∧ ¬ t.Returned 0 ∧
    t.pool.memory = [.request 11, .farewell] := by
  intro s later t
  have returned : t.Returned s.quits.length := by decide +kernel
  have waiting : (t.quits[0]?).map (·.map (·.place)) = some [0] := by decide +kernel
  refine ⟨returned, ?_, by decide +kernel, by decide +kernel⟩
  rcases quit_returns diarist .standard (.seeded 0) [] overtakenQuit later returned 1
    (by decide +kernel) with drained | ⟨call, earlier, ⟨stops, waits, mine⟩, -⟩ | ⟨down, -⟩
  · exact drained
  · obtain rfl : call = 0 := Nat.lt_one_iff.mp earlier
    obtain ⟨stops', waits', places⟩ := Option.map_eq_some_iff.mp waiting
    obtain rfl : stops' = stops := Option.some.inj (waits'.symm.trans waits)
    simp [places] at mine
  · simp [overtakenQuit, later] at down

end RunningPool
end Lanes
