import Lanes.Proofs.Mailbox.Replies
import Lanes.Proofs.Pool.Run

/-!
# Calls of the handler

The handler is called for the messages of a lane by steps of the lane's consumer and by nothing
else, once for each message that the consumer takes out, and the lane's events show these calls with
their outcomes.
-/
namespace Lanes

/-! ### Outcomes that lanes show -/

section Outcomes
variable {α β γ σ : Type} {h : Handler α β γ σ} {outer : Influence α γ}
  {P : Outcome (Option β) → Prop}

/-- An outcome that a lane shows is one of the handler's. -/
theorem Lane.Move.handlings {lane lane' : Lane α β γ} {events : List (LaneEvent α β)}
    (only : ∀ {id table message outcome table'},
      h.Handles id table message outcome table' → P outcome)
    (m : Move h outer lane events lane') :
    ∀ handling ∈ Mailbox.handlings (LaneEvent.inMailbox events),
      ∃ outcome, handling.2 = some outcome ∧ P outcome := by
  cases m with
  | dispatch _ _ _ handled => simpa using only handled
  | _ => simp

theorem Lane.Moves.handlings {lane lane' : Lane α β γ} {events : List (LaneEvent α β)}
    (only : ∀ {id table message outcome table'},
      h.Handles id table message outcome table' → P outcome)
    (m : Moves h outer lane events lane') :
    ∀ handling ∈ Mailbox.handlings (LaneEvent.inMailbox events),
      ∃ outcome, handling.2 = some outcome ∧ P outcome := by
  induction m with
  | refl => simp
  | tail _ last ih =>
    simp only [LaneEvent.inMailbox_append, Mailbox.handlings_append, List.mem_append]
    rintro handling (before | now)
    · exact ih handling before
    · exact last.handlings only handling now

theorem Pool.Evolves.handlings {p p' : Pool α β γ σ} {k : Nat} {events : List (LaneEvent α β)}
    (only : ∀ {id table message outcome table'},
      h.Handles id table message outcome table' → P outcome)
    (evolves : Evolves h outer p p') (grown : p'.laneEvents k = p.laneEvents k ++ events) :
    ∀ handling ∈ Mailbox.handlings (LaneEvent.inMailbox events),
      ∃ outcome, handling.2 = some outcome ∧ P outcome := by
  cases at_ : p.lanes[k]? with
  | some lane =>
    obtain ⟨lane', events', -, told, moves⟩ := evolves.lane at_
    obtain rfl := List.append_cancel_left (grown.symm.trans told)
    exact moves.handlings only
  | none =>
    obtain ⟨-, same⟩ | ⟨id, tick, lane', events', -, told, moves⟩ := evolves.absent at_
    · obtain rfl : events = [] := by simpa [same] using grown
      simp
    · obtain rfl := List.append_cancel_left (grown.symm.trans told)
      exact moves.handlings only

/-- Panics at everything. -/
def Handler.failing (panic : Panic) : Handler α β γ σ where
  process _ _ _ table memory := .done (.panicked panic, table, memory)
  onTick _ _ table memory := (.panicked panic, table, memory)

theorem Handler.failing_handles {panic : Panic} {id : LaneId} {table table' : Table γ}
    {message : LaneMessage α} {outcome : Outcome (Option β)}
    (handles : (failing panic : Handler α β γ σ).Handles id table message outcome table') :
    outcome = .panicked panic := by
  cases handles with
  | request yields =>
    cases yields
    rfl
  | tick => rfl

end Outcomes

namespace Pool
variable {α β γ σ : Type} {h : Handler α β γ σ} {p : Pool α β γ σ}

/-- How the handler ends for a message that is taken out of a lane now. -/
def outcome (h : Handler α β γ σ) (now : Moment) (place : Nat) (lane : Lane α β γ)
    (message : LaneMessage α) (p : Pool α β γ σ) : Outcome (Option β) :=
  (handle h now lane.id lane.table message (p.updateLane place (·.take message))).1.1

/-- How the handler ends for a request that is taken out of a lane now. -/
def requestOutcome (h : Handler α β γ σ) (now : Moment) (place : Nat) (lane : Lane α β γ)
    (request : α) (p : Pool α β γ σ) : Outcome β :=
  ((h.process lane.id now request lane.table p.memory).run forward
    (p.updateLane place (·.take (.request request)))).1.1

/-- How the handler ends for a tick that is taken out of a lane now. -/
def tickOutcome (h : Handler α β γ σ) (now : Moment) (lane : Lane α β γ) (p : Pool α β γ σ) :
    Outcome Unit :=
  (h.onTick lane.id now lane.table p.memory).1

theorem outcome_request (h : Handler α β γ σ) (now : Moment) (place : Nat) (lane : Lane α β γ)
    (request : α) (p : Pool α β γ σ) : p.outcome h now place lane (.request request) =
      (p.requestOutcome h now place lane request).map some := rfl

theorem outcome_tick (h : Handler α β γ σ) (now : Moment) (place : Nat) (lane : Lane α β γ)
    (p : Pool α β γ σ) : p.outcome h now place lane .tick =
      (p.tickOutcome h now lane).map (fun _ => none) := rfl

/-- The handler's call in a step for the lane at a place, if there is one. -/
def calls (h : Handler α β γ σ) (k : Nat) (p : Pool α β γ σ) :
    RunningPool.Step α γ σ → List (Envelope (LaneMessage α) × Outcome (Option β))
  | .consume now place =>
    if place = k then
      match p.lanes[place]? with
      | none => []
      | some lane =>
        match lane.mailbox.turn with
        | .dispatch envelope => [(envelope, p.outcome h now place lane envelope.payload)]
        | _ => []
    else []
  | _ => []

theorem mem_calls {k : Nat} {step : RunningPool.Step α γ σ}
    {envelope : Envelope (LaneMessage α)} {ended : Outcome (Option β)} :
    (envelope, ended) ∈ p.calls h k step ↔ ∃ now lane, step = .consume now k ∧
      p.lanes[k]? = some lane ∧ lane.mailbox.turn = .dispatch envelope ∧
      p.outcome h now k lane envelope.payload = ended := by
  constructor
  · intro mem
    cases step with
    | consume now place =>
      by_cases here : place = k
      · subst here
        cases at_ : p.lanes[place]? with
        | none => simp [calls, at_] at mem
        | some lane =>
          cases turn : lane.mailbox.turn with
          | dispatch first =>
            obtain ⟨rfl, rfl⟩ : envelope = first ∧
                ended = p.outcome h now place lane first.payload := by
              simpa [calls, at_, turn] using mem
            exact ⟨now, lane, rfl, rfl, turn, rfl⟩
          | _ => simp [calls, at_, turn] at mem
      · simp [calls, here] at mem
    | _ => simp [calls] at mem
  · rintro ⟨now, lane, rfl, at_, turn, rfl⟩
    simp [calls, at_, turn]

theorem Admits.told {sends : α → Prop} {p' : Pool α β γ σ} (a : Admits sends p p') (k : Nat) :
    ∃ envelopes : List (Envelope (LaneMessage α)),
      p'.laneEvents k = p.laneEvents k ++ envelopes.map (fun e => .mailbox (.accepted e)) := by
  cases at_ : p.lanes[k]? with
  | some lane =>
    obtain ⟨envelopes, mailbox, -, -, -, told⟩ := a.lane at_
    exact ⟨envelopes, told⟩
  | none => exact ⟨[], by simp [(a.absent at_).2]⟩

/-- A dispatch shows its call on the lane whose message is handled. -/
theorem dispatch_told (now : Moment) (place : Nat) (lane : Lane α β γ)
    (envelope : Envelope (LaneMessage α)) (p : Pool α β γ σ) (k : Nat) :
    ∃ envelopes : List (Envelope (LaneMessage α)),
      (p.dispatch h now place lane envelope).laneEvents k = p.laneEvents k ++
        (envelopes.map (fun e => .mailbox (.accepted e)) ++
          if place = k then
            [.mailbox (.dispatched envelope (some (p.outcome h now place lane envelope.payload)))]
          else []) := by
  let taken := p.updateLane place (·.take envelope.payload)
  obtain ⟨envelopes, told⟩ := (handle_admits h now lane.id lane.table envelope.payload taken).told k
  refine ⟨envelopes, ?_⟩
  simp only [dispatch, laneEvents_note, laneEvents_updateLane, PoolEvent.at?_mailbox]
  rw [← List.append_assoc]
  refine (congrArg (· ++ _) told).trans ?_
  split <;> rfl

theorem consume_handlings (now : Moment) (place : Nat) (p : Pool α β γ σ) (k : Nat) :
    Mailbox.handlings (LaneEvent.inMailbox ((p.consume h now place).laneEvents k)) =
      Mailbox.handlings (LaneEvent.inMailbox (p.laneEvents k)) ++
        (p.calls h k (.consume now place)).map (fun call => (call.1, some call.2)) := by
  cases at_ : p.lanes[place]? with
  | none => simp [consume, calls, at_]
  | some lane =>
    cases turn : lane.mailbox.turn with
    | dispatch envelope =>
      obtain ⟨envelopes, told⟩ := p.dispatch_told (h := h) now place lane envelope k
      simp only [consume, calls, at_, turn, told]
      split <;> simp
    | _ =>
      simp only [consume, calls, at_, turn]
      split <;> simp_all [enter, finish]

end Pool

namespace RunningPool
variable {α β γ σ : Type} {h : Handler α β γ σ}

/-- Without a step of a consumer nothing depends on the handler. -/
theorem apply_handler (h h' : Handler α β γ σ) (s : RunningPool α β γ σ) {step : Step α γ σ}
    (others : ∀ now place, step ≠ .consume now place) : s.apply h step = s.apply h' step := by
  cases step with
  | consume now place => exact absurd rfl (others now place)
  | _ => rfl

/-- Without a step of a consumer nothing is handed to the handler: a call of one that panics at
everything would show by its text. -/
theorem handlings_of_others {s : RunningPool α β γ σ} {step : Step α γ σ}
    (others : ∀ now place, step ≠ .consume now place) {k : Nat} {events : List (LaneEvent α β)}
    (grown : (s.apply h step).pool.laneEvents k = s.pool.laneEvents k ++ events) :
    Mailbox.handlings (LaneEvent.inMailbox events) = [] := by
  have shown (panic : Panic) : ∀ handling ∈ Mailbox.handlings (LaneEvent.inMailbox events),
      handling.2 = some (.panicked panic) := by
    intro handling mem
    have evolves := s.apply_evolves (h := .failing panic) step
    rw [← apply_handler h _ s others] at evolves
    obtain ⟨outcome, is, rfl⟩ := evolves.handlings (P := (· = .panicked panic))
      Handler.failing_handles grown handling mem
    exact is
  rw [List.eq_nil_iff_forall_not_mem]
  intro handling mem
  have different := (shown .other handling mem).symm.trans (shown (.text "") handling mem)
  simp at different

/-- What a lane shows of calls in a step is the step's call. -/
theorem apply_handlings (s : RunningPool α β γ σ) (step : Step α γ σ) (k : Nat) :
    Mailbox.handlings (LaneEvent.inMailbox ((s.apply h step).pool.laneEvents k)) =
      Mailbox.handlings (LaneEvent.inMailbox (s.pool.laneEvents k)) ++
        (s.pool.calls h k step).map (fun call => (call.1, some call.2)) := by
  have idle (others : ∀ now place, step ≠ .consume now place)
      (none : s.pool.calls h k step = []) :
      Mailbox.handlings (LaneEvent.inMailbox ((s.apply h step).pool.laneEvents k)) =
        Mailbox.handlings (LaneEvent.inMailbox (s.pool.laneEvents k)) ++
          (s.pool.calls h k step).map (fun call => (call.1, some call.2)) := by
    obtain ⟨events, grown⟩ := (s.apply_evolves (h := h) step).grows k
    simp [none, grown, handlings_of_others others grown]
  cases step with
  | consume now place => exact Pool.consume_handlings now place s.pool k
  | _ => exact idle (by simp) rfl

/-- The calls for a lane along a run are those that the lane shows, in the same order. -/
theorem run_handlings (steps : List (Step α γ σ)) (s : RunningPool α β γ σ) (k : Nat) :
    Mailbox.handlings (LaneEvent.inMailbox ((run h steps s).pool.laneEvents k)) =
      Mailbox.handlings (LaneEvent.inMailbox (s.pool.laneEvents k)) ++
        (along h (Pool.calls h k) steps s).map (fun call => (call.1, some call.2)) := by
  induction steps generalizing s with
  | nil => simp [along, visits]
  | cons step steps ih =>
    rw [run_cons, ih, apply_handlings]
    simp [along, visits]

/-- What is contributed along a run is contributed by one of its steps. -/
theorem mem_along {τ : Type} {f : Pool α β γ σ → Step α γ σ → List τ} {steps : List (Step α γ σ)}
    {s : RunningPool α β γ σ} {x : τ} : x ∈ along h f steps s ↔
      ∃ step earlier later, steps = earlier ++ step :: later ∧
        x ∈ f (run h earlier s).pool step := by
  induction steps generalizing s with
  | nil => simp [along, visits]
  | cons first steps ih =>
    have later : x ∈ along h f (first :: steps) s ↔
        x ∈ f s.pool first ∨ x ∈ along h f steps (s.apply h first) := by
      simp [along, visits]
    have split (step : Step α γ σ) :=
      @exists_split_cons _ (fun earlier _ => x ∈ f (run h earlier s).pool step) first step steps
    simp only [later, ih, split, exists_or, run_nil, run_cons]
    simp

/-- A call for a lane is made by a step of its consumer. -/
theorem mem_calls_along {steps : List (Step α γ σ)} {s : RunningPool α β γ σ} {k : Nat}
    {envelope : Envelope (LaneMessage α)} {outcome : Outcome (Option β)} :
    (envelope, outcome) ∈ along h (Pool.calls h k) steps s ↔
      ∃ now earlier later lane, steps = earlier ++ .consume now k :: later ∧
        (run h earlier s).pool.lanes[k]? = some lane ∧
        lane.mailbox.turn = .dispatch envelope ∧
        (run h earlier s).pool.outcome h now k lane envelope.payload = outcome := by
  simp only [mem_along, Pool.mem_calls]
  constructor
  · rintro ⟨step, earlier, later, split, now, lane, rfl, at_, turn, is⟩
    exact ⟨now, earlier, later, lane, split, at_, turn, is⟩
  · rintro ⟨now, earlier, later, lane, split, at_, turn, is⟩
    exact ⟨_, earlier, later, split, now, lane, rfl, at_, turn, is⟩

end RunningPool
end Lanes
