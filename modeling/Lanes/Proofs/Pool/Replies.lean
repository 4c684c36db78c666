import Lanes.Proofs.Queue.Replies
import Lanes.Proofs.Lane.Shutdown
import Lanes.Proofs.Pool.Calls

/-!
# Replies of lanes

A lane is a queue whose processor is always set, and only requests want replies. So a sender is told
what the handler made of its own request, or that the host of the lane went down before.
-/
namespace Lanes

/-! ### Who wants a reply -/

section Asked
variable {α β γ σ : Type} {h : Handler α β γ σ} {outer : Influence α γ} {lane lane' : Lane α β γ}
  {events : List (LaneEvent α β)}

theorem Lane.beat_asks_nothing (lane : Lane α β γ) :
    ∀ e ∈ lane.beat.2.1, e.payload = .tick ∧ e.wantsReply = false := by
  rcases lane.beat_cases with ⟨-, eq⟩ | ⟨-, envelope, mailbox, ok, eq⟩ | ⟨-, -, eq⟩ | ⟨-, -, eq⟩
  case inr.inl =>
    obtain ⟨-, rfl, -⟩ := Mailbox.accept?_eq_ok_iff.mp ok
    simp [eq]
  all_goals simp [eq]

theorem Lane.Move.asks (m : Move h outer lane events lane') :
    ∀ e ∈ Mailbox.acceptances (LaneEvent.inMailbox events), e.wantsReply = true →
      ∃ request, e.payload = .request request := by
  have beaten : ∀ e ∈ lane.beat.2.1.toList, e.wantsReply = true →
      ∃ request, e.payload = .request request := by
    intro e mem wants
    have silent := (lane.beat_asks_nothing e (Option.mem_toList.mp mem)).2
    rw [wants] at silent
    cases silent
  cases m with
  | accept _ ok =>
    obtain ⟨-, rfl, -⟩ := Mailbox.accept?_eq_ok_iff.mp ok
    simp
  | dispatch _ _ requests =>
    intro e mem _
    obtain ⟨request, -, is⟩ := requests e (by simpa using mem)
    exact ⟨request, is⟩
  | beat => simpa using beaten
  | lastBeat => simpa using beaten
  | _ => simp

/-- Only requests want replies. -/
theorem Lane.Moves.asks (m : Moves h outer lane events lane') :
    ∀ e ∈ Mailbox.acceptances (LaneEvent.inMailbox events), e.wantsReply = true →
      ∃ request, e.payload = .request request := by
  induction m with
  | refl => simp
  | tail _ last ih =>
    simp only [LaneEvent.inMailbox_append, Mailbox.acceptances_append, List.mem_append]
    rintro e (before | now)
    · exact ih e before
    · exact last.asks e now

end Asked

namespace Pool
variable {α β γ σ : Type}

/-- What the sender of a request that is taken out of a lane now is told. -/
inductive Replies (h : Handler α β γ σ) (now : Moment) (place : Nat) (lane : Lane α β γ)
    (request : α) (p : Pool α β γ σ) : Except Error (Option β) → Prop
  | returned {value : β} (ran : p.requestOutcome h now place lane request = .returned value) :
      Replies h now place lane request p (.ok (some value))
  | failed {cause : Error} (ran : p.requestOutcome h now place lane request = .failed cause) :
      Replies h now place lane request p (.error cause)
  | panicked {panic : Panic} (ran : p.requestOutcome h now place lane request = .panicked panic) :
      Replies h now place lane request p (.error (.internal ("queue: " ++ panic.message)))

theorem replies_verdict (h : Handler α β γ σ) (now : Moment) (place : Nat) (lane : Lane α β γ)
    (request : α) (p : Pool α β γ σ) :
    p.Replies h now place lane request
      (Mailbox.verdict (some (p.outcome h now place lane (.request request)))) := by
  rw [outcome_request]
  cases ran : p.requestOutcome h now place lane request with
  | returned value => exact .returned ran
  | failed cause => exact .failed ran
  | panicked panic => exact .panicked ran

end Pool

namespace RunningPool
variable {α β γ σ : Type} {h : Handler α β γ σ}

/-- How the sender of a request to a lane is answered in a run. -/
inductive LaneAnswers (h : Handler α β γ σ) (s : RunningPool α β γ σ) (steps : List (Step α γ σ))
    (k : Nat) (envelope : Envelope (LaneMessage α)) : Except Error (Option β) → Prop
  | taken {now : Moment} {earlier later : List (Step α γ σ)} {lane : Lane α β γ} {request : α}
      {answer : Except Error (Option β)} (split : steps = earlier ++ .consume now k :: later)
      (at_ : (run h earlier s).pool.lanes[k]? = some lane)
      (turn : lane.mailbox.turn = .dispatch envelope)
      (message : envelope.payload = .request request)
      (replies : (run h earlier s).pool.Replies h now k lane request answer) :
      LaneAnswers h s steps k envelope answer
  | dropped (down : .abort ∈ steps) :
      LaneAnswers h s steps k envelope (.error (.channel "queue consumer dropped the reply"))

variable {config : PoolConfig} {generator : Generator} {memory : σ} {steps : List (Step α γ σ)}
  {k : Nat} {lane : Lane α β γ} {envelope : Envelope (LaneMessage α)}

theorem lane_answers
    (at_ : (run h steps (start config generator memory)).pool.lanes[k]? = some lane)
    (accepted : envelope ∈ Mailbox.acceptances (LaneEvent.inMailbox
      ((run h steps (start config generator memory)).pool.laneEvents k)))
    (wants : envelope.wantsReply = true) {answer : Except Error (Option β)}
    (replied : lane.mailbox.reply? envelope.serial = some answer) :
    LaneAnswers h (start config generator memory) steps k envelope answer := by
  obtain ⟨id, tick, moves⟩ := lane_moves_any at_
  obtain ⟨lost, settled⟩ := moves.mailbox.settles
  obtain ⟨request, is⟩ := moves.asks envelope accepted wants
  rcases (settled.reply?_eq_some_iff moves.mailbox accepted wants answer).mp replied with
    ⟨outcome, mem, rfl⟩ | ⟨gone, rfl⟩
  · have shown := Mailbox.mem_handlings.mpr mem
    rw [run_handlings] at shown
    obtain ⟨⟨e, ended⟩, call, same⟩ : ∃ call ∈ along h (Pool.calls h k) steps
        (start config generator memory), (call.1, some call.2) = (envelope, outcome) := by
      simpa [start, Pool.new, Pool.laneEvents] using shown
    obtain ⟨rfl, rfl⟩ := Prod.mk.inj same
    obtain ⟨now, earlier, later, first, split, there, turn, rfl⟩ := mem_calls_along.mp call
    refine .taken split there turn is ?_
    rw [is]
    exact Pool.replies_verdict ..
  · refine .dropped ?_
    by_contra up
    obtain ⟨id', tick', kept⟩ := lane_moves_hosted up at_
    exact (kept.kept (fun down => down) (.new ..)).hosted (settled.gone (List.ne_nil_of_mem gone)).1

/-- What senders of requests to the lane at a place get to know after some steps. -/
structure LaneRepliesSoundly (h : Handler α β γ σ) (s : RunningPool α β γ σ)
    (steps : List (Step α γ σ)) (k : Nat) : Prop where
  accepted : ∀ request place serial,
    ((run h steps s).pool.submit k request true).1 = .awaiting place serial →
      place = k ∧
      Mailbox.acceptances (LaneEvent.inMailbox
          (((run h steps s).pool.submit k request true).2.laneEvents k)) =
        Mailbox.acceptances (LaneEvent.inMailbox ((run h steps s).pool.laneEvents k)) ++
          [⟨serial, .request request, true⟩]
  answered : ∀ e ∈ Mailbox.acceptances (LaneEvent.inMailbox ((run h steps s).pool.laneEvents k)),
    e.wantsReply = true → ∀ answer,
      (run h steps s).pool.outcome? (.awaiting k e.serial) = some answer →
        LaneAnswers h s steps k e answer
  waiting : ∀ e ∈ Mailbox.acceptances (LaneEvent.inMailbox ((run h steps s).pool.laneEvents k)),
    e.wantsReply = true → ∀ lane, (run h steps s).pool.lanes[k]? = some lane →
      ((run h steps s).pool.outcome? (.awaiting k e.serial) = none ↔ e ∈ lane.mailbox.buffer)
  notEmpty : ∀ e ∈ Mailbox.acceptances (LaneEvent.inMailbox ((run h steps s).pool.laneEvents k)),
    e.wantsReply = true →
      (run h steps s).pool.outcome? (.awaiting k e.serial) ≠ some (.ok none)
  /-- A lane is always configured; what sounds otherwise comes from the handler. -/
  configured : ∀ e ∈ Mailbox.acceptances (LaneEvent.inMailbox ((run h steps s).pool.laneEvents k)),
    e.wantsReply = true → ∀ what,
      (run h steps s).pool.outcome? (.awaiting k e.serial) =
          some (.error (.unconfigured what)) →
        ∃ now earlier later lane request, steps = earlier ++ .consume now k :: later ∧
          (run h earlier s).pool.lanes[k]? = some lane ∧
          lane.mailbox.turn = .dispatch e ∧ e.payload = .request request ∧
          (run h earlier s).pool.requestOutcome h now k lane request =
            .failed (.unconfigured what)

theorem run_laneRepliesSoundly (h : Handler α β γ σ) (config : PoolConfig) (generator : Generator)
    (memory : σ) (steps : List (Step α γ σ)) (k : Nat) :
    LaneRepliesSoundly h (start config generator memory) steps k := by
  have answered (e) (mem : e ∈ Mailbox.acceptances (LaneEvent.inMailbox
        ((run h steps (start config generator memory)).pool.laneEvents k)))
      (wants : e.wantsReply = true) (answer) (replied : (run h steps
        (start config generator memory)).pool.outcome? (.awaiting k e.serial) = some answer) :
      LaneAnswers h (start config generator memory) steps k e answer := by
    obtain ⟨lane, at_, replied⟩ := Option.bind_eq_some_iff.mp replied
    exact lane_answers at_ mem wants replied
  constructor
  case accepted =>
    intro request place serial ok
    obtain ⟨number, delivered, told⟩ | ⟨cause, eq⟩ :=
      (run h steps (start config generator memory)).pool.deliver_told k (.request request) true
    · simp only [Pool.submit, delivered, if_true, Receipt.awaiting.injEq] at ok
      obtain ⟨rfl, rfl⟩ := ok
      rw [Pool.submit_snd, told]
      simp
    · simp [Pool.submit, eq] at ok
  case answered => exact answered
  case waiting =>
    intro e mem wants lane at_
    obtain ⟨id, tick, moves⟩ := lane_moves_any at_
    obtain ⟨lost, settled⟩ := moves.mailbox.settles
    simpa [Pool.outcome?, at_] using settled.reply?_eq_none_iff moves.mailbox mem wants
  case notEmpty =>
    intro e mem wants replied
    rcases answered e mem wants _ replied with ⟨-, -, -, -, ⟨⟩⟩
  case configured =>
    intro e mem wants what replied
    rcases answered e mem wants _ replied with ⟨split, at_, turn, is, replies⟩
    cases replies with
    | failed ran => exact ⟨_, _, _, _, _, split, at_, turn, is, ran⟩

end RunningPool

/-- Each sender that waits for a reply gets one, its own: to queues what the processor made of its
payload when the consumer took it, a refusal if there was no processor then, or the notice that the
host went down before. A refused submission leaves no trace, an ended queue owes nobody a reply, and
lanes reply with what their handler made of the request. -/
theorem replies_reach_senders :
    (∀ {α β σ : Type} (capacity : Nat) (memory : σ) (steps : List (Queue.Step α β σ)),
      Queue.RepliesSoundly (.new capacity memory) steps) ∧
    ∀ {α β γ σ : Type} (h : Handler α β γ σ) (config : PoolConfig) (generator : Generator)
      (memory : σ) (steps : List (RunningPool.Step α γ σ)) (k : Nat),
      RunningPool.LaneRepliesSoundly h (.start config generator memory) steps k :=
  ⟨Queue.run_repliesSoundly, RunningPool.run_laneRepliesSoundly⟩

/-- Each of the five payloads that were accepted has its own answer, and the last one is told that
the host went down. -/
theorem lateProcessorRun_is_answered :
    (Queue.run Queue.lateProcessorRun (.new 4 ())).mailbox.replies =
      [(0, .error (.unconfigured "queue processor")),
        (1, .error (.internal "queue: unknown panic payload")), (2, .error (.callback "one")),
        (3, .ok 2), (4, .error .replyDropped)] ∧
    Queue.Answers (.new 4 ()) Queue.lateProcessorRun ⟨3, 2, true⟩ (.ok 2) ∧
    (Queue.run (Queue.lateProcessorRun.take 9) (.new 4 ())).processor =
      some Queue.fussyProcessor := by
  obtain ⟨sound, -⟩ := replies_reach_senders
  have replies := sound 4 () Queue.lateProcessorRun
  refine ⟨rfl, (replies.answered ⟨3, 2, true⟩ ?_ rfl (.ok 2)).mp rfl,
    replies.processor _ (Queue.lateProcessorRun.drop 9) rfl⟩
  exact List.mem_of_getElem? (rfl : (Queue.run Queue.lateProcessorRun (.new 4 ())).acceptances[3]? = _)

end Lanes
