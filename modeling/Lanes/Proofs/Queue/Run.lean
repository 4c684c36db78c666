import Lanes.Queue
import Lanes.Proofs.Mailbox.Conservation

/-!
# Runs of a queue

A run is a list of steps, taken in any order: what holders of the queue do, the steps of its
consumer, and the shutdown of the consumer's host. Once the last holder has gone only the consumer
and its host act. Each step of a run is a run of moves of the mailbox.

Most of what holders do they can also do while the processor is busy. A run therefore has a list of
all that was asked of the queue, between steps or during one, which says whether the queue was told
to quit and which quit callback it has.
-/
namespace Lanes
namespace Queue
variable {α β σ : Type}

/-- What was noted, the oldest first. -/
def history (q : Queue α β σ) : List (Mailbox.Event α β) := q.journal.reverse

/-- What was accepted so far, in order of acceptance. -/
def acceptances (q : Queue α β σ) : List (Envelope α) := Mailbox.acceptances q.history

/-- What was handed to the processor so far, in order. -/
def dispatches (q : Queue α β σ) : List (Envelope α) := Mailbox.dispatches q.history

/-- One step of a run. -/
inductive Step (α β σ : Type) where
  | push (payload : α)
  | send (payload : α) (wantsReply : Bool)
  | setProcessor (processor : Processor α β σ)
  | setFarewell (farewell : Farewell σ)
  | close
  /-- Who closed the queue finds that its consumer has ended. -/
  | acknowledge
  /-- The last holder goes away. -/
  | drop
  | consume
  /-- The host of the consumer goes down. -/
  | abort

/-- Whether only a holder of the queue can take the step. -/
def Step.needsHolder : Step α β σ → Bool
  | .consume | .abort => false
  | _ => true

def perform (q : Queue α β σ) : Step α β σ → Queue α β σ
  | .push payload => (q.push payload).2
  | .send payload wantsReply => (q.submit payload wantsReply).2
  | .setProcessor processor => (q.setProcessor processor).2
  | .setFarewell farewell => (q.setFarewell farewell).2
  | .close => q.close.2
  | .acknowledge => q.acknowledge
  | .drop => q.drop
  | .consume => q.consume
  | .abort => q.abort

/-- The queue after a step. Without holders there are no steps of theirs. -/
def apply (q : Queue α β σ) (step : Step α β σ) : Queue α β σ :=
  if q.mailbox.orphaned && step.needsHolder then q else q.perform step

/-- The queue after a run. -/
def run (steps : List (Step α β σ)) (q : Queue α β σ) : Queue α β σ := steps.foldl apply q

/-- What is listed for each step of a run, in the state in which the step is taken. -/
def along {τ : Type} (list : Queue α β σ → Step α β σ → List τ) :
    List (Step α β σ) → Queue α β σ → List τ
  | [], _ => []
  | step :: steps, q => list q step ++ along list steps (q.apply step)

@[simp] theorem run_nil (q : Queue α β σ) : run [] q = q := rfl

@[simp] theorem run_cons (step : Step α β σ) (steps : List (Step α β σ)) (q : Queue α β σ) :
    run (step :: steps) q = run steps (q.apply step) := rfl

theorem run_append (steps more : List (Step α β σ)) (q : Queue α β σ) :
    run (steps ++ more) q = run more (run steps q) := List.foldl_append ..

@[simp] theorem history_note (q : Queue α β σ) (event : Mailbox.Event α β) :
    (q.note event).history = q.history ++ [event] := by
  simp [history, note]

/-! ### What is asked of a queue -/

/-- The question that a step puts to the queue, if it puts one. -/
def Step.ask? : Step α β σ → Option (QueueAsk α σ)
  | .push payload => some (.submit payload false)
  | .send payload wantsReply => some (.submit payload wantsReply)
  | .setFarewell farewell => some (.setFarewell farewell)
  | .close => some .close
  | .drop => some .drop
  | .setProcessor _ | .acknowledge | .consume | .abort => none

/-- What kinds of steps there are. -/
theorem Step.kind (step : Step α β σ) : (∃ question, step.ask? = some question) ∨
    (∃ processor, step = .setProcessor processor) ∨ step = .acknowledge ∨ step = .consume ∨
      step = .abort := by
  cases step <;> simp [ask?]

/-- A question is heard as long as somebody holds the queue. -/
def hears (q : Queue α β σ) (question : QueueAsk α σ) : List (QueueAsk α σ) :=
  if q.mailbox.orphaned then [] else [question]

def heard (asked : List (QueueAsk α σ × Queue α β σ)) : List (QueueAsk α σ) :=
  asked.flatMap fun ask => ask.2.hears ask.1

/-- What is asked while the consumer takes its next step. -/
def meanwhile (q : Queue α β σ) : List (QueueAsk α σ × Queue α β σ) :=
  match q.mailbox.turn, q.processor with
  | .dispatch envelope, some processor =>
    (processor envelope.payload q.memory).questions respond { q with mailbox := q.mailbox.take }
  | _, _ => []

/-- What is asked by a step, or while it is taken. -/
def asked (q : Queue α β σ) : Step α β σ → List (QueueAsk α σ)
  | .consume => heard q.meanwhile
  | step => step.ask?.elim [] q.hears

/-- The processors that are offered by a step. -/
def offered (q : Queue α β σ) : Step α β σ → List (Processor α β σ)
  | .setProcessor processor => if q.mailbox.orphaned then [] else [processor]
  | _ => []

@[simp] def QueueAsk.farewell? : QueueAsk α σ → Option (Farewell σ)
  | .setFarewell farewell => some farewell
  | _ => none

/-- The quit callbacks among the questions, the one that was asked for first in front. -/
def farewells (asks : List (QueueAsk α σ)) : List (Farewell σ) :=
  asks.filterMap QueueAsk.farewell?

theorem apply_ask {step : Step α β σ} {question : QueueAsk α σ} (is : step.ask? = some question)
    (q : Queue α β σ) : q.apply step = (respond question q).2 := by
  unfold apply respond
  cases step <;> simp only [Step.ask?, Option.some.injEq, reduceCtorEq] at is <;> subst is <;>
    cases q.mailbox.orphaned <;> rfl

theorem asked_ask {step : Step α β σ} {question : QueueAsk α σ} (is : step.ask? = some question)
    (q : Queue α β σ) : q.asked step = q.hears question := by
  cases step <;> simp only [Step.ask?, Option.some.injEq, reduceCtorEq] at is <;> subst is <;> rfl

theorem apply_consume (q : Queue α β σ) : q.apply .consume = q.consume := by
  simp [apply, perform, Step.needsHolder]

theorem apply_abort (q : Queue α β σ) : q.apply .abort = q.abort := by
  simp [apply, perform, Step.needsHolder]

/-- Only the first processor is taken. -/
theorem apply_setProcessor (q : Queue α β σ) (processor : Processor α β σ) :
    q.apply (.setProcessor processor) =
      { q with processor := q.processor.or (q.offered (.setProcessor processor)).head? } := by
  obtain ⟨mailbox, returned, set, farewell, memory, journal⟩ := q
  cases held : mailbox.orphaned <;> cases set <;>
    simp [apply, perform, setProcessor, offered, Step.needsHolder, held]

/-- A quit that returns has found the consumer ended, and notes it if it was aborted. -/
theorem apply_acknowledge (q : Queue α β σ) : q.apply .acknowledge = q ∨
    q.released = true ∧ (q.apply .acknowledge = { q with returned := true } ∨
      q.mailbox.phase = .aborted ∧
        q.apply .acknowledge = { q.note .foundAborted with returned := true }) := by
  unfold apply
  split
  · exact .inl rfl
  · simp only [perform, acknowledge]
    split
    · next free =>
      refine .inr ⟨free, ?_⟩
      split
      · next aborted => exact .inr ⟨aborted, rfl⟩
      · exact .inl rfl
    · exact .inl rfl

/-! ### What a step does to the mailbox -/

/-- The queue goes on to another one whose mailbox has made the moves that its history shows. -/
def Leads (q q' : Queue α β σ) : Prop :=
  ∃ events, q'.history = q.history ++ events ∧ Mailbox.Moves q.mailbox events q'.mailbox

theorem Leads.refl (q : Queue α β σ) : Leads q q := ⟨[], by simp, .refl _⟩

theorem Leads.trans {q q' q'' : Queue α β σ} (h : Leads q q') (k : Leads q' q'') :
    Leads q q'' := by
  obtain ⟨events, grown, moves⟩ := h
  obtain ⟨more, grown', moves'⟩ := k
  exact ⟨events ++ more, by simp [grown, grown'], moves.trans moves'⟩

/-- One move, noted by its events. -/
theorem Leads.single {q q' : Queue α β σ} {events : List (Mailbox.Event α β)}
    (grown : q'.history = q.history ++ events) (move : Mailbox.Move q.mailbox events q'.mailbox) :
    Leads q q' :=
  ⟨events, grown, .single move⟩

/-- A submission buffers its payload behind the others, or it is refused and changes nothing. -/
theorem submit_cases (q : Queue α β σ) (payload : α) (wantsReply : Bool) :
    (∃ envelope mailbox, q.mailbox.accept? payload wantsReply = .ok (envelope, mailbox) ∧
      q.submit payload wantsReply =
        (.ok envelope.serial, { q with mailbox }.note (.accepted envelope))) ∨
    (∃ cause, q.mailbox.refusal = some cause ∧
      q.submit payload wantsReply = (.error cause, q)) := by
  unfold submit
  cases h : q.mailbox.accept? payload wantsReply with
  | error cause => exact .inr ⟨cause, Mailbox.accept?_eq_error_iff.mp h, rfl⟩
  | ok accepted => exact .inl ⟨accepted.1, accepted.2, rfl, rfl⟩

/-- Only the first of those who tell a queue to quit has an effect. -/
theorem close_cases (q : Queue α β σ) :
    (q.mailbox.closed = true ∧ q.close = (.error .alreadyClosed, q)) ∨
    (q.mailbox.closed = false ∧ q.close =
      (.ok (), { q with mailbox := { q.mailbox with closed := true } }.note .closed)) := by
  cases closed : q.mailbox.closed <;> simp [close, Mailbox.close?, closed]

/-- What a queue has been told by questions. The first quit callback stays, only who tells it to quit
closes it, and only its last holder leaves it without one. -/
structure Told (q : Queue α β σ) (asks : List (QueueAsk α σ)) (q' : Queue α β σ) : Prop where
  farewell : q'.farewell = q.farewell.or (farewells asks).head?
  closed : q'.mailbox.closed = true ↔ q.mailbox.closed = true ∨ .close ∈ asks
  orphaned : q'.mailbox.orphaned = true ↔ q.mailbox.orphaned = true ∨ .drop ∈ asks

theorem Told.trans {q q' q'' : Queue α β σ} {asks more : List (QueueAsk α σ)} (h : Told q asks q')
    (k : Told q' more q'') : Told q (asks ++ more) q'' where
  farewell := by
    simp [k.farewell, h.farewell, farewells, List.filterMap_append, List.head?_append,
      Option.or_assoc]
  closed := by rw [k.closed, h.closed, List.mem_append, or_assoc]
  orphaned := by rw [k.orphaned, h.orphaned, List.mem_append, or_assoc]

/-- Nothing is asked, and what could be told stays. -/
theorem Told.of_eq {q q' : Queue α β σ} (farewell : q'.farewell = q.farewell)
    (closed : q'.mailbox.closed = q.mailbox.closed)
    (orphaned : q'.mailbox.orphaned = q.mailbox.orphaned) : Told q [] q' :=
  ⟨by simp [farewell, farewells], by simp [closed], by simp [orphaned]⟩

/-- Up to a moment of a step at which the processor is busy: the mailbox has received what its
events show, and the processor stays. A queue without holders is left alone. -/
structure TakesIn (q : Queue α β σ) (asks : List (QueueAsk α σ))
    (events : List (Mailbox.Event α β)) (q' : Queue α β σ) : Prop extends Told q asks q' where
  history : q'.history = q.history ++ events
  mailbox : Mailbox.Sendings q.mailbox events q'.mailbox
  processor : q'.processor = q.processor
  returned : q'.returned = q.returned
  alone : q.mailbox.orphaned = true → events = []

namespace TakesIn
variable {q q' q'' : Queue α β σ} {asks more : List (QueueAsk α σ)}
  {events later : List (Mailbox.Event α β)}

theorem refl (q : Queue α β σ) : TakesIn q [] [] q :=
  ⟨.of_eq rfl rfl rfl, by simp, .refl _, rfl, rfl, fun _ => rfl⟩

theorem trans (h : TakesIn q asks events q') (k : TakesIn q' more later q'') :
    TakesIn q (asks ++ more) (events ++ later) q'' where
  toTold := h.toTold.trans k.toTold
  history := by rw [k.history, h.history, List.append_assoc]
  mailbox := h.mailbox.trans k.mailbox
  processor := k.processor.trans h.processor
  returned := k.returned.trans h.returned
  alone gone := by
    rw [h.alone gone, k.alone (h.mailbox.sent.orphaned gone)]
    rfl

theorem leads (h : TakesIn q asks events q') : Leads q q' := ⟨events, h.history, h.mailbox.moves⟩

end TakesIn

theorem respond_takesIn (question : QueueAsk α σ) (q : Queue α β σ) :
    ∃ events, TakesIn q (q.hears question) events (respond question q).2 := by
  cases held : q.mailbox.orphaned with
  | true =>
    simp only [respond, hears, held, if_true]
    exact ⟨[], .refl q⟩
  | false =>
    have alone {events : List (Mailbox.Event α β)} : q.mailbox.orphaned = true → events = [] := by
      simp [held]
    simp only [respond, hears, held, Bool.false_eq_true, if_false]
    cases question with
    | submit payload wantsReply =>
      obtain ⟨envelope, mailbox, accepted, eq⟩ | ⟨cause, -, eq⟩ := q.submit_cases payload wantsReply
      · obtain ⟨-, -, put⟩ := Mailbox.accept?_eq_ok_iff.mp accepted
        simp only [eq]
        exact ⟨_, ⟨by simp [farewells, note], by simp [note, put, Mailbox.put],
          by simp [note, put, Mailbox.put]⟩, history_note .., .single (.accept accepted), rfl, rfl,
          alone⟩
      · simp only [eq]
        exact ⟨[], ⟨by simp [farewells], by simp, by simp⟩, by simp, .refl _, rfl, rfl, alone⟩
    | setFarewell farewell =>
      cases set : q.farewell <;> simp only [setFarewell, set] <;>
        exact ⟨[], ⟨by simp [farewells, set], by simp, by simp⟩, by simp [history], .refl _, rfl, rfl,
          alone⟩
    | close =>
      obtain ⟨closed, eq⟩ | ⟨closed, eq⟩ := q.close_cases
      · simp only [eq]
        exact ⟨[], ⟨by simp [farewells], by simp [closed], by simp⟩, by simp, .refl _, rfl, rfl,
          alone⟩
      · simp only [eq]
        exact ⟨_, ⟨by simp [farewells, note], by simp [note], by simp [note]⟩, history_note ..,
          .single (.close (Mailbox.close?_eq_ok_iff.mpr ⟨closed, rfl⟩)), rfl, rfl, alone⟩
    | drop =>
      exact ⟨_, ⟨by simp [farewells, drop, note], by simp [drop, note, Mailbox.orphan],
        by simp [drop, note, Mailbox.orphan]⟩, history_note .., .single (.orphan _), rfl, rfl, alone⟩

/-- A step that puts a question to the queue takes in what the question does. -/
theorem apply_takesIn {step : Step α β σ} {question : QueueAsk α σ}
    (is : step.ask? = some question) (q : Queue α β σ) :
    ∃ events, TakesIn q (q.asked step) events (q.apply step) := by
  rw [apply_ask is, asked_ask is]
  exact respond_takesIn question q

/-- What has come in up to a moment of a call. -/
theorem takesIn_of_comes {result : Type} {call : Call (QueueAsk α σ) QueueReply result}
    {q q' : Queue α β σ} {asks : List (QueueAsk α σ × Queue α β σ)}
    (comes : Call.Comes respond call q asks q') : ∃ events, TakesIn q (heard asks) events q' := by
  induction comes with
  | here => exact ⟨[], .refl _⟩
  | @ask question _ before _ _ _ ih =>
    obtain ⟨events, first⟩ := respond_takesIn question before
    obtain ⟨later, rest⟩ := ih
    exact ⟨events ++ later, first.trans rest⟩

theorem process_takesIn (q : Queue α β σ) {envelope : Envelope α}
    (turn : q.mailbox.turn = .dispatch envelope) :
    ∃ events, TakesIn { q with mailbox := q.mailbox.take } (heard q.meanwhile) events
      ({ q with mailbox := q.mailbox.take }.process envelope.payload).2 := by
  obtain ⟨mailbox, returned, set, farewell, memory, journal⟩ := q
  unfold process meanwhile
  simp only [turn]
  cases set with
  | none => exact ⟨[], .refl _⟩
  | some processor =>
    obtain ⟨events, h⟩ := takesIn_of_comes
      ((processor envelope.payload memory).run_comes respond
        ⟨mailbox.take, returned, some processor, farewell, memory, journal⟩)
    exact ⟨events, ⟨h.farewell, h.closed, h.orphaned⟩, h.history, h.mailbox, h.processor, h.returned, h.alone⟩

/-- What a step of the consumer does: a step of the mailbox's consumer, in which nothing comes in if
there are no holders left. -/
structure Consumes (q : Queue α β σ) (events : List (Mailbox.Event α β)) (q' : Queue α β σ) :
    Prop extends Told q (heard q.meanwhile) q' where
  history : q'.history = q.history ++ events
  mailbox : Mailbox.Consumption q.mailbox events q'.mailbox
  processor : q'.processor = q.processor
  returned : q'.returned = q.returned
  alone : q.mailbox.orphaned = true → Mailbox.acceptances events = []

theorem Told.of_turn {q q' : Queue α β σ} (turn : ∀ envelope, q.mailbox.turn ≠ .dispatch envelope)
    (farewell : q'.farewell = q.farewell) (closed : q'.mailbox.closed = q.mailbox.closed)
    (orphaned : q'.mailbox.orphaned = q.mailbox.orphaned) : Told q (heard q.meanwhile) q' := by
  have nothing : q.meanwhile = [] := by
    unfold meanwhile
    split
    · next busy _ => exact absurd busy (turn _)
    · rfl
  rw [nothing]
  exact .of_eq farewell closed orphaned

theorem consume_spec (q : Queue α β σ) (busy : q.mailbox.turn ≠ .wait) :
    ∃ events, Consumes q events q.consume := by
  unfold consume
  cases turn : q.mailbox.turn with
  | wait => exact absurd turn busy
  | start =>
    exact ⟨[.started], .of_turn (by simp [turn]) rfl rfl rfl, history_note .., .start turn, rfl, rfl,
      fun _ => rfl⟩
  | drain =>
    exact ⟨[.draining q.mailbox.size], .of_turn (by simp [turn]) rfl rfl rfl, history_note ..,
      .drain turn, rfl, rfl, fun _ => rfl⟩
  | dispatch envelope =>
    obtain ⟨during, h⟩ := q.process_takesIn turn
    have shown := h.history
    simp only [history] at shown
    refine ⟨during ++ [.dispatched envelope _], ⟨h.farewell, ?_, ?_⟩, ?_,
      .dispatch _ turn h.mailbox, h.processor, h.returned, ?_⟩
    · simpa [dispatch, note, Mailbox.take] using h.closed
    · simpa [dispatch, note, Mailbox.take] using h.orphaned
    · simp [dispatch, note, history, shown]
    · intro orphaned
      simp [h.alone orphaned]
  | finish =>
    have quiet (envelope : Envelope α) : q.mailbox.turn ≠ .dispatch envelope := by simp [turn]
    cases farewell : q.farewell with
    | none =>
      simp only [bidFarewell, farewell]
      exact ⟨_, .of_turn quiet rfl rfl rfl, history_note .., .finish none turn, rfl, rfl, fun _ => rfl⟩
    | some f =>
      simp only [bidFarewell, farewell]
      refine ⟨[.farewell (f q.memory).1, .stopped], .of_turn quiet ?_ rfl rfl, ?_,
        .finish (some _) turn, rfl, rfl, fun _ => rfl⟩
      · simp [stop, note, farewell]
      · simp [stop, note, history]

/-- The consumer waits, or it does one thing. -/
theorem consume_cases (q : Queue α β σ) :
    (q.mailbox.turn = .wait ∧ q.consume = q) ∨ ∃ events, Consumes q events q.consume := by
  by_cases idle : q.mailbox.turn = .wait
  · refine .inl ⟨idle, ?_⟩
    unfold consume
    rw [idle]
  · exact .inr (q.consume_spec idle)

theorem consume_leads (q : Queue α β σ) : Leads q q.consume := by
  obtain ⟨-, eq⟩ | ⟨events, consumes⟩ := q.consume_cases
  · rw [eq]
    exact .refl q
  · exact .single consumes.history (.consume consumes.mailbox)

theorem abort_leads (q : Queue α β σ) : Leads q q.abort := by
  unfold abort
  cases h : q.mailbox.phase.ended with
  | true => exact .refl q
  | false => exact .single (history_note ..) (.abort h)

theorem apply_leads (q : Queue α β σ) (step : Step α β σ) : Leads q (q.apply step) := by
  obtain ⟨question, is⟩ | ⟨processor, rfl⟩ | rfl | rfl | rfl := step.kind
  · obtain ⟨events, takesIn⟩ := apply_takesIn is q
    exact takesIn.leads
  · rw [apply_setProcessor]
    exact ⟨[], by simp [history], .refl _⟩
  · obtain eq | ⟨-, eq | ⟨aborted, eq⟩⟩ := q.apply_acknowledge
    · rw [eq]
      exact .refl q
    · rw [eq]
      exact ⟨[], by simp [history], .refl _⟩
    · rw [eq]
      exact .single (by simp [history, note]) (.find aborted)
  · rw [apply_consume]
    exact q.consume_leads
  · rw [apply_abort]
    exact q.abort_leads

theorem run_leads (steps : List (Step α β σ)) (q : Queue α β σ) : Leads q (run steps q) := by
  induction steps generalizing q with
  | nil => exact .refl q
  | cons step steps ih => exact (q.apply_leads step).trans (ih (q.apply step))

/-- Whatever a run from the beginning has done to the mailbox is in the history. -/
theorem run_moves (capacity : Nat) (memory : σ) (steps : List (Step α β σ)) :
    Mailbox.Moves (Mailbox.new capacity) (run steps (new capacity memory)).history
      (run steps (new capacity memory)).mailbox := by
  obtain ⟨events, grown, moves⟩ := run_leads steps (new capacity memory)
  have fresh : (new capacity memory : Queue α β σ).history = [] := rfl
  rw [grown, fresh, List.nil_append]
  exact moves

/-! ### What a run leaves in a queue -/

theorem apply_told (q : Queue α β σ) (step : Step α β σ) :
    Told q (q.asked step) (q.apply step) := by
  obtain ⟨question, is⟩ | ⟨processor, rfl⟩ | rfl | rfl | rfl := step.kind
  · obtain ⟨events, takesIn⟩ := apply_takesIn is q
    exact takesIn.toTold
  · rw [apply_setProcessor]
    exact .of_eq rfl rfl rfl
  · obtain eq | ⟨-, eq | ⟨-, eq⟩⟩ := q.apply_acknowledge <;> rw [eq] <;> exact .of_eq rfl rfl rfl
  · rw [apply_consume]
    obtain ⟨idle, eq⟩ | ⟨events, consumes⟩ := q.consume_cases
    · rw [eq]
      exact .of_turn (by simp [idle]) rfl rfl rfl
    · exact consumes.toTold
  · rw [apply_abort, abort]
    split
    · exact .of_eq rfl rfl rfl
    · next running =>
      exact .of_eq rfl (by simp [note, Mailbox.abort, running])
        (by simp [note, Mailbox.abort, running])

/-- A run leaves the quit callback that was asked for first. The queue is closed exactly if it was
told to quit, and without holders exactly if the last one went away. -/
theorem run_told (steps : List (Step α β σ)) (q : Queue α β σ) :
    Told q (along asked steps q) (run steps q) := by
  induction steps generalizing q with
  | nil => exact .of_eq rfl rfl rfl
  | cons step steps ih => exact (q.apply_told step).trans (ih (q.apply step))

theorem apply_processor (q : Queue α β σ) (step : Step α β σ) :
    (q.apply step).processor = q.processor.or (q.offered step).head? := by
  obtain ⟨question, is⟩ | ⟨processor, rfl⟩ | rfl | rfl | rfl := step.kind
  · obtain ⟨events, takesIn⟩ := apply_takesIn is q
    have none : q.offered step = [] := by
      cases step <;> simp [Step.ask?, offered] at is ⊢
    simp [takesIn.processor, none]
  · rw [apply_setProcessor]
  · obtain eq | ⟨-, eq | ⟨-, eq⟩⟩ := q.apply_acknowledge <;> simp [eq, offered, note]
  · rw [apply_consume]
    obtain ⟨-, eq⟩ | ⟨events, consumes⟩ := q.consume_cases
    · simp [eq, offered]
    · simp [consumes.processor, offered]
  · rw [apply_abort, abort]
    split <;> simp [offered, note]

/-- The processor of a queue is the one that was offered first. -/
theorem run_processor (steps : List (Step α β σ)) (q : Queue α β σ) :
    (run steps q).processor = q.processor.or (along offered steps q).head? := by
  induction steps generalizing q with
  | nil => simp [along]
  | cons step steps ih =>
    rw [run_cons, ih, apply_processor, along, List.head?_append, Option.or_assoc]

/-- A quit returns at a step of its own, when it can. -/
theorem apply_returned {q : Queue α β σ} {step : Step α β σ}
    (past : (q.apply step).returned = true) :
    q.returned = true ∨ step = .acknowledge ∧ q.released = true := by
  obtain ⟨question, is⟩ | ⟨processor, rfl⟩ | rfl | rfl | rfl := step.kind
  · obtain ⟨events, takesIn⟩ := apply_takesIn is q
    exact .inl (takesIn.returned ▸ past)
  · rw [apply_setProcessor] at past
    exact .inl past
  · obtain eq | ⟨free, -⟩ := q.apply_acknowledge
    · rw [eq] at past
      exact .inl past
    · exact .inr ⟨rfl, free⟩
  · rw [apply_consume] at past
    obtain ⟨-, eq⟩ | ⟨events, consumes⟩ := q.consume_cases
    · rw [eq] at past
      exact .inl past
    · exact .inl (consumes.returned ▸ past)
  · rw [apply_abort, abort] at past
    split at past <;> exact .inl past

/-- A quit has returned only from a closed queue whose consumer has ended. -/
theorem run_returned {steps : List (Step α β σ)} {q : Queue α β σ}
    (sound : q.returned = true → q.mailbox.closed = true ∧ q.ended = true)
    (past : (run steps q).returned = true) :
    (run steps q).mailbox.closed = true ∧ (run steps q).ended = true := by
  induction steps generalizing q with
  | nil => exact sound past
  | cons step steps ih =>
    refine ih ?_ past
    intro now
    have before : q.mailbox.closed = true ∧ q.ended = true := by
      rcases apply_returned now with before | ⟨-, free⟩
      · exact sound before
      · simp only [released, Bool.and_eq_true] at free
        exact free.1
    obtain ⟨events, -, moves⟩ := q.apply_leads step
    exact ⟨(moves.closed before.1).1, by rw [ended, (moves.quiet before.2).2.1]; exact before.2⟩

/-! ### Moments of a run -/

/-- The moments at which the processor is busy with a payload, which was taken out before, and what
was asked of the queue meanwhile. -/
inductive Busy (q : Queue α β σ) : Envelope α → List (QueueAsk α σ) → Queue α β σ → Prop
  | processing {envelope : Envelope α} {processor : Processor α β σ} {q' : Queue α β σ}
      {asks : List (QueueAsk α σ × Queue α β σ)} (turn : q.mailbox.turn = .dispatch envelope)
      (set : q.processor = some processor)
      (moment : Call.Comes respond (processor envelope.payload q.memory)
        { q with mailbox := q.mailbox.take } asks q') : Busy q envelope (heard asks) q'

/-- The moments after some steps, with what the processor has in hand and what was asked of the queue
so far: the next step has not begun, or it is a step of the consumer and under way. -/
inductive Reaches (q : Queue α β σ) (steps : List (Step α β σ)) :
    List (Envelope α) → List (QueueAsk α σ) → Queue α β σ → Prop
  | between : Reaches q steps [] (along asked steps q) (run steps q)
  | during {envelope : Envelope α} {asks : List (QueueAsk α σ)} {q' : Queue α β σ}
      (busy : Busy (run steps q) envelope asks q') :
      Reaches q steps [envelope] (along asked steps q ++ asks) q'

theorem Busy.spec {q q' : Queue α β σ} {envelope : Envelope α} {asks : List (QueueAsk α σ)}
    (busy : Busy q envelope asks q') : q.mailbox.turn = .dispatch envelope ∧
      ∃ events, TakesIn { q with mailbox := q.mailbox.take } asks events q' := by
  cases busy with
  | processing turn set moment => exact ⟨turn, takesIn_of_comes moment⟩

theorem Reaches.told {q q' : Queue α β σ} {steps : List (Step α β σ)} {hand : List (Envelope α)}
    {asks : List (QueueAsk α σ)} (reached : Reaches q steps hand asks q') : Told q asks q' := by
  cases reached with
  | between => exact run_told steps q
  | during busy =>
    obtain ⟨-, events, taken⟩ := busy.spec
    exact (run_told steps q).trans ⟨taken.farewell, taken.closed, taken.orphaned⟩

end Queue
end Lanes
