import Lanes.Proofs.Mailbox.Replies
import Lanes.Proofs.Queue.Delivery

/-!
# Replies of a queue

A run shows for each payload how its sender is answered: by the processor that was set when the
consumer took this payload out, by a refusal if there was none, or by the end of the consumer's host
if that came first. Nothing else leaves a reply, and only payloads that wait have none.
-/
namespace Lanes
namespace Queue
variable {α β σ : Type}

/-! ### Where replies come from -/

/-- How a processor ends for a payload that is taken out of the queue now. -/
def outcome (q : Queue α β σ) (processor : Processor α β σ) (payload : α) : Outcome β :=
  ((processor payload q.memory).run respond { q with mailbox := q.mailbox.take }).1.1

/-- What the senders of payloads taken out of the queue now are told. -/
inductive Replies (q : Queue α β σ) (payload : α) : Except Error β → Prop
  | returned {processor : Processor α β σ} {value : β} (set : q.processor = some processor)
      (ran : q.outcome processor payload = .returned value) : Replies q payload (.ok value)
  | failed {processor : Processor α β σ} {cause : Error} (set : q.processor = some processor)
      (ran : q.outcome processor payload = .failed cause) : Replies q payload (.error cause)
  | panicked {processor : Processor α β σ} {text : String} (set : q.processor = some processor)
      (ran : q.outcome processor payload = .panicked (.text text)) :
      Replies q payload (.error (.internal ("queue: " ++ text)))
  | panickedOther {processor : Processor α β σ} (set : q.processor = some processor)
      (ran : q.outcome processor payload = .panicked .other) :
      Replies q payload (.error (.internal "queue: unknown panic payload"))
  | unconfigured (unset : q.processor = none) :
      Replies q payload (.error (.unconfigured "queue processor"))

/-- How the sender of a payload is answered in a run. -/
inductive Answers (q : Queue α β σ) (steps : List (Step α β σ)) (envelope : Envelope α) :
    Except Error β → Prop
  | taken {earlier later : List (Step α β σ)} {answer : Except Error β}
      (split : steps = earlier ++ .consume :: later)
      (turn : (run earlier q).mailbox.turn = .dispatch envelope)
      (replies : (run earlier q).Replies envelope.payload answer) : Answers q steps envelope answer
  | dropped {earlier later : List (Step α β σ)} (split : steps = earlier ++ .abort :: later)
      (running : (run earlier q).ended = false)
      (waits : envelope ∈ (run earlier q).mailbox.buffer) :
      Answers q steps envelope (.error (.channel "queue consumer dropped the reply"))

/-- What becomes of a payload that is taken out of the queue now. -/
def handling (q : Queue α β σ) (payload : α) : Option (Outcome β) :=
  q.processor.map (fun processor => q.outcome processor payload)

theorem process_fst (q : Queue α β σ) (payload : α) :
    ({ q with mailbox := q.mailbox.take }.process payload).1 = q.handling payload := by
  unfold process handling
  cases set : q.processor <;> simp [outcome, set]

theorem replies_iff {q : Queue α β σ} {payload : α} {answer : Except Error β} :
    q.Replies payload answer ↔ Mailbox.verdict (q.handling payload) = answer := by
  unfold handling
  constructor
  · rintro (⟨set, ran⟩ | ⟨set, ran⟩ | ⟨set, ran⟩ | ⟨set, ran⟩ | unset)
    · simp [set, ran, Mailbox.verdict]
    · simp [set, ran, Mailbox.verdict]
    · simp [set, ran, Mailbox.verdict, Outcome.contain, Site.name, Panic.message]
    · simp [set, ran, Mailbox.verdict, Outcome.contain, Site.name, Panic.message]
    · simp [unset, Mailbox.verdict]
  · rintro rfl
    cases set : q.processor with
    | none => exact .unconfigured set
    | some processor =>
      simp only [Option.map_some, Mailbox.verdict]
      cases ran : q.outcome processor payload with
      | returned value => exact .returned set ran
      | failed cause => exact .failed set ran
      | panicked panic =>
        cases panic with
        | text text => exact .panicked set ran
        | other => exact .panickedOther set ran

/-! ### Dispatches along a run -/

theorem dispatch_history {q : Queue α β σ} {envelope : Envelope α}
    (turn : q.mailbox.turn = .dispatch envelope) :
    ∃ during : List (Mailbox.Event α β), (q.dispatch envelope).history = q.history ++
        (during ++ [.dispatched envelope (q.handling envelope.payload)]) ∧
      Mailbox.handlings during = [] := by
  obtain ⟨during, taken⟩ := q.process_takesIn turn
  have told := taken.history
  simp only [history] at told
  exact ⟨during, by simp [dispatch, note, history, told, process_fst],
    taken.mailbox.sent.handlings⟩

/-- A payload is handed out by a step of the consumer and by nothing else. -/
theorem apply_dispatched {q : Queue α β σ} {step : Step α β σ} {envelope : Envelope α}
    {outcome : Option (Outcome β)} :
    .dispatched envelope outcome ∈ (q.apply step).history ↔
      .dispatched envelope outcome ∈ q.history ∨
      step = .consume ∧ q.mailbox.turn = .dispatch envelope ∧
        q.handling envelope.payload = outcome := by
  simp only [← Mailbox.mem_handlings]
  obtain ⟨question, is⟩ | ⟨processor, rfl⟩ | rfl | rfl | rfl := step.kind
  · obtain ⟨events, takesIn⟩ := apply_takesIn is q
    have other : step ≠ .consume := by
      rintro rfl
      simp [Step.ask?] at is
    simp [takesIn.history, takesIn.mailbox.sent.handlings, other]
  · rw [apply_setProcessor]
    simp [history]
  · obtain eq | ⟨-, eq | ⟨-, eq⟩⟩ := q.apply_acknowledge <;> simp [eq, history, note]
  · rw [apply_consume, consume]
    cases turn : q.mailbox.turn with
    | wait => simp
    | start => simp [history, note]
    | drain => simp [history, note]
    | finish => cases set : q.farewell <;> simp [bidFarewell, set, stop, history, note]
    | dispatch first =>
      obtain ⟨during, told, none⟩ := dispatch_history turn
      simp only [told, Mailbox.handlings_append, none, List.nil_append, Mailbox.handlings_cons,
        Mailbox.handlings_nil, Mailbox.Event.handling?, Option.toList_some, List.append_nil,
        List.mem_append, List.mem_singleton, Prod.mk.injEq, true_and,
        Mailbox.Turn.dispatch.injEq]
      refine or_congr_right ⟨?_, ?_⟩
      · rintro ⟨rfl, rfl⟩
        exact ⟨rfl, rfl⟩
      · rintro ⟨rfl, rfl⟩
        exact ⟨rfl, rfl⟩
  · rw [apply_abort, abort]
    split <;> simp [history, note]

theorem run_dispatched {q : Queue α β σ} {steps : List (Step α β σ)} {envelope : Envelope α}
    {outcome : Option (Outcome β)} :
    .dispatched envelope outcome ∈ (run steps q).history ↔
      .dispatched envelope outcome ∈ q.history ∨
      ∃ earlier later, steps = earlier ++ .consume :: later ∧
        (run earlier q).mailbox.turn = .dispatch envelope ∧
        (run earlier q).handling envelope.payload = outcome := by
  induction steps generalizing q with
  | nil => simp
  | cons step steps ih =>
    rw [run_cons, ih, apply_dispatched, or_assoc]
    refine or_congr_right (Iff.symm ?_)
    exact exists_split_cons (P := fun earlier _ =>
      (run earlier q).mailbox.turn = .dispatch envelope ∧
        (run earlier q).handling envelope.payload = outcome)

/-! ### The end of the host -/

theorem apply_aborted {q : Queue α β σ} {step : Step α β σ} :
    (q.apply step).mailbox.phase = .aborted ↔
      q.mailbox.phase = .aborted ∨ step = .abort ∧ q.ended = false := by
  by_cases before : q.mailbox.phase = .aborted
  · obtain ⟨events, -, moves⟩ := q.apply_leads step
    have same := (moves.quiet (by rw [before]; rfl)).2.1
    simp [before, same]
  · by_cases hosted : step = .abort
    · subst hosted
      rw [apply_abort, abort]
      cases past : q.mailbox.phase.ended <;>
        simp [before, past, ended, note, Mailbox.abort]
    · simp [before, hosted, apply_not_aborted hosted before]

theorem run_aborted {q : Queue α β σ} {steps : List (Step α β σ)} :
    (run steps q).mailbox.phase = .aborted ↔
      q.mailbox.phase = .aborted ∨
      ∃ earlier later, steps = earlier ++ .abort :: later ∧ (run earlier q).ended = false := by
  induction steps generalizing q with
  | nil => simp
  | cons step steps ih =>
    rw [run_cons, ih, apply_aborted, or_assoc]
    refine or_congr_right (Iff.symm ?_)
    exact exists_split_cons (P := fun earlier _ => (run earlier q).ended = false)

/-- What an abort leaves: an empty buffer, in which nothing comes any more. -/
theorem run_abort {q : Queue α β σ} (running : q.ended = false) (later : List (Step α β σ)) :
    ∃ rest, (run (.abort :: later) q).history = q.history ++ .aborted :: rest ∧
      Mailbox.Quiet rest ∧ (run (.abort :: later) q).mailbox.buffer = [] := by
  have running : q.mailbox.phase.ended = false := running
  obtain ⟨rest, grown, moves⟩ := run_leads later q.abort
  have down : q.abort.mailbox = q.mailbox.abort := by simp [abort, running, note]
  have past : q.abort.mailbox.phase = .aborted := by simp [down, Mailbox.abort, running]
  have told : q.abort.history = q.history ++ [.aborted] := by simp [abort, running, history, note]
  obtain ⟨quiet, -, kept⟩ := moves.quiet (by rw [past]; rfl)
  rw [run_cons, apply_abort]
  exact ⟨rest, by rw [grown, told, List.append_assoc]; rfl, quiet,
    by simp [kept, down, Mailbox.abort, running]⟩

/-! ### Runs from the beginning -/

section Beginning
variable {capacity : Nat} {memory : σ} {steps : List (Step α β σ)} {lost : List (Envelope α)}
  {envelope : Envelope α}

/-- What was buffered when the host of the consumer went down is what is lost. -/
theorem lost_eq
    (settled : Mailbox.Settles (Mailbox.new capacity) (run steps (new capacity memory)).history
      (run steps (new capacity memory)).mailbox lost) {earlier later : List (Step α β σ)}
    (split : steps = earlier ++ .abort :: later)
    (running : (run earlier (new capacity memory)).ended = false) :
    lost = (run earlier (new capacity memory)).mailbox.buffer := by
  subst split
  obtain ⟨rest, told, quiet, empty⟩ := run_abort running later
  -- nothing was lost before, and behind the abort nothing comes in or goes out
  have up : (run earlier (new capacity memory)).mailbox.phase ≠ .aborted := by
    intro aborted
    simp [ended, aborted, ConsumerPhase.ended] at running
  have before : Mailbox.acceptances (run earlier (new capacity memory)).history =
      Mailbox.dispatches (run earlier (new capacity memory)).history ++
        (run earlier (new capacity memory)).mailbox.buffer :=
    (run_moves capacity memory earlier).flow_of_up up
  have after := settled.acceptances_eq
  rw [run_append, told, empty] at after
  simp only [Mailbox.acceptances_append, Mailbox.dispatches_append, Mailbox.acceptances_cons,
    Mailbox.dispatches_cons, quiet.acceptances, quiet.dispatches, before] at after
  simpa using after.symm

theorem mem_lost_iff
    (settled : Mailbox.Settles (Mailbox.new capacity) (run steps (new capacity memory)).history
      (run steps (new capacity memory)).mailbox lost) :
    envelope ∈ lost ↔ ∃ earlier later, steps = earlier ++ .abort :: later ∧
      (run earlier (new capacity memory)).ended = false ∧
      envelope ∈ (run earlier (new capacity memory)).mailbox.buffer := by
  constructor
  · intro gone
    obtain ⟨aborted, -⟩ := settled.gone (List.ne_nil_of_mem gone)
    obtain fresh | ⟨earlier, later, split, running⟩ := run_aborted.mp aborted
    · cases fresh
    · exact ⟨earlier, later, split, running, lost_eq settled split running ▸ gone⟩
  · rintro ⟨earlier, later, split, running, waits⟩
    rwa [lost_eq settled split running]

/-- The reply to a payload is the answer to it. -/
theorem reply?_iff_answers (accepted : envelope ∈ (run steps (new capacity memory)).acceptances)
    (wants : envelope.wantsReply = true) (answer : Except Error β) :
    (run steps (new capacity memory)).mailbox.reply? envelope.serial = some answer ↔
      Answers (new capacity memory) steps envelope answer := by
  have moved := run_moves (β := β) capacity memory steps
  obtain ⟨lost, settled⟩ := moved.settles
  rw [settled.reply?_eq_some_iff moved accepted wants, mem_lost_iff settled]
  simp only [run_dispatched]
  constructor
  · rintro (⟨outcome, fresh | ⟨earlier, later, split, turn, rfl⟩, verdict⟩ |
      ⟨⟨earlier, later, split, running, waits⟩, rfl⟩)
    · cases fresh
    · exact .taken split turn (replies_iff.mpr verdict)
    · exact .dropped split running waits
  · rintro (⟨split, turn, replies⟩ | ⟨split, running, waits⟩)
    · exact .inl ⟨_, .inr ⟨_, _, split, turn, rfl⟩, replies_iff.mp replies⟩
    · exact .inr ⟨⟨_, _, split, running, waits⟩, rfl⟩

theorem ended_empty (past : (run steps (new capacity memory : Queue α β σ)).ended = true) :
    (run steps (new capacity memory)).mailbox.buffer = [] :=
  (run_moves capacity memory steps).ended_empty past fun _ => rfl

end Beginning

/-! ### The way to a reply -/

theorem run_turns (steps : List (Step α β σ)) (q : Queue α β σ) :
    ∃ events, (run steps q).history = q.history ++ events ∧
      Mailbox.Turns q.mailbox events (run steps q).mailbox (steps.countP Step.isConsume) := by
  induction steps generalizing q with
  | nil => exact ⟨[], by simp, .refl _⟩
  | cons step steps ih =>
    obtain ⟨more, later, turns⟩ := ih (q.apply step)
    rw [List.countP_cons, run_cons]
    cases consuming : step.isConsume with
    | false =>
      obtain ⟨events, grown, moves⟩ := q.apply_leads step
      exact ⟨events ++ more, by rw [later, grown, List.append_assoc], .aside moves turns⟩
    | true =>
      cases step with
      | consume =>
        rw [apply_consume] at later turns ⊢
        obtain ⟨wait, eq⟩ | ⟨events, consumes⟩ := q.consume_cases
        · rw [eq] at later turns ⊢
          exact ⟨more, later, .idle wait turns⟩
        · exact ⟨events ++ more, by rw [later, consumes.history, List.append_assoc],
            .turn consumes.mailbox turns⟩
      | _ => simp [Step.isConsume] at consuming

/-! ### Senders and their replies -/

/-- What senders of a queue get to know after some steps. -/
structure RepliesSoundly (q : Queue α β σ) (steps : List (Step α β σ)) : Prop where
  accepted : ∀ hand asks now, Reaches q steps hand asks now → ∀ payload wantsReply serial,
    (now.submit payload wantsReply).1 = .ok serial →
      (now.submit payload wantsReply).2.acceptances =
        now.acceptances ++ [⟨serial, payload, wantsReply⟩]
  /-- A refused submission might as well not have been made. -/
  refused : ∀ payload wantsReply cause,
    ((run steps q).submit payload wantsReply).1 = .error cause →
      (cause = .alreadyClosed ∨ cause = .queueFull (run steps q).mailbox.capacity) ∧
      ∀ later, run (steps ++ .send payload wantsReply :: later) q = run (steps ++ later) q
  distinct : ((run steps q).acceptances.map Envelope.serial).Nodup
  single : ((run steps q).mailbox.replies.map Prod.fst).Nodup
  asked : ∀ reply ∈ (run steps q).mailbox.replies,
    ∃ e ∈ (run steps q).acceptances, e.wantsReply = true ∧ e.serial = reply.1
  /-- The processor that answers is the one that was offered first. -/
  processor : ∀ earlier later, steps = earlier ++ later →
    (run earlier q).processor = (along offered earlier q).head?
  answered : ∀ e ∈ (run steps q).acceptances, e.wantsReply = true → ∀ answer,
    (run steps q).mailbox.reply? e.serial = some answer ↔ Answers q steps e answer
  waiting : ∀ e ∈ (run steps q).acceptances, e.wantsReply = true →
    ((run steps q).mailbox.reply? e.serial = none ↔ e ∈ (run steps q).mailbox.buffer)
  /-- An answer is given once. -/
  stands : ∀ later serial answer, (run steps q).mailbox.reply? serial = some answer →
    (run (steps ++ later) q).mailbox.reply? serial = some answer
  attended : ∀ front e back later, (run steps q).mailbox.buffer = front ++ e :: back →
    e.wantsReply = true → front.length + 3 ≤ later.countP Step.isConsume →
    ((run (steps ++ later) q).mailbox.reply? e.serial).isSome
  /-- Who has closed the queue waits until it has ended, and then it owes nobody a reply. -/
  returned : (run steps q).returned = true → (run steps q).ended = true
  ended : (run steps q).ended = true → ∀ e ∈ (run steps q).acceptances, e.wantsReply = true →
    ((run steps q).mailbox.reply? e.serial).isSome

section Sound
variable (capacity : Nat) (memory : σ) (steps : List (Step α β σ)) {envelope : Envelope α}

theorem reply?_eq_none_iff_buffered
    (accepted : envelope ∈ (run steps (new capacity memory : Queue α β σ)).acceptances)
    (wants : envelope.wantsReply = true) :
    (run steps (new capacity memory)).mailbox.reply? envelope.serial = none ↔
      envelope ∈ (run steps (new capacity memory)).mailbox.buffer := by
  have moved := run_moves (β := β) capacity memory steps
  obtain ⟨lost, settled⟩ := moved.settles
  exact settled.reply?_eq_none_iff moved accepted wants

theorem isSome_reply?_of_not_buffered
    (accepted : envelope ∈ (run steps (new capacity memory : Queue α β σ)).acceptances)
    (wants : envelope.wantsReply = true)
    (out : envelope ∉ (run steps (new capacity memory : Queue α β σ)).mailbox.buffer) :
    ((run steps (new capacity memory)).mailbox.reply? envelope.serial).isSome := by
  rw [Option.isSome_iff_ne_none]
  exact mt (reply?_eq_none_iff_buffered capacity memory steps accepted wants).mp out

/-- A payload that waits has its reply after the consumer's steps to it. -/
theorem run_replies {front back : List (Envelope α)} {later : List (Step α β σ)}
    (buffer : (run steps (new capacity memory : Queue α β σ)).mailbox.buffer =
      front ++ envelope :: back)
    (wants : envelope.wantsReply = true)
    (enough : front.length + 3 ≤ later.countP Step.isConsume) :
    ((run (steps ++ later) (new capacity memory)).mailbox.reply? envelope.serial).isSome := by
  have moved := run_moves (β := β) capacity memory steps
  have running : (run steps (new capacity memory : Queue α β σ)).mailbox.phase.ended = false := by
    cases past : (run steps (new capacity memory : Queue α β σ)).mailbox.phase.ended with
    | false => rfl
    | true => simp [moved.ended_empty past fun _ => rfl] at buffer
  obtain ⟨events, -, turns⟩ := run_turns later (run steps (new capacity memory))
  rw [run_append]
  exact turns.answer moved (.of_buffer running buffer enough) wants

theorem run_repliesSoundly : RepliesSoundly (new capacity memory : Queue α β σ) steps := by
  have moved := run_moves (β := β) capacity memory steps
  obtain ⟨lost, settled⟩ := moved.settles
  obtain ⟨single, asked⟩ := settled.replies_distinct moved
  constructor
  case accepted =>
    intro hand asks now _ payload wantsReply serial ok
    obtain ⟨e, mailbox, accepted, eq⟩ | ⟨cause, -, eq⟩ := now.submit_cases payload wantsReply
    · obtain ⟨-, rfl, -⟩ := Mailbox.accept?_eq_ok_iff.mp accepted
      rw [eq] at ok ⊢
      obtain rfl := Except.ok.inj ok
      simp [acceptances, history, note]
    · rw [eq] at ok
      cases ok
  case refused =>
    intro payload wantsReply cause refused
    obtain ⟨e, mailbox, -, eq⟩ | ⟨other, why, eq⟩ :=
      (run steps (new capacity memory)).submit_cases payload wantsReply
    · rw [eq] at refused
      cases refused
    · rw [eq] at refused
      obtain rfl := Except.error.inj refused
      refine ⟨Mailbox.refusal_cases why, ?_⟩
      intro later
      have same : (run steps (new capacity memory)).apply (.send payload wantsReply) =
          run steps (new capacity memory) := by
        simp [apply, perform, eq]
      rw [run_append, run_cons, same, run_append]
  case distinct => exact moved.distinct
  case single => exact single
  case asked =>
    intro reply mem
    obtain ⟨e, mem, is⟩ := List.mem_map.mp (asked (List.mem_map_of_mem mem))
    obtain ⟨mem, wants⟩ := List.mem_filter.mp mem
    exact ⟨e, mem, wants, is⟩
  case processor =>
    intro earlier later _
    rw [run_processor]
    rfl
  case answered => exact fun e mem wants answer => reply?_iff_answers mem wants answer
  case waiting =>
    exact fun e mem wants => reply?_eq_none_iff_buffered capacity memory steps mem wants
  case stands =>
    intro later serial answer found
    obtain ⟨events, -, more⟩ := run_leads later (run steps (new capacity memory))
    obtain ⟨lost', settled'⟩ := more.settles
    rw [Mailbox.reply?] at found ⊢
    rw [run_append, settled'.replies, List.lookup_append, found]
    rfl
  case attended =>
    intro front e back later buffer wants enough
    exact run_replies capacity memory steps buffer wants enough
  case returned =>
    exact fun past => (run_returned (q := new capacity memory) (by simp [new]) past).2
  case ended =>
    intro past e mem wants
    exact isSome_reply?_of_not_buffered capacity memory steps mem wants (by simp [ended_empty past])

end Sound

/-- One payload comes before there is a processor, the next ones meet with the first of two, and one
waits until the host of the consumer goes down. -/
def lateProcessorRun : List (Step Nat Nat Unit) :=
  [.send 2 true, .consume, .consume, .setProcessor fussyProcessor,
    .setProcessor fun _ _ => .done (.returned 9, ()), .send 0 true, .send 1 true, .send 2 true,
    .send 3 true, .consume, .consume, .consume, .abort, .send 4 true]

end Queue
end Lanes
