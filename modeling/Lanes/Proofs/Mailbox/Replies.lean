import Mathlib.Data.List.Nodup
import Lanes.Proofs.Mailbox.Conservation

/-!
# Replies of a mailbox

A sender finds its reply under the number of its payload. Since numbers are given once and each
payload is dispatched, lost or still buffered, there is never more than one reply under a number: it
is the result of the dispatch of this very payload or, if the payload was lost, the notice of that.
Payloads without a reply are those in the buffer.
-/
namespace Lanes
namespace Mailbox
variable {α β : Type} {capacity : Nat} {m m' : Mailbox α β} {events : List (Event α β)}
  {lost : List (Envelope α)} {envelope : Envelope α} {reply : Except Error β}

/-! ### Dispatches and what comes of them -/

@[simp] def Event.handling? : Event α β → Option (Envelope α × Option (Outcome β))
  | dispatched envelope outcome => some (envelope, outcome)
  | _ => none

/-- What was handed to the processor, in order, and how this ended. -/
def handlings (events : List (Event α β)) : List (Envelope α × Option (Outcome β)) :=
  events.filterMap Event.handling?

@[simp] theorem handlings_nil : handlings ([] : List (Event α β)) = [] := rfl

@[simp] theorem handlings_cons (event : Event α β) (events : List (Event α β)) :
    handlings (event :: events) = event.handling?.toList ++ handlings events := by
  cases event <;> rfl

@[simp] theorem handlings_append (events more : List (Event α β)) :
    handlings (events ++ more) = handlings events ++ handlings more :=
  List.filterMap_append ..

@[simp] theorem handlings_accepted (envelopes : List (Envelope α)) :
    handlings (envelopes.map (Event.accepted (β := β))) = [] := by
  induction envelopes with
  | nil => rfl
  | cons envelope rest ih => simp [ih]

theorem map_fst_handlings (events : List (Event α β)) :
    (handlings events).map Prod.fst = dispatches events := by
  rw [handlings, dispatches, List.map_filterMap]
  congr
  funext event
  cases event <;> rfl

/-- Senders handle nothing. -/
theorem Sent.handlings {m m' : Mailbox α β} (sent : Sent m events m') : handlings events = [] := by
  rw [← List.map_eq_nil_iff, map_fst_handlings]
  exact sent.dispatches

theorem mem_handlings {outcome : Option (Outcome β)} :
    (envelope, outcome) ∈ handlings events ↔ Event.dispatched envelope outcome ∈ events := by
  simp only [handlings, List.mem_filterMap]
  constructor
  · rintro ⟨event, mem, is⟩
    cases event with
    | dispatched e o =>
      obtain ⟨rfl, rfl⟩ : e = envelope ∧ o = outcome := by simpa using is
      exact mem
    | _ => simp at is
  · exact fun mem => ⟨_, mem, rfl⟩

theorem mem_dispatches : envelope ∈ dispatches events ↔
    ∃ outcome, Event.dispatched envelope outcome ∈ events := by
  simp [← map_fst_handlings, mem_handlings]

theorem mem_replied {serial : Nat} : (serial, reply) ∈ replied events ↔
    ∃ e outcome, Event.dispatched e outcome ∈ events ∧ e.wantsReply = true ∧
      e.serial = serial ∧ verdict outcome = reply := by
  simp only [replied, List.mem_filterMap]
  constructor
  · rintro ⟨event, mem, is⟩
    cases event with
    | dispatched e outcome =>
      cases wants : e.wantsReply with
      | false => simp [Event.reply?, wants] at is
      | true =>
        obtain ⟨number, result⟩ : e.serial = serial ∧ verdict outcome = reply := by
          simpa [Event.reply?, wants] using is
        exact ⟨e, outcome, mem, wants, number, result⟩
    | _ => simp [Event.reply?] at is
  · rintro ⟨e, outcome, mem, wants, rfl, rfl⟩
    exact ⟨_, mem, by simp [Event.reply?, wants]⟩

theorem mem_droppedReplies {serial : Nat} : (serial, reply) ∈ droppedReplies lost ↔
    ∃ e ∈ lost, e.wantsReply = true ∧ e.serial = serial ∧ .error .replyDropped = reply := by
  simp [droppedReplies, and_assoc]

theorem keys_replied (events : List (Event α β)) : (replied events).map Prod.fst =
    ((dispatches events).filter (·.wantsReply)).map Envelope.serial := by
  induction events with
  | nil => rfl
  | cons event rest ih =>
    cases event with
    | dispatched e outcome =>
      cases wants : e.wantsReply <;>
        simpa [replied, dispatches, Event.reply?, wants] using ih
    | _ => exact ih

theorem keys_droppedReplies (lost : List (Envelope α)) :
    (droppedReplies lost : List (Nat × Except Error β)).map Prod.fst =
      (lost.filter (·.wantsReply)).map Envelope.serial := by
  simp [droppedReplies, Function.comp_def]

/-- In a list of entries with distinct keys look-up finds what is listed. -/
theorem lookup_eq_some_iff_mem {υ : Type} {list : List (Nat × υ)} {key : Nat} {value : υ}
    (distinct : (list.map Prod.fst).Nodup) :
    list.lookup key = some value ↔ (key, value) ∈ list := by
  induction list with
  | nil => simp
  | cons entry rest ih =>
    obtain ⟨first, its⟩ := entry
    obtain ⟨new, others⟩ := List.nodup_cons.mp distinct
    by_cases same : key = first
    · subst same
      have absent : (key, value) ∉ rest := fun mem => new (List.mem_map.mpr ⟨_, mem, rfl⟩)
      simp [absent, eq_comm]
    · have apart : (key == first) = false := by simpa using same
      simp [List.lookup_cons, apart, same, ih others]

/-! ### Replies after a run from a new mailbox -/

namespace Settles
variable (settled : Settles (new capacity) events m lost)
include settled

theorem acceptances_eq : acceptances events = dispatches events ++ lost ++ m.buffer :=
  settled.flow

variable (moved : Moves (new capacity) events m)
include moved

/-- Every reply has a number of its own, which is that of an accepted payload. -/
theorem replies_distinct : (m.replies.map Prod.fst).Nodup ∧
    m.replies.map Prod.fst ⊆ ((acceptances events).filter (·.wantsReply)).map Envelope.serial := by
  have keys : m.replies.map Prod.fst =
      ((dispatches events ++ lost).filter (·.wantsReply)).map Envelope.serial := by
    simp [settled.replies, Mailbox.new, keys_replied, keys_droppedReplies]
  have sub : List.Sublist (dispatches events ++ lost) (acceptances events) := by
    rw [settled.acceptances_eq]
    exact List.sublist_append_left ..
  rw [keys]
  exact ⟨moved.distinct.sublist ((List.filter_sublist.trans sub).map _),
    ((sub.filter _).map _).subset⟩

/-- A reply is the result of the dispatch of the payload, or the notice of its loss. -/
theorem reply?_eq_some_iff (accepted : envelope ∈ acceptances events)
    (wants : envelope.wantsReply = true) (reply : Except Error β) :
    m.reply? envelope.serial = some reply ↔
      (∃ outcome, Event.dispatched envelope outcome ∈ events ∧ verdict outcome = reply) ∨
      envelope ∈ lost ∧ .error .replyDropped = reply := by
  have flow := settled.acceptances_eq
  have one {e : Envelope α} (mem : e ∈ acceptances events) (same : e.serial = envelope.serial) :
      e = envelope :=
    List.inj_on_of_nodup_map moved.distinct mem accepted same
  rw [reply?, lookup_eq_some_iff_mem (settled.replies_distinct moved).1, settled.replies]
  simp only [Mailbox.new, List.nil_append, List.mem_append, mem_replied, mem_droppedReplies]
  constructor
  · rintro (⟨e, outcome, mem, -, same, is⟩ | ⟨e, mem, -, same, is⟩)
    · have there : e ∈ dispatches events := mem_dispatches.mpr ⟨outcome, mem⟩
      obtain rfl := one (by simp [flow, there]) same
      exact .inl ⟨outcome, mem, is⟩
    · obtain rfl := one (by simp [flow, mem]) same
      exact .inr ⟨mem, is⟩
  · rintro (⟨outcome, mem, is⟩ | ⟨mem, is⟩)
    · exact .inl ⟨envelope, outcome, mem, wants, rfl, is⟩
    · exact .inr ⟨envelope, mem, wants, rfl, is⟩

/-- Whoever has no reply yet has a payload in the buffer. -/
theorem reply?_eq_none_iff (accepted : envelope ∈ acceptances events)
    (wants : envelope.wantsReply = true) :
    m.reply? envelope.serial = none ↔ envelope ∈ m.buffer := by
  have flow := settled.acceptances_eq
  have found := settled.reply?_eq_some_iff moved accepted wants
  constructor
  · intro missing
    rw [flow, List.mem_append, List.mem_append] at accepted
    rcases accepted with (done | gone) | waits
    · obtain ⟨outcome, mem⟩ := mem_dispatches.mp done
      have there := (found (verdict outcome)).mpr (.inl ⟨outcome, mem, rfl⟩)
      simp [missing] at there
    · have there := (found _).mpr (.inr ⟨gone, rfl⟩)
      simp [missing] at there
    · exact waits
  · intro waits
    have apart : envelope ∉ dispatches events ++ lost := by
      have distinct := moved.distinct.of_map
      rw [flow] at distinct
      exact fun early => (List.nodup_append.mp distinct).2.2 _ early _ waits rfl
    cases is : m.reply? envelope.serial with
    | none => rfl
    | some reply =>
      rcases (found reply).mp is with ⟨outcome, mem, -⟩ | ⟨gone, -⟩
      · exact absurd (List.mem_append_left _ (mem_dispatches.mpr ⟨outcome, mem⟩)) apart
      · exact absurd (List.mem_append_right _ gone) apart

end Settles

/-! ### The way to a reply -/

/-- Steps that a consumer has to take at most before it hands out what is at the head, and that
one. -/
def approach : ConsumerPhase → Nat
  | .spawned => 3
  | .receiving => 2
  | .draining => 1
  | .stopped | .aborted => 0

/-- The payload is in the buffer, and the running consumer gets to it within some steps. -/
def Waits (m : Mailbox α β) (envelope : Envelope α) (steps : Nat) : Prop :=
  m.phase.ended = false ∧ ∃ front back,
    m.buffer = front ++ envelope :: back ∧ front.length + approach m.phase ≤ steps

/-- Whatever its phase, the consumer needs no more than three steps to get to the head. -/
theorem Waits.of_buffer {front back : List (Envelope α)} {steps : Nat}
    (running : m.phase.ended = false) (buffer : m.buffer = front ++ envelope :: back)
    (enough : front.length + 3 ≤ steps) : m.Waits envelope steps := by
  refine ⟨running, front, back, buffer, Nat.le_trans (Nat.add_le_add_left ?_ _) enough⟩
  cases m.phase <;> decide

theorem Waits.pos {steps : Nat} (waits : m.Waits envelope steps) : 0 < steps := by
  obtain ⟨running, front, back, -, enough⟩ := waits
  cases hp : m.phase <;> simp [hp, approach, ConsumerPhase.ended] at running enough <;> omega

theorem Waits.busy {steps : Nat} (waits : m.Waits envelope steps) : m.turn ≠ .wait := by
  obtain ⟨running, front, back, buffer, -⟩ := waits
  unfold turn
  cases hp : m.phase <;> simp [hp, ConsumerPhase.ended] at running ⊢
  · cases m.closed <;> cases front <;> simp [buffer]
  · cases front <;> simp [buffer]

/-- A step of the consumer hands the payload out or brings it nearer. -/
theorem Consumption.waits (h : Consumption m events m') {steps : Nat}
    (waits : m.Waits envelope (steps + 1)) :
    envelope ∈ dispatches events ∨ m'.Waits envelope steps := by
  obtain ⟨running, front, back, buffer, enough⟩ := waits
  cases h with
  | start h =>
    rw [phase_of_turn_start h] at enough
    exact .inr ⟨rfl, front, back, buffer, by simp only [approach, enter] at enough ⊢; omega⟩
  | drain h =>
    rw [phase_of_turn_drain h] at enough
    exact .inr ⟨rfl, front, back, buffer, by simp only [approach, enter] at enough ⊢; omega⟩
  | @dispatch mailbox first during outcome h meanwhile =>
    have sent := meanwhile.sent
    obtain ⟨taken, -⟩ := buffer_of_turn_dispatch h
    rw [taken] at buffer
    cases front with
    | nil =>
      obtain ⟨rfl, -⟩ := List.cons.inj buffer
      exact .inl (by simp)
    | cons other front =>
      obtain ⟨-, rest⟩ := List.cons.inj buffer
      have phase : (mailbox.answer first (verdict outcome)).phase = m.phase := by
        simp [sent.phase, take]
      refine .inr ⟨by rw [phase, running], front, back ++ acceptances during,
        by simp [sent.buffer, rest], ?_⟩
      rw [phase]
      simp only [List.length_cons] at enough
      omega
  | finish _ h => simp [(buffer_of_turn_finish h).2] at buffer

theorem Waits.mono {steps more : Nat} (waits : m.Waits envelope steps) (le : steps ≤ more) :
    m.Waits envelope more := by
  obtain ⟨running, front, back, buffer, enough⟩ := waits
  exact ⟨running, front, back, buffer, Nat.le_trans enough le⟩

theorem Move.waits (h : Move m events m') {steps : Nat} (waits : m.Waits envelope steps) :
    envelope ∈ dispatches events ∨ m'.phase = .aborted ∨ m'.Waits envelope steps := by
  have running := waits.1
  obtain ⟨-, front, back, buffer, enough⟩ := waits
  cases h with
  | @accept _ payload wantsReply last ok =>
    obtain ⟨-, -, rfl⟩ := accept?_eq_ok_iff.mp ok
    exact .inr (.inr ⟨running, front, back ++ [last], by simp [put, buffer], enough⟩)
  | close ok =>
    obtain ⟨-, rfl⟩ := close?_eq_ok_iff.mp ok
    exact .inr (.inr ⟨running, front, back, buffer, enough⟩)
  | orphan => exact .inr (.inr ⟨running, front, back, buffer, enough⟩)
  | consume h =>
    have before : m.Waits envelope steps := ⟨running, front, back, buffer, enough⟩
    rcases h.waits (before.mono (Nat.le_succ _)) with done | nearer
    · exact .inl done
    · exact .inr (.inr nearer)
  | abort => exact .inr (.inl (by simp [Mailbox.abort, running]))
  | find h => exact .inr (.inl h)

/-- Whatever happens, a payload that waits is handed out, lost with the host, or waits no longer
than before. -/
theorem Moves.waits (h : Moves m events m') {steps : Nat} (waits : m.Waits envelope steps) :
    envelope ∈ dispatches events ∨ m'.phase = .aborted ∨ m'.Waits envelope steps := by
  induction h with
  | refl => exact .inr (.inr waits)
  | tail _ last ih =>
    rcases ih with done | aborted | still
    · exact .inl (by simp [done])
    · have same := (last.quiet (by rw [aborted]; rfl)).2.1
      exact .inr (.inl (same.trans aborted))
    · rcases last.waits still with done | later
      · exact .inl (by simp [done])
      · exact .inr later

/-- Any number of moves, and among them a number of turns of the consumer, which takes a step if it
has something to do. -/
inductive Turns : Mailbox α β → List (Event α β) → Mailbox α β → Nat → Prop
  | refl (m : Mailbox α β) : Turns m [] m 0
  | aside {m m' m'' : Mailbox α β} {events more : List (Event α β)} {count : Nat}
      (first : Moves m events m') (rest : Turns m' more m'' count) :
      Turns m (events ++ more) m'' count
  | turn {m m' m'' : Mailbox α β} {events more : List (Event α β)} {count : Nat}
      (first : Consumption m events m') (rest : Turns m' more m'' count) :
      Turns m (events ++ more) m'' (count + 1)
  | idle {m m' : Mailbox α β} {events : List (Event α β)} {count : Nat} (wait : m.turn = .wait)
      (rest : Turns m events m' count) : Turns m events m' (count + 1)

theorem Turns.moves {count : Nat} (h : Turns m events m' count) : Moves m events m' := by
  induction h with
  | refl => exact .refl _
  | aside first _ ih => exact first.trans ih
  | turn first _ ih => exact .head (.consume first) ih
  | idle _ _ ih => exact ih

/-- As many turns as the consumer needs to get to a payload hand this out, unless the consumer's
host goes down. -/
theorem Turns.attends {count : Nat} (h : Turns m events m' count)
    (waits : m.Waits envelope count) :
    envelope ∈ dispatches events ∨ m'.phase = .aborted := by
  induction h with
  | refl => exact absurd waits.pos (Nat.lt_irrefl 0)
  | aside first rest ih =>
    rcases first.waits waits with done | aborted | still
    · exact .inl (by simp [done])
    · have same := (rest.moves.quiet (by rw [aborted]; rfl)).2.1
      exact .inr (same.trans aborted)
    · exact (ih still).imp_left fun later => by simp [later]
  | turn first _ ih =>
    rcases first.waits waits with done | still
    · exact .inl (by simp [done])
    · exact (ih still).imp_left fun later => by simp [later]
  | idle wait => exact absurd wait waits.busy

/-- As many turns as the consumer needs to get to a payload bring the reply to it: the payload is
handed out, or it is lost with the host and its sender is told so. -/
theorem Turns.answer {before : List (Event α β)} {count : Nat} (h : Turns m events m' count)
    (moved : Moves (new capacity) before m) (waits : m.Waits envelope count)
    (wants : envelope.wantsReply = true) : (m'.reply? envelope.serial).isSome := by
  have whole : Moves (new capacity) (before ++ events) m' := moved.trans h.moves
  obtain ⟨lost, settled⟩ := whole.settles
  have accepted : envelope ∈ acceptances (before ++ events) := by
    obtain ⟨-, front, back, buffer, -⟩ := waits
    obtain ⟨gone, early⟩ := moved.settles
    rw [acceptances_append, early.acceptances_eq, buffer]
    simp
  rw [Option.isSome_iff_ne_none, ne_eq, settled.reply?_eq_none_iff whole accepted wants]
  intro still
  rcases h.attends waits with done | aborted
  · -- what was handed out is not in the buffer as well, since its number is given once
    have distinct := whole.distinct.of_map
    rw [settled.acceptances_eq, dispatches_append, List.append_assoc] at distinct
    exact (List.nodup_append.mp distinct).2.2 envelope (by simp [done]) envelope
      (by simp [still]) rfl
  · have empty := whole.ended_empty (by rw [aborted]; rfl) fun _ => rfl
    simp [empty] at still

end Mailbox
end Lanes
