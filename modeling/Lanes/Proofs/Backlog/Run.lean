import Lanes.Proofs.Backlog.Calls

/-!
# Runs of a backlog

The consumer's task and quit hand items over, one delivery at a time, and a delivery contains all
the calls made while the consumer is busy. A run is a list of steps in any order: calls from
outside, steps of the task, the two halves of quit, and the ends of the owner and of the host.
Every step enters in the books what it leaves in the journal, and no step but the last of these
takes the task away from a consumer that is still to be served.
-/
namespace Lanes
namespace Backlog
variable {α σ : Type} {b b' b'' : Backlog α σ} {events more : List (BacklogEvent α)}

/-- What happened between two moments at which the consumer is not busy. -/
structure Leads (b : Backlog α σ) (events : List (BacklogEvent α)) (b' : Backlog α σ) : Prop where
  history : b'.history = b.history ++ events
  enters : Enters b events b'
  /-- The consumer was called with what was taken out for it. -/
  even : Books.takings events = (Books.handings events).map Prod.fst

theorem Leads.refl (b : Backlog α σ) : Leads b [] b := ⟨by simp, .refl rfl, rfl⟩

theorem Leads.trans (h : Leads b events b') (k : Leads b' more b'') :
    Leads b (events ++ more) b'' where
  history := by rw [k.history, h.history, List.append_assoc]
  enters := h.enters.trans k.enters
  even := by rw [Books.takings_append, Books.handings_append, h.even, k.even, List.map_append]

/-- An event that concerns no item. -/
theorem Leads.aside {event : BacklogEvent α} (history : b'.history = b.history ++ [event])
    (items : b'.items = b.items) (still : event.moves = false) (silent : event.handing? = none) :
    Leads b [event] b' where
  history := history
  enters := .aside still items
  even := by rw [Books.takings_of_still still, Books.handings_of_silent silent, List.map_nil]

theorem Responds.leads (h : Responds b events b') : Leads b events b' :=
  ⟨h.history, h.enters, by rw [h.takings, h.handings]; rfl⟩

/-! ### Deliveries -/

/-- The backlog once the item at the head was taken out. -/
def taken (b : Backlog α σ) (item : α) : Backlog α σ :=
  { b with items := b.items.tail }.note (.taken item)

/-- How the consumer ends with an item. -/
def verdict (b : Backlog α σ) (consumer : Consumer α σ) (now : Moment) (item : α) : Outcome Unit :=
  ((consumer now item b.memory).run perform (b.taken item)).1.1

/-- The moments of a delivery, from the one at which the item was taken out. -/
def moments (b : Backlog α σ) (consumer : Consumer α σ) (now : Moment) (item : α) :
    List (Backlog α σ) :=
  (consumer now item b.memory).passes perform (b.taken item)

theorem history_taken (b : Backlog α σ) (item : α) :
    (b.taken item).history = b.history ++ [.taken item] := by
  simp [taken, history, note]

theorem history_deliver (b : Backlog α σ) (consumer : Consumer α σ) (now : Moment) (item : α) :
    (b.deliver consumer now item).history =
      ((consumer now item b.memory).run perform (b.taken item)).2.history ++
        [.delivered item (b.verdict consumer now item)] := by
  rw [deliver, history_note]
  rfl

theorem taken_enters {item : α} {rest : List α} (queue : b.items = item :: rest) :
    Enters b [.taken item] (b.taken item) := by
  intro books items
  obtain ⟨books', entry, left⟩ := (Books.Entry.at_head (items.trans queue)).1
  exact ⟨books', .single entry, by rw [left, taken, queue]; rfl⟩

/-- What a delivery leaves in the journal, with what is called during it. -/
def delivery (item : α) (during : List (BacklogEvent α)) (outcome : Outcome Unit) :
    List (BacklogEvent α) :=
  .taken item :: (during ++ [.delivered item outcome])

section Delivery
variable (item : α) (during : List (BacklogEvent α)) (outcome : Outcome Unit)

@[simp] theorem entrances_delivery :
    Books.entrances (delivery item during outcome) = Books.entrances during := by
  simp [delivery, Books.entrances, List.filterMap_cons]

@[simp] theorem exits_delivery :
    Books.exits (delivery item during outcome) = (item, .delivered) :: Books.exits during := by
  simp [delivery, Books.exits]

@[simp] theorem takings_delivery :
    Books.takings (delivery item during outcome) = item :: Books.takings during := by
  simp [Books.takings]

@[simp] theorem handings_delivery :
    Books.handings (delivery item during outcome) =
      Books.handings during ++ [(item, outcome)] := by
  simp [delivery, Books.handings, List.filterMap_cons]

end Delivery

/-- Deliveries one after the other, with nothing else than the calls during each of them. -/
structure Drains (b : Backlog α σ) (events : List (BacklogEvent α)) (b' : Backlog α σ) : Prop
    extends Keeps b b', Leads b events b' where
  shut : b.closed = true → Gives (fun way => way = .delivered ∨ way = .cleared) b events b'

theorem Drains.refl (b : Backlog α σ) : Drains b [] b :=
  ⟨.refl b, .refl b, fun _ => .refl b⟩

theorem Drains.trans (h : Drains b events b') (k : Drains b' more b'') :
    Drains b (events ++ more) b'' where
  toKeeps := h.toKeeps.trans k.toKeeps
  toLeads := h.toLeads.trans k.toLeads
  shut closed := (h.shut closed).trans (k.shut (h.closed closed))

/-- A delivery, whatever its outcome. -/
theorem deliver_drains {item : α} {rest : List α} (queue : b.items = item :: rest)
    (consumer : Consumer α σ) (now : Moment) :
    ∃ during, Books.handings during = [] ∧
      Enters (b.taken item) during (b.deliver consumer now item) ∧
      Drains b (delivery item during (b.verdict consumer now item))
        (b.deliver consumer now item) := by
  obtain ⟨during, calls⟩ := passes_responds
    (Call.run_mem_passes perform (consumer now item b.memory) (b.taken item))
  have told : (b.deliver consumer now item).history =
      b.history ++ delivery item during (b.verdict consumer now item) := by
    rw [history_deliver, calls.history, history_taken]
    simp [delivery]
  have entered : Enters (b.taken item) during (b.deliver consumer now item) := calls.enters
  have ended : Enters (b.deliver consumer now item)
      [.delivered item (b.verdict consumer now item)] (b.deliver consumer now item) :=
    .aside rfl rfl
  have kept : Keeps b (b.deliver consumer now item) :=
    ⟨calls.consumer, calls.phase, calls.dropped, calls.closed⟩
  refine ⟨during, calls.handings, entered, kept,
    ⟨told, (taken_enters queue).trans (entered.trans ended), ?_⟩, ?_⟩
  · simp [calls.handings, calls.takings]
  · intro closed
    obtain ⟨none, items, cleared⟩ := calls.shut closed
    have stays : (b.taken item).items = rest := by simp [taken, note, queue]
    have after := stays.symm.trans items
    refine ⟨by rw [entrances_delivery, none], by rw [queue, after, exits_delivery]; rfl, ?_⟩
    simpa using fun _ _ mem => .inr (cleared _ mem)

/-- One delivery more. -/
theorem drainFrom_succ {item : α} {rest : List α} (queue : b.items = item :: rest)
    (consumer : Consumer α σ) (now : Moment) (n count : Nat) :
    drainFrom consumer now (n + 1) count b =
      drainFrom consumer now n (count + 1) (b.deliver consumer now item) := by
  simp [drainFrom, queue]

/-- Draining counts what it hands over, and each outcome is how the consumer ended with the item
that was at the head then. -/
theorem drainFrom_drains (consumer : Consumer α σ) (now : Moment) (n count : Nat)
    (b : Backlog α σ) :
    ∃ events, Drains b events (drainFrom consumer now n count b).2 ∧
      (drainFrom consumer now n count b).1 = count + (Books.handings events).length ∧
      ∀ given ∈ Books.handings events, ∃ k rest,
        (drainFrom consumer now k count b).2.items = given.1 :: rest ∧
        (drainFrom consumer now k count b).2.verdict consumer now given.1 = given.2 := by
  induction n generalizing count b with
  | zero => exact ⟨[], .refl b, rfl, by simp [Books.handings]⟩
  | succ n ih =>
    cases queue : b.items with
    | nil =>
      have same : drainFrom consumer now (n + 1) count b = (count, b) := by
        simp [drainFrom, queue]
      rw [same]
      exact ⟨[], .refl b, rfl, by simp [Books.handings]⟩
    | cons item rest =>
      obtain ⟨during, silent, -, first⟩ := deliver_drains queue consumer now
      obtain ⟨more, later, counted, outcomes⟩ := ih (count + 1) (b.deliver consumer now item)
      rw [drainFrom_succ queue]
      refine ⟨_, first.trans later, ?_, ?_⟩
      · simp only [counted, Books.handings_append, handings_delivery, silent, List.nil_append,
          List.length_append, List.length_singleton, Nat.add_assoc]
      · intro given mem
        rw [Books.handings_append, handings_delivery, silent, List.nil_append,
          List.mem_append, List.mem_singleton] at mem
        rcases mem with rfl | mem
        · exact ⟨0, rest, queue, rfl⟩
        · obtain ⟨k, rest', head, ended⟩ := outcomes given mem
          refine ⟨k + 1, rest', ?_⟩
          rw [drainFrom_succ queue]
          exact ⟨head, ended⟩

/-- Nothing is left of a closed backlog after as many deliveries as there were items. -/
theorem drainFrom_empties (consumer : Consumer α σ) (now : Moment) (n count : Nat)
    (b : Backlog α σ) (closed : b.closed = true) (few : b.items.length ≤ n) :
    (drainFrom consumer now n count b).2.items = [] := by
  induction n generalizing count b with
  | zero => exact List.length_eq_zero_iff.mp (Nat.le_zero.mp few)
  | succ n ih =>
    cases queue : b.items with
    | nil => simp [drainFrom, queue]
    | cons item rest =>
      obtain ⟨during, -, -, first⟩ := deliver_drains queue consumer now
      -- The consumer may clear a closed backlog, but neither it nor anybody else can add to it.
      have fewer : (b.deliver consumer now item).items.length ≤ n := by
        have lengths := congrArg List.length (first.shut closed).items
        simp only [exits_delivery, List.map_cons, List.cons_append, List.length_cons,
          List.length_append] at lengths
        omega
      rw [drainFrom_succ queue]
      exact ih (count + 1) _ (first.closed closed) fewer

/-! ### Steps of the task -/

/-- What the task notes when it wakes up for the first time. -/
def opening (b : Backlog α σ) : List (BacklogEvent α) :=
  if b.phase = .spawned then [.started b.rate] else []

@[simp] theorem start_items (b : Backlog α σ) : b.start.items = b.items := by
  unfold start; split <;> rfl

@[simp] theorem start_consumer (b : Backlog α σ) : b.start.consumer = b.consumer := by
  unfold start; split <;> rfl

@[simp] theorem start_closed (b : Backlog α σ) : b.start.closed = b.closed := by
  unfold start; split <;> rfl

@[simp] theorem start_dropped (b : Backlog α σ) : b.start.dropped = b.dropped := by
  unfold start; split <;> rfl

@[simp] theorem start_cancelled (b : Backlog α σ) : b.start.cancelled = b.cancelled := by
  simp [cancelled]

theorem start_leads (b : Backlog α σ) : Leads b b.opening b.start := by
  unfold start opening
  split
  · exact .aside (by simp) rfl rfl rfl
  · exact .refl b

/-- What the task does when it wakes up. -/
theorem wake_cases (b : Backlog α σ) (now : Moment) :
    b.due now = false ∧ b.wake now = b ∨
    b.due now = true ∧ b.cancelled = true ∧ b.wake now = b.start.stop ∨
    b.due now = true ∧ b.cancelled = false ∧
      (∃ consumer item rest, b.consumer = some consumer ∧ b.items = item :: rest ∧
        b.wake now =
          { b.start.deliver consumer now item with phase := .yielding }.note .yielded) ∨
    b.due now = true ∧ b.cancelled = false ∧ (b.consumer = none ∨ b.items = []) ∧
      b.wake now = b.start.rest now := by
  unfold wake
  cases ready : b.due now with
  | false => simp
  | true =>
    cases told : b.cancelled with
    | true => simp [told]
    | false =>
      cases staff : b.consumer with
      | none => simp [told, staff]
      | some consumer =>
        cases queue : b.items with
        | nil => simp [told, staff, queue]
        | cons item rest => simp [told, staff, queue]

/-- The task hands over one item and gives way, whatever the outcome. -/
theorem wake_hands {now : Moment} {consumer : Consumer α σ} {item : α} {rest : List α}
    (ready : b.due now = true) (going : b.cancelled = false) (staff : b.consumer = some consumer)
    (queue : b.items = item :: rest) :
    ∃ during, Books.handings during = [] ∧ Enters (b.start.taken item) during (b.wake now) ∧
      Leads b (b.opening ++ delivery item during (b.start.verdict consumer now item) ++ [.yielded])
        (b.wake now) ∧ (b.wake now).phase = .yielding := by
  have is : b.wake now =
      { b.start.deliver consumer now item with phase := .yielding }.note .yielded := by
    simp [wake, ready, going, staff, queue]
  obtain ⟨during, silent, entered, handed⟩ :=
    deliver_drains (b.start_items.trans queue) consumer now
  have yielded : Leads (b.start.deliver consumer now item) [.yielded] (b.wake now) :=
    .aside (by rw [is]; simp [history, note]) (by rw [is]; rfl) rfl rfl
  rw [is] at yielded ⊢
  exact ⟨during, silent, entered, (b.start_leads.trans handed.toLeads).trans yielded, rfl⟩

theorem wake_leads (b : Backlog α σ) (now : Moment) : ∃ events, Leads b events (b.wake now) := by
  rcases b.wake_cases now with ⟨-, is⟩ | ⟨-, -, is⟩ |
    ⟨ready, going, consumer, item, rest, staff, queue, -⟩ | ⟨-, -, -, is⟩
  · exact ⟨[], by rw [is]; exact .refl b⟩
  · have stopped : Leads b.start [.stopped] (b.wake now) := by
      rw [is]
      exact .aside (by simp [stop, history, note]) rfl rfl rfl
    exact ⟨_, b.start_leads.trans stopped⟩
  · obtain ⟨during, -, -, leads, -⟩ := wake_hands ready going staff queue
    exact ⟨_, leads⟩
  · have resting : Leads b.start [.resting (now.after b.start.rate)] (b.wake now) := by
      rw [is]
      exact .aside (by simp [Backlog.rest, history, note]) rfl rfl rfl
    exact ⟨_, b.start_leads.trans resting⟩

/-! ### Quitting -/

theorem acknowledgeEnd_leads (b : Backlog α σ) : ∃ events, Leads b events b.acknowledgeEnd := by
  unfold acknowledgeEnd
  split
  · exact ⟨[.foundAborted], .aside (by simp) rfl rfl rfl⟩
  · exact ⟨[], .refl b⟩

theorem acknowledgeEnd_keeps (b : Backlog α σ) : Keeps b b.acknowledgeEnd := by
  unfold acknowledgeEnd
  split
  · exact ⟨rfl, rfl, id, id⟩
  · exact .refl b

/-- What is left is handed to the consumer, or discarded. -/
theorem finish_cases (b : Backlog α σ) (force : Bool) (now : Moment) :
    (∃ consumer, b.consumer = some consumer ∧ force = false ∧ b.finish force now =
      (drainFrom consumer now b.items.length 0 b).2.note
        (.drained (drainFrom consumer now b.items.length 0 b).1)) ∨
    (b.consumer = none ∨ force = true) ∧
      b.finish force now = { b with items := [] }.note (.discarded b.items) := by
  unfold finish
  cases b.consumer with
  | none => simp
  | some consumer => cases force <;> simp

theorem discard_leads (b : Backlog α σ) :
    Leads b [.discarded b.items] ({ b with items := [] }.note (.discarded b.items)) where
  history := by simp [history, note]
  enters books items := by
    have entry := Books.Entry.discard books
    rw [items] at entry
    exact ⟨_, .single entry, rfl⟩
  even := by simp [Books.takings, Books.exits, Books.handings, List.filterMap_cons]

theorem finish_leads (b : Backlog α σ) (force : Bool) (now : Moment) :
    ∃ events, Leads b events (b.finish force now) := by
  rcases b.finish_cases force now with ⟨consumer, -, -, is⟩ | ⟨-, is⟩ <;> rw [is]
  · obtain ⟨events, handed, -⟩ := drainFrom_drains consumer now b.items.length 0 b
    exact ⟨_, handed.toLeads.trans (.aside (history_note ..) rfl rfl rfl)⟩
  · exact ⟨_, b.discard_leads⟩

theorem finish_keeps (b : Backlog α σ) (force : Bool) (now : Moment) :
    Keeps b (b.finish force now) := by
  rcases b.finish_cases force now with ⟨consumer, -, -, is⟩ | ⟨-, is⟩ <;> rw [is]
  · obtain ⟨events, handed, -⟩ := drainFrom_drains consumer now b.items.length 0 b
    exact handed.toKeeps.trans ⟨rfl, rfl, id, id⟩
  · exact ⟨rfl, rfl, id, id⟩

/-! ### Runs -/

inductive Step (α σ : Type) where
  | push (item : α)
  | join (item : α)
  | pop
  | tail
  | clear
  | employ (consumer : Consumer α σ) (rate : Duration)
  /-- The first half of quit. -/
  | close
  /-- The second half of quit, which waits for the task to end. -/
  | finish (force : Bool) (now : Moment)
  | wake (now : Moment)
  | drop
  | abort

def Step.apply (b : Backlog α σ) : Step α σ → Backlog α σ
  | push item => (b.push item).2
  | join item => (b.join item).2
  | pop => b.pop.2
  | tail => b.tail.2
  | clear => b.clear
  | employ consumer rate => (b.employ consumer rate).2
  | close => b.close.2
  | finish force now => if b.closed ∧ b.ended then b.acknowledgeEnd.finish force now else b
  | wake now => b.wake now
  | drop => b.drop
  | abort => b.abort

def run (steps : List (Step α σ)) (b : Backlog α σ) : Backlog α σ := steps.foldl Step.apply b

/-- Whether the step is a call that is answered at once. -/
def Step.answered : Step α σ → Bool
  | push _ | join _ | pop | tail | clear | close | drop => true
  | employ .. | finish .. | wake _ | abort => false

theorem apply_responds {step : Step α σ} (answered : step.answered = true) (b : Backlog α σ) :
    ∃ events, Responds b events (step.apply b) := by
  cases step with
  | push item => exact b.push_responds item
  | join item => exact b.join_responds item
  | pop => exact b.pop_responds
  | tail => exact b.tail_responds
  | clear => exact ⟨_, b.clear_responds⟩
  | close => exact b.close_responds
  | drop => exact ⟨_, b.drop_responds⟩
  | _ => cases answered

/-- Quit acknowledges the end of the task before it hands over what is left. -/
theorem finish_apply {consumer : Consumer α σ} (closed : b.closed = true) (past : b.ended = true)
    (staff : b.consumer = some consumer) (now : Moment) :
    (Step.finish false now).apply b =
      (drainFrom consumer now b.acknowledgeEnd.items.length 0 b.acknowledgeEnd).2.note
        (.drained (drainFrom consumer now b.acknowledgeEnd.items.length 0 b.acknowledgeEnd).1) := by
  simp [Step.apply, closed, past, finish, b.acknowledgeEnd_keeps.consumer, staff]

theorem employ_leads (b : Backlog α σ) (consumer : Consumer α σ) (rate : Duration) :
    ∃ events, Leads b events (b.employ consumer rate).2 := by
  unfold employ
  split
  · exact ⟨[], .refl b⟩
  · exact ⟨[.employed], .aside (by simp [history, note]) rfl rfl rfl⟩

theorem abort_leads (b : Backlog α σ) : ∃ events, Leads b events b.abort := by
  unfold abort
  split
  · exact ⟨[], .refl b⟩
  · exact ⟨[.aborted], .aside (by simp [history, note]) rfl rfl rfl⟩

theorem apply_leads (step : Step α σ) (b : Backlog α σ) :
    ∃ events, Leads b events (step.apply b) := by
  cases step with
  | employ consumer rate => exact b.employ_leads consumer rate
  | finish force now =>
    rw [Step.apply]
    split
    · obtain ⟨events, noted⟩ := b.acknowledgeEnd_leads
      obtain ⟨more, finished⟩ := b.acknowledgeEnd.finish_leads force now
      exact ⟨_, noted.trans finished⟩
    · exact ⟨[], .refl b⟩
  | wake now => exact b.wake_leads now
  | abort => exact b.abort_leads
  | _ => exact (apply_responds rfl b).imp fun _ => Responds.leads

theorem run_leads (steps : List (Step α σ)) (b : Backlog α σ) :
    ∃ events, Leads b events (run steps b) := by
  induction steps generalizing b with
  | nil => exact ⟨[], .refl b⟩
  | cons step steps ih =>
    obtain ⟨events, first⟩ := apply_leads step b
    obtain ⟨more, later⟩ := ih (step.apply b)
    exact ⟨events ++ more, first.trans later⟩

/-! ### The task of a consumer -/

/-- As long as the host stays, a consumer has a task until the backlog is cancelled. -/
structure Staffed (b : Backlog α σ) : Prop where
  absent : b.phase = .absent → b.consumer = none
  stopped : b.phase = .stopped → b.cancelled = true
  hosted : b.phase ≠ .aborted

theorem Staffed.new (memory : σ) : Staffed (new memory : Backlog α σ) :=
  ⟨fun _ => rfl, nofun, nofun⟩

theorem Keeps.staffed (h : Keeps b b') (staffed : Staffed b) : Staffed b' where
  absent phase := by rw [h.consumer, staffed.absent (h.phase ▸ phase)]
  stopped phase := by
    have told := staffed.stopped (h.phase ▸ phase)
    simp only [cancelled, Bool.or_eq_true] at told ⊢
    exact told.imp h.closed h.dropped
  hosted := by rw [h.phase]; exact staffed.hosted

/-- A task that goes on has a consumer and is not at its end. -/
theorem Staffed.going (phase : b.phase.ended = false) : Staffed b where
  absent is := by simp [is, WorkerPhase.ended] at phase
  stopped is := by simp [is, WorkerPhase.ended] at phase
  hosted is := by simp [is, WorkerPhase.ended] at phase

theorem wake_staffed (now : Moment) (staffed : Staffed b) : Staffed (b.wake now) := by
  rcases b.wake_cases now with ⟨-, is⟩ | ⟨-, told, is⟩ | ⟨-, -, consumer, item, rest, -, -, is⟩ |
    ⟨-, -, -, is⟩ <;> rw [is]
  · exact staffed
  · exact ⟨nofun, fun _ => b.start_cancelled.trans told, nofun⟩
  · exact .going rfl
  · exact .going rfl

theorem employ_staffed (consumer : Consumer α σ) (rate : Duration) (staffed : Staffed b) :
    Staffed (b.employ consumer rate).2 := by
  unfold employ
  split
  · exact staffed
  · exact .going rfl

theorem apply_staffed {step : Step α σ} (hosted : step ≠ .abort) (staffed : Staffed b) :
    Staffed (step.apply b) := by
  cases step with
  | employ consumer rate => exact employ_staffed consumer rate staffed
  | finish force now =>
    rw [Step.apply]
    split
    · exact (b.acknowledgeEnd_keeps.trans (b.acknowledgeEnd.finish_keeps force now)).staffed staffed
    · exact staffed
  | wake now => exact wake_staffed now staffed
  | abort => exact absurd rfl hosted
  | _ => exact (apply_responds rfl b).elim fun _ h => h.toKeeps.staffed staffed

theorem run_staffed {steps : List (Step α σ)} (hosted : .abort ∉ steps) (staffed : Staffed b) :
    Staffed (run steps b) := by
  induction steps generalizing b with
  | nil => exact staffed
  | cons step steps ih =>
    rw [List.mem_cons, not_or] at hosted
    exact ih hosted.2 (apply_staffed (Ne.symm hosted.1) staffed)

end Backlog
end Lanes
