import Lanes.Proofs.Backlog.Run

/-!
# Where the items of a backlog are

At every moment of every run, also while the consumer is busy, the books account for each accepted
item in one place, and the backlog answers every call as the queue of the books would. The consumer
gets what leaves the queue for it, once and from the head. However it ends with an item, its task
goes on until the backlog is cancelled, and quit hands over what is left then.
-/
namespace Lanes
namespace Backlog
variable {α σ : Type} {b b' : Backlog α σ} {hand : List α} {books books' : Books α}

/-- The books of a backlog, whose consumer is busy with the items in hand: none, or one. -/
structure Conserves (b : Backlog α σ) (hand : List α) (books : Books α) : Prop where
  /-- They are what follows from the journal. -/
  entries : Books.Entries .empty b.history books
  queue : books.items = b.items
  /-- Each accepted item is in one place, and what came in at the tail keeps its order. -/
  balanced : books.Balanced
  accepted : books.accepted.map (fun slip => (slip.item, slip.atTail)) =
    Books.entrances b.history
  left : books.left.map (fun out => (out.1.item, out.2)) = Books.exits b.history
  /-- What left for the consumer was handed to it, in this order, or is in hand. -/
  handed : Books.takings b.history = (Books.handings b.history).map Prod.fst ++ hand

theorem Conserves.ofEntries (entries : Books.Entries .empty b.history books)
    (queue : books.items = b.items)
    (handed : Books.takings b.history = (Books.handings b.history).map Prod.fst ++ hand) :
    Conserves b hand books where
  entries := entries
  queue := queue
  balanced := entries.balanced .empty
  accepted := by simpa [Books.empty] using entries.agrees.1
  left := by simpa [Books.empty] using entries.agrees.2
  handed := handed

theorem Conserves.grows (h : Conserves b hand books) {events : List (BacklogEvent α)}
    {hand' : List α} (history : b'.history = b.history ++ events)
    (entries : Books.Entries books events books') (queue : books'.items = b'.items)
    (handed : hand ++ Books.takings events = (Books.handings events).map Prod.fst ++ hand') :
    Conserves b' hand' books' := by
  refine .ofEntries (by rw [history]; exact h.entries.trans entries) queue ?_
  rw [history, Books.takings_append, Books.handings_append, h.handed, List.append_assoc, handed,
    List.map_append, List.append_assoc]

theorem Conserves.new (memory : σ) : Conserves (new memory : Backlog α σ) [] .empty :=
  .ofEntries (.refl _) rfl rfl

theorem Conserves.leads (h : Conserves b [] books) {events : List (BacklogEvent α)}
    (k : Leads b events b') :
    ∃ books', Books.Entries books events books' ∧ Conserves b' [] books' := by
  obtain ⟨books', entries, queue⟩ := k.enters books h.queue
  exact ⟨books', entries, h.grows k.history entries queue (by simp [k.even])⟩

/-- A call that leaves one event and hands nothing over. -/
theorem Conserves.call (h : Conserves b hand books) {event : BacklogEvent α}
    (entry : Books.Entry books [event] books') (queue : books'.items = b'.items)
    (history : b'.history = b.history ++ [event]) (silent : event.handing? = none)
    (untaken : Books.takings [event] = []) : Conserves b' hand books' := by
  have quiet : Books.handings [event] = [] := List.filterMap_cons_none silent
  exact h.grows history (.single entry) queue (by simp [untaken, quiet])

theorem Conserves.aside (h : Conserves b hand books) {event : BacklogEvent α}
    (still : event.moves = false) (queue : books.items = b'.items)
    (history : b'.history = b.history ++ [event]) (silent : event.handing? = none) :
    Conserves b' hand books := by
  exact h.call (.aside books still) queue history silent (Books.takings_of_still still)

/-- What the backlog answers, and what is in the books then. -/
structure Answers (b : Backlog α σ) (hand : List α) (books : Books α) : Prop where
  refused : b.closed = true → ∀ item, b.push item = (.error .alreadyClosed, b) ∧
    b.join item = (.error .alreadyClosed, b)
  pushed : b.closed = false → ∀ item, (b.push item).1 = .ok () ∧
    Conserves (b.push item).2 hand (books.accept item true)
  joined : b.closed = false → ∀ item, (b.join item).1 = .ok () ∧
    Conserves (b.join item).2 hand (books.accept item false)
  nothing : b.closed = true ∨ books.queued = [] → b.pop = (none, b) ∧ b.tail = (none, b)
  popped : b.closed = false → ∀ slip rest, books.queued = slip :: rest →
    b.pop.1 = some slip.item ∧ Conserves b.pop.2 hand (books.release [slip] .popped rest)
  tailed : b.closed = false → ∀ front slip, books.queued = front ++ [slip] →
    b.tail.1 = some slip.item ∧ Conserves b.tail.2 hand (books.release [slip] .tailed front)
  cleared : Conserves b.clear hand (books.release books.queued .cleared [])
  /-- Everything else leaves the books alone. -/
  closes : Conserves b.close.2 hand books
  employed : ∀ consumer rate, Conserves (b.employ consumer rate).2 hand books
  dropped : Conserves b.drop hand books
  aborted : Conserves b.abort hand books

theorem Conserves.answers (h : Conserves b hand books) : Answers b hand books where
  refused closed item := ⟨push_closed closed item, join_closed closed item⟩
  pushed isOpen item := by
    rw [push_open isOpen]
    exact ⟨rfl, h.call (.push books item) (by simp [h.queue, note]) (history_note ..) rfl rfl⟩
  joined isOpen item := by
    rw [join_open isOpen]
    exact ⟨rfl, h.call (.join books item) (by simp [h.queue, note]) (history_note ..) rfl rfl⟩
  nothing none := by
    have nothing : b.closed = true ∨ b.items = [] :=
      none.imp_right fun empty => by rw [← h.queue, Books.items, empty, List.map_nil]
    exact ⟨pop_nothing nothing, tail_nothing nothing⟩
  popped isOpen slip rest head := by
    have queue : b.items = slip.item :: rest.map Slip.item := by
      rw [← h.queue, Books.items, head, List.map_cons]
    rw [pop_head isOpen queue]
    exact ⟨rfl, h.call (.pop head) rfl (history_note ..) rfl rfl⟩
  tailed isOpen front slip back := by
    have queue : b.items = front.map Slip.item ++ [slip.item] := by
      rw [← h.queue, Books.items, back, List.map_append, List.map_singleton]
    rw [tail_back isOpen queue]
    exact ⟨rfl, h.call (.tail back) rfl (history_note ..) rfl rfl⟩
  cleared := by
    refine h.call (.clear books) rfl ?_ rfl (by simp [Books.takings, Books.exits])
    rw [clear, history_note, h.queue]
    rfl
  closes := by
    unfold close
    split
    · exact h
    · exact h.aside rfl h.queue (history_note ..) rfl
  employed consumer rate := by
    unfold employ
    split
    · exact h
    · exact h.aside rfl h.queue (history_note ..) rfl
  dropped := h.aside rfl h.queue (history_note ..) rfl
  aborted := by
    unfold abort
    split
    · exact h
    · exact h.aside rfl h.queue (history_note ..) rfl

theorem opening_entries (b : Backlog α σ) (books : Books α) :
    Books.Entries books b.opening books := by
  unfold opening
  split
  · exact .single (.aside books rfl)
  · exact .refl books

theorem Conserves.started (h : Conserves b [] books) : Conserves b.start [] books :=
  h.grows b.start_leads.history (b.opening_entries books) (by rw [h.queue, start_items])
    (by simp [b.start_leads.even])

theorem Conserves.acknowledged (h : Conserves b [] books) :
    Conserves b.acknowledgeEnd [] books := by
  unfold acknowledgeEnd
  split
  · exact h.aside rfl h.queue (history_note ..) rfl
  · exact h

/-! ### While the consumer is busy -/

/-- The moments at which the consumer is busy with an item, be it for the task or for quit. -/
inductive Busy (b : Backlog α σ) : α → Backlog α σ → Prop
  | task {now : Moment} {consumer : Consumer α σ} {item : α} {rest : List α} {b' : Backlog α σ}
      (due : b.due now = true) (going : b.cancelled = false) (staff : b.consumer = some consumer)
      (queue : b.items = item :: rest) (moment : b' ∈ b.start.moments consumer now item) :
      Busy b item b'
  /-- Quit handed over `n` items before. -/
  | quit {now : Moment} {consumer : Consumer α σ} {item : α} {rest : List α} {b' : Backlog α σ}
      (n : Nat) (closed : b.closed = true) (ended : b.ended = true)
      (staff : b.consumer = some consumer)
      (queue : (drainFrom consumer now n 0 b.acknowledgeEnd).2.items = item :: rest)
      (moment : b' ∈ (drainFrom consumer now n 0 b.acknowledgeEnd).2.moments consumer now item) :
      Busy b item b'

theorem Conserves.moment (h : Conserves b [] books) {consumer : Consumer α σ} {now : Moment}
    {item : α} {rest : List α} (queue : b.items = item :: rest)
    (moment : b' ∈ b.moments consumer now item) : ∃ books', Conserves b' [item] books' := by
  obtain ⟨during, calls⟩ := passes_responds moment
  obtain ⟨books', entries, queue'⟩ := ((taken_enters queue).trans calls.enters) books h.queue
  have history : b'.history = b.history ++ ([.taken item] ++ during) := by
    rw [calls.history, history_taken, List.append_assoc]
  refine ⟨books', h.grows history entries queue' ?_⟩
  rw [Books.takings_append, Books.handings_append, calls.takings, calls.handings]
  rfl

theorem Conserves.busy (h : Conserves b [] books) {item : α} (busy : Busy b item b') :
    ∃ books', Conserves b' [item] books' := by
  cases busy with
  | task due going staff queue moment =>
    exact h.started.moment (b.start_items.trans queue) moment
  | quit n closed ended staff queue moment =>
    obtain ⟨events, drained, -⟩ := drainFrom_drains _ _ n 0 b.acknowledgeEnd
    obtain ⟨books', -, handed⟩ := h.acknowledged.leads drained.toLeads
    exact handed.moment queue moment

/-! ### What the consumer gets -/

/-- A step of the task in which it handed over the item at the head and gave way. -/
structure HandsOver (b : Backlog α σ) (books : Books α) (slip : Slip α) (rest : List (Slip α))
    (outcome : Outcome Unit) (during : List (BacklogEvent α)) (b' : Backlog α σ)
    (books' : Books α) : Prop where
  conserves : Conserves b' [] books'
  /-- What the calls changed while the consumer was busy. -/
  calls : Books.Entries (books.release [slip] .delivered rest) during books'
  once : Books.handings during = []
  history : b'.history =
    b.history ++ b.opening ++ delivery slip.item during outcome ++ [.yielded]
  phase : b'.phase = .yielding

/-- Quit handed over what was queued, in order, unless somebody cleared the backlog meanwhile. -/
structure Empties (b : Backlog α σ) (books : Books α) (consumer : Consumer α σ) (now : Moment)
    (events : List (BacklogEvent α)) (out : List (Slip α × Exit)) (b' : Backlog α σ)
    (books' : Books α) : Prop where
  conserves : Conserves b' [] books'
  accepted : books'.accepted = books.accepted
  left : books'.left = books.left ++ out
  queued : books'.queued = []
  order : out.map Prod.fst = books.queued
  ways : ∀ gone ∈ out, gone.2 = .delivered ∨ gone.2 = .cleared
  history : b'.history =
    b.acknowledgeEnd.history ++ events ++ [.drained (Books.handings events).length]
  /-- Each outcome is how the consumer ended with the item at the head, after `n` others. -/
  outcomes : ∀ given ∈ Books.handings events, ∃ n rest,
    (drainFrom consumer now n 0 b.acknowledgeEnd).2.items = given.1 :: rest ∧
    (drainFrom consumer now n 0 b.acknowledgeEnd).2.verdict consumer now given.1 = given.2

/-- What the task and quit do for the consumer. -/
structure Serves (b : Backlog α σ) (books : Books α) : Prop where
  /-- The task goes on, however the consumer ends. -/
  task : ∀ now consumer slip rest, b.due now = true → b.cancelled = false →
    b.consumer = some consumer → books.queued = slip :: rest →
    ∃ during books', HandsOver b books slip rest (b.start.verdict consumer now slip.item) during
      (b.wake now) books'
  /-- Otherwise it hands nothing over. -/
  idle : ∀ now, b.due now = false ∨ b.cancelled = true ∨ b.consumer = none ∨ books.queued = [] →
    Conserves (b.wake now) [] books
  /-- Quit waits for the end of the task. -/
  early : ∀ force now, b.closed = false ∨ b.ended = false → (Step.finish force now).apply b = b
  quit : ∀ now consumer, b.closed = true → b.ended = true → b.consumer = some consumer →
    ∃ events out books',
      Empties b books consumer now events out ((Step.finish false now).apply b) books'
  /-- By force, or without a consumer, everything is discarded. -/
  discard : ∀ force now, b.closed = true → b.ended = true → b.consumer = none ∨ force = true →
    Conserves ((Step.finish force now).apply b) [] (books.release books.queued .discarded [])

theorem Conserves.hands (h : Conserves b [] books) {now : Moment} {consumer : Consumer α σ}
    {slip : Slip α} {rest : List (Slip α)} (ready : b.due now = true) (going : b.cancelled = false)
    (staff : b.consumer = some consumer) (head : books.queued = slip :: rest) :
    ∃ during books', HandsOver b books slip rest (b.start.verdict consumer now slip.item) during
      (b.wake now) books' := by
  have queue : b.items = slip.item :: rest.map Slip.item := by
    rw [← h.queue, Books.items, head, List.map_cons]
  obtain ⟨during, silent, entered, leads, phase⟩ := wake_hands ready going staff queue
  have out : (books.release [slip] .delivered rest).items = (b.start.taken slip.item).items := by
    simp [taken, note, queue]
  -- The slip leaves first, and what the calls enter comes after it.
  obtain ⟨books', entries, queue'⟩ := entered _ out
  have delivered : Books.Entries books
      (delivery slip.item during (b.start.verdict consumer now slip.item)) books' :=
    .head (.take head) (.trans entries (.single (.aside books' rfl)))
  have yielded : Books.Entries books' [.yielded] books' := .single (.aside books' rfl)
  have all := ((b.opening_entries books).trans delivered).trans yielded
  have conserves := h.grows leads.history all queue' (by rw [leads.even, List.append_nil]; rfl)
  exact ⟨during, books', conserves, entries, silent, by simpa using leads.history, phase⟩

theorem Conserves.idles (h : Conserves b [] books) (now : Moment)
    (idle : b.due now = false ∨ b.cancelled = true ∨ b.consumer = none ∨ books.queued = []) :
    Conserves (b.wake now) [] books := by
  rcases b.wake_cases now with ⟨-, is⟩ | ⟨-, -, is⟩ |
    ⟨ready, going, consumer, item, rest, staff, queue, -⟩ | ⟨-, -, -, is⟩
  · rw [is]
    exact h
  · rw [is]
    exact h.started.aside rfl h.started.queue (history_note ..) rfl
  · rw [← h.queue] at queue
    rcases idle with not | told | none | none
    · simp [ready] at not
    · simp [going] at told
    · simp [staff] at none
    · simp [Books.items, none] at queue
  · rw [is]
    exact h.started.aside rfl h.started.queue (history_note ..) rfl

theorem Conserves.drains (h : Conserves b [] books) (now : Moment) (consumer : Consumer α σ)
    (closed : b.closed = true) (ended : b.ended = true) (staff : b.consumer = some consumer) :
    ∃ events out books',
      Empties b books consumer now events out ((Step.finish false now).apply b) books' := by
  have kept := b.acknowledgeEnd_keeps
  have is := finish_apply closed ended staff now
  obtain ⟨events, drained, counted, outcomes⟩ :=
    drainFrom_drains consumer now b.acknowledgeEnd.items.length 0 b.acknowledgeEnd
  obtain ⟨shut, -, ways⟩ := drained.shut (kept.closed closed)
  obtain ⟨books', entries, conserves⟩ := h.acknowledged.leads drained.toLeads
  have away : ∀ out ∈ Books.exits events, out.2 ≠ .tailed := by
    intro out mem tailed
    simpa [tailed] using ways out mem
  -- On a closed backlog nothing comes in, so the slips leave in the order of the queue.
  obtain ⟨out, ebbs, same⟩ := entries.ebbs shut away
  have empty : books'.queued = [] := by
    have items := conserves.queue
    rw [drainFrom_empties _ _ _ _ _ (kept.closed closed) (Nat.le_refl _)] at items
    exact List.map_eq_nil_iff.mp items
  rw [counted, Nat.zero_add] at is
  refine ⟨events, out, books', ?_, ebbs.accepted, ebbs.left, empty, ?_, ?_, ?_, outcomes⟩
  · rw [is]
    exact conserves.aside rfl conserves.queue (history_note ..) rfl
  · rw [ebbs.queued, empty, List.append_nil]
  · intro gone mem
    have left := List.mem_map_of_mem (f := fun gone => (gone.1.item, gone.2)) mem
    rw [same] at left
    exact ways _ left
  · rw [is, history_note, drained.history]

theorem Conserves.discards (h : Conserves b [] books) (force : Bool) (now : Moment)
    (closed : b.closed = true) (ended : b.ended = true)
    (way : b.consumer = none ∨ force = true) :
    Conserves ((Step.finish force now).apply b) [] (books.release books.queued .discarded []) := by
  have applied : (Step.finish force now).apply b = b.acknowledgeEnd.finish force now := by
    simp [Step.apply, closed, ended]
  rw [applied]
  rcases b.acknowledgeEnd.finish_cases force now with ⟨consumer, staff, gentle, -⟩ | ⟨-, is⟩
  · rw [b.acknowledgeEnd_keeps.consumer] at staff
    simp [staff, gentle] at way
  · rw [is]
    refine h.acknowledged.call (.discard books) rfl ?_ rfl (by simp [Books.takings, Books.exits])
    rw [history_note, h.acknowledged.queue]
    rfl

theorem Conserves.serves (h : Conserves b [] books) : Serves b books where
  task _ _ _ _ := h.hands
  idle := h.idles
  early force now not := by
    have waits : ¬ (b.closed = true ∧ b.ended = true) := by
      rcases not with not | not <;> simp [not]
    exact if_neg waits
  quit := h.drains
  discard := h.discards

/-- With a consumer and until it is cancelled, there is a moment from which on the task is due. -/
def Tireless (b : Backlog α σ) : Prop :=
  b.consumer.isSome = true → b.cancelled = false → ∃ wakeAt, ∀ now, wakeAt ≤ now → b.due now = true

theorem Staffed.tireless (staffed : Staffed b) : Tireless b := by
  intro staff going
  cases phase : b.phase with
  | absent => simp [staffed.absent phase] at staff
  | spawned => exact ⟨0, fun _ _ => by simp [due, phase]⟩
  | yielding => exact ⟨0, fun _ _ => by simp [due, phase]⟩
  | sleeping wakeAt => exact ⟨wakeAt, fun now late => by simp [due, phase, late]⟩
  | stopped => simp [staffed.stopped phase] at going
  | aborted => exact absurd phase staffed.hosted

/-! ### Every run -/

theorem run_conserves (memory : σ) (steps : List (Step α σ)) :
    ∃ books, Conserves (run steps (new memory)) [] books := by
  obtain ⟨events, leads⟩ := run_leads steps (new memory)
  obtain ⟨books, -, conserves⟩ := (Conserves.new memory).leads leads
  exact ⟨books, conserves⟩

/-- Between the steps of a run and while the consumer is busy, each accepted item is in one place
and the backlog is the queue of its books; unless the host goes down, the consumer is served on. -/
theorem run_accounts_for_items (memory : σ) (steps : List (Step α σ)) :
    (∃ books, Conserves (run steps (new memory)) [] books ∧
      Answers (run steps (new memory)) [] books ∧ Serves (run steps (new memory)) books) ∧
    (∀ item b, Busy (run steps (new memory)) item b →
      ∃ books : Books α, Conserves b [item] books ∧ Answers b [item] books) ∧
    (.abort ∉ steps → Tireless (run steps (new memory))) := by
  obtain ⟨books, conserves⟩ := run_conserves memory steps
  refine ⟨⟨books, conserves, conserves.answers, conserves.serves⟩, ?_, ?_⟩
  · intro item b busy
    obtain ⟨books', meanwhile⟩ := conserves.busy busy
    exact ⟨books', meanwhile, meanwhile.answers⟩
  · intro hosted
    exact (run_staffed hosted (.new memory)).tireless

/-- It pushes a seven and fails on a zero, and panics on a one. -/
def moody : Consumer Nat Unit := fun _ item _ =>
  match item with
  | 0 => .ask (.push 7) (fun _ => .done (.failed (.callback "zero"), ()))
  | 1 => .done (.panicked .other, ())
  | _ => .done (.returned (), ())

/-- The moody consumer takes three items, and quit hands it the others. -/
def moodySteps : List (Step Nat Unit) :=
  [.push 0, .push 1, .push 2, .join 3, .employ moody defaultConsumeRate, .wake 0, .wake 0, .tail,
    .wake 0, .push 4, .close, .push 5, .wake 0, .finish false 0]

theorem moody_accounts :
    Books.exits (run moodySteps (new ())).history =
        [(3, .delivered), (0, .delivered), (7, .tailed), (1, .delivered), (2, .delivered),
          (4, .delivered)] ∧
      (∃ books, Conserves (run moodySteps (new ())) [] books) ∧
      ∃ wakeAt, ∀ now, wakeAt ≤ now → (run (moodySteps.take 9) (new ())).due now = true :=
  ⟨rfl, (run_accounts_for_items () moodySteps).1.imp fun _ accounts => accounts.1,
    (run_accounts_for_items () (moodySteps.take 9)).2.2 (by simp [moodySteps]) rfl rfl⟩

end Backlog
end Lanes
