import Lanes.Proofs.Backlog.Conservation

/-!
# Quitting a backlog

A quit takes a backlog over at one moment, between two steps or while the consumer is busy. From
then on the backlog refuses everything but to be cleared. The task takes nothing out any more, and
it ends when it is next woken up. Then the quit hands over what was queued at that moment, from the
head to the tail and but for what was cleared, or it discards it, and the backlog stays empty. A
backlog that was dropped and not told to quit hands nothing over any more.
-/
namespace Lanes

namespace Books
variable {α : Type} {events : List (BacklogEvent α)}

theorem exits_not_cleared (kept : ∀ items, .cleared items ∉ events) :
    ∀ out ∈ exits events, out.2 ≠ .cleared := by
  intro out mem cleared
  obtain ⟨event, here, leaves⟩ := List.mem_flatMap.mp mem
  cases event with
  | cleared items => exact kept items here
  | taken | popped | tailed =>
    obtain rfl := List.mem_singleton.mp leaves
    cases cleared
  | discarded items =>
    obtain ⟨item, -, rfl⟩ := List.mem_map.mp leaves
    cases cleared
  | _ => cases leaves

end Books

namespace Backlog
variable {α σ : Type} {b b' b'' m q : Backlog α σ} {events more during : List (BacklogEvent α)}
  {steps later : List (Step α σ)} {step : Step α σ}

/-! ### Refusals -/

/-- Every call but clearing is refused, and changes nothing. -/
structure Shut (b : Backlog α σ) : Prop where
  push : ∀ item, b.push item = (.error .alreadyClosed, b)
  join : ∀ item, b.join item = (.error .alreadyClosed, b)
  pop : b.pop = (none, b)
  tail : b.tail = (none, b)
  employ : ∀ consumer rate, b.employ consumer rate = (false, b)
  close : b.close = (.error .alreadyClosed, b)

theorem Shut.of_closed (closed : b.closed = true) : Shut b where
  push := push_closed closed
  join := join_closed closed
  pop := pop_nothing (.inl closed)
  tail := tail_nothing (.inl closed)
  employ := by simp [Backlog.employ, closed]
  close := by simp [Backlog.close, closed]

theorem Busy.closed {item : α} (busy : Busy b item m) (closed : b.closed = true) :
    m.closed = true := by
  cases busy with
  | task due going => simp [cancelled, closed] at going
  | quit n _ _ _ _ moment =>
    obtain ⟨_, drained, -⟩ := drainFrom_drains _ _ n 0 b.acknowledgeEnd
    obtain ⟨_, calls⟩ := passes_responds moment
    exact calls.closed (drained.closed (b.acknowledgeEnd_keeps.closed closed))

theorem cancelled_of_closed (closed : b.closed = true) : b.cancelled = true := by
  simp [cancelled, closed]

theorem cancelled_of_dropped (dropped : b.dropped = true) : b.cancelled = true := by
  simp [cancelled, dropped]

/-! ### After the backlog was told -/

/-- A backlog that was told to quit, or dropped, goes on without handing anything over. -/
structure Lingers (b : Backlog α σ) (events : List (BacklogEvent α)) (b' : Backlog α σ) :
    Prop where
  history : b'.history = b.history ++ events
  handings : Books.handings events = []
  takings : Books.takings events = []
  dropped : b.dropped = true → b'.dropped = true
  closed : b.closed = true → b'.closed = true
  /-- On a closed backlog there are no changes but that it may be cleared. -/
  shut : b.closed = true → b'.consumer = b.consumer ∧ Gives (· = .cleared) b events b'

theorem Lingers.refl (b : Backlog α σ) : Lingers b [] b :=
  ⟨by simp, rfl, rfl, id, id, fun _ => ⟨rfl, .refl b⟩⟩

theorem Lingers.trans (h : Lingers b events b') (k : Lingers b' more b'') :
    Lingers b (events ++ more) b'' where
  history := by rw [k.history, h.history, List.append_assoc]
  handings := by rw [Books.handings_append, h.handings, k.handings, List.append_nil]
  takings := by rw [Books.takings_append, h.takings, k.takings, List.append_nil]
  dropped := k.dropped ∘ h.dropped
  closed := k.closed ∘ h.closed
  shut closed := by
    obtain ⟨same, gives⟩ := h.shut closed
    obtain ⟨same', gives'⟩ := k.shut (h.closed closed)
    exact ⟨same'.trans same, gives.trans gives'⟩

theorem Lingers.cancelled (h : Lingers b events b') (told : b.cancelled = true) :
    b'.cancelled = true := by
  simp only [Backlog.cancelled, Bool.or_eq_true] at told ⊢
  exact told.imp h.closed h.dropped

theorem Responds.lingers (h : Responds b events b') : Lingers b events b' :=
  ⟨h.history, h.handings, h.takings, h.dropped, h.closed, fun closed => ⟨h.consumer, h.shut closed⟩⟩

/-- An event that concerns no item, on a backlog that is otherwise the same. -/
theorem Lingers.aside {event : BacklogEvent α} (keeps : b'.consumer = b.consumer)
    (closed : b'.closed = b.closed) (dropped : b'.dropped = b.dropped) (items : b'.items = b.items)
    (history : b'.history = b.history ++ [event]) (still : event.moves = false)
    (silent : event.handing? = none) : Lingers b [event] b' where
  history := history
  handings := Books.handings_of_silent silent
  takings := Books.takings_of_still still
  dropped := dropped.trans
  closed := closed.trans
  shut _ := ⟨keeps, .aside still items⟩

theorem start_lingers (b : Backlog α σ) : Lingers b b.opening b.start := by
  unfold start opening
  split
  · exact .aside rfl rfl rfl rfl (history_note ..) rfl rfl
  · exact .refl b

theorem acknowledgeEnd_lingers (b : Backlog α σ) : ∃ events, Lingers b events b.acknowledgeEnd := by
  unfold acknowledgeEnd
  split
  · exact ⟨_, .aside rfl rfl rfl rfl (history_note ..) rfl rfl⟩
  · exact ⟨[], .refl b⟩

/-- A quit that finds no items changes nothing. -/
theorem finish_lingers (empty : b.items = []) (force : Bool) (now : Moment) :
    ∃ events, Lingers b events (b.finish force now) := by
  rcases b.finish_cases force now with ⟨consumer, -, -, is⟩ | ⟨-, is⟩
  · have none : drainFrom consumer now b.items.length 0 b = (0, b) := by
      rw [empty]
      rfl
    rw [is, none]
    exact ⟨_, .aside rfl rfl rfl rfl (history_note ..) rfl rfl⟩
  · rw [is, empty]
    refine ⟨_, ⟨history_note .., rfl, rfl, id, id, fun _ => ⟨rfl, rfl, ?_, by simp [Books.exits]⟩⟩⟩
    simp [Books.exits, empty, note]

/-- The task of a backlog that was told finds it cancelled, and ends. -/
theorem wake_lingers (told : b.cancelled = true) (now : Moment) :
    (∃ events, Lingers b events (b.wake now)) ∧ (b.wake now).ended = true := by
  rcases b.wake_cases now with ⟨idle, is⟩ | ⟨-, -, is⟩ | ⟨-, going, -⟩ | ⟨-, going, -⟩
  · rw [is]
    refine ⟨⟨[], .refl b⟩, ?_⟩
    unfold due at idle
    unfold ended
    cases phase : b.phase <;> simp [phase, told, WorkerPhase.ended] at idle ⊢
  · have stopped : Lingers b.start [.stopped] b.start.stop :=
      .aside rfl rfl rfl rfl (history_note ..) rfl rfl
    rw [is]
    exact ⟨⟨_, b.start_lingers.trans stopped⟩, rfl⟩
  · simp [told] at going
  · simp [told] at going

/-- Without a quit that finds items, nothing is handed over. -/
theorem apply_lingers (told : b.cancelled = true)
    (calm : ∀ force now, step = .finish force now → b.closed = true → b.ended = true →
      b.items = []) : ∃ events, Lingers b events (step.apply b) := by
  cases step with
  | employ consumer rate =>
    rw [Step.apply, employ]
    split
    · exact ⟨[], .refl b⟩
    · next hired =>
      exact ⟨_, history_note .., rfl, rfl, id, id, fun closed => absurd (.inl closed) hired⟩
  | finish force now =>
    rw [Step.apply]
    split
    · next both =>
      obtain ⟨events, noted⟩ := b.acknowledgeEnd_lingers
      have empty : b.acknowledgeEnd.items = [] := by
        have none := calm force now rfl both.1 both.2
        unfold acknowledgeEnd
        split <;> exact none
      obtain ⟨more, finished⟩ := finish_lingers empty force now
      exact ⟨_, noted.trans finished⟩
    · exact ⟨[], .refl b⟩
  | wake now => exact (wake_lingers told now).1
  | abort =>
    rw [Step.apply, abort]
    split
    · exact ⟨[], .refl b⟩
    · exact ⟨_, .aside rfl rfl rfl rfl (history_note ..) rfl rfl⟩
  | _ => exact (apply_responds rfl b).imp fun _ => Responds.lingers

theorem run_lingers (told : b.cancelled = true)
    (calm : ∀ before force now after, steps = before ++ .finish force now :: after →
      (run before b).closed = true → (run before b).ended = true → (run before b).items = []) :
    ∃ events, Lingers b events (run steps b) := by
  induction steps generalizing b with
  | nil => exact ⟨[], .refl b⟩
  | cons step steps ih =>
    obtain ⟨events, first⟩ : ∃ events, Lingers b events (step.apply b) :=
      apply_lingers told (by rintro force now rfl; exact calm [] force now steps rfl)
    obtain ⟨more, rest⟩ := ih (first.cancelled told)
      (by rintro before force now after rfl; exact calm (step :: before) force now after rfl)
    exact ⟨events ++ more, first.trans rest⟩

theorem Lingers.empty (h : Lingers b events b') (closed : b.closed = true) (empty : b.items = []) :
    Books.exits events = [] ∧ b'.items = [] := by
  have split := (h.shut closed).2.items
  rwa [empty, eq_comm, List.append_eq_nil_iff, List.map_eq_nil_iff] at split

/-- A closed backlog without items stays so, whatever comes. -/
theorem run_empty (closed : b.closed = true) (empty : b.items = []) (steps : List (Step α σ)) :
    ∃ events, Lingers b events (run steps b) := by
  induction steps generalizing b with
  | nil => exact ⟨[], .refl b⟩
  | cons step steps ih =>
    obtain ⟨events, first⟩ : ∃ events, Lingers b events (step.apply b) :=
      apply_lingers (cancelled_of_closed closed) (fun _ _ _ _ _ => empty)
    obtain ⟨more, rest⟩ := ih (first.closed closed) (first.empty closed empty).2
    exact ⟨events ++ more, first.trans rest⟩

/-! ### The end of the task -/

theorem due_of_cancelled (told : b.cancelled = true) (running : b.ended = false) (now : Moment) :
    b.due now = true := by
  unfold ended at running
  unfold due
  cases phase : b.phase <;> simp [phase, told, WorkerPhase.ended] at running ⊢

theorem apply_closed (closed : b.closed = true) (step : Step α σ) :
    (step.apply b).closed = true := by
  by_cases acts : ∃ force now, step = .finish force now
  · obtain ⟨force, now, rfl⟩ := acts
    rw [Step.apply]
    split
    · exact (b.acknowledgeEnd.finish_keeps force now).closed (b.acknowledgeEnd_keeps.closed closed)
    · exact closed
  · obtain ⟨events, lingers⟩ : ∃ events, Lingers b events (step.apply b) :=
      apply_lingers (cancelled_of_closed closed)
        (fun force now is => absurd ⟨force, now, is⟩ acts)
    exact lingers.closed closed

/-- The task of a closed backlog is not started again. -/
theorem apply_ended (closed : b.closed = true) (past : b.ended = true) (step : Step α σ) :
    (step.apply b).ended = true := by
  by_cases calls : step.answered = true
  · obtain ⟨events, responds⟩ := apply_responds calls b
    rwa [ended, responds.phase]
  cases step with
  | employ consumer rate => rwa [Step.apply, (Shut.of_closed closed).employ]
  | finish force now =>
    rw [Step.apply, if_pos ⟨closed, past⟩, ended,
      (b.acknowledgeEnd.finish_keeps force now).phase, b.acknowledgeEnd_keeps.phase]
    exact past
  | wake now => exact (wake_lingers (cancelled_of_closed closed) now).2
  | abort =>
    have same : b.abort = b := if_pos past
    rwa [Step.apply, same]
  | _ => exact absurd rfl calls

/-- A closed backlog stays closed. -/
theorem run_closed (closed : b.closed = true) (steps : List (Step α σ)) :
    (run steps b).closed = true := by
  induction steps generalizing b with
  | nil => exact closed
  | cons step steps ih => exact ih (apply_closed closed step)

/-- Once its task was woken up it has ended. -/
theorem run_ended (closed : b.closed = true)
    (woken : b.ended = true ∨ ∃ now, .wake now ∈ steps) : (run steps b).ended = true := by
  induction steps generalizing b with
  | nil => simpa [run] using woken
  | cons step steps ih =>
    refine ih (apply_closed closed step) ?_
    rcases woken with past | ⟨now, mem⟩
    · exact .inl (apply_ended closed past step)
    · rcases List.mem_cons.mp mem with rfl | later
      · exact .inl (wake_lingers (cancelled_of_closed closed) now).2
      · exact .inr ⟨now, later⟩

/-! ### The second half of quit -/

/-- The backlog stays empty, and nothing comes in or out. -/
def Emptied (b : Backlog α σ) : Prop :=
  ∀ rest, (run rest b).items = [] ∧ ∃ events, (run rest b).history = b.history ++ events ∧
    Books.exits events = [] ∧ Books.handings events = []

theorem Emptied.of_closed (closed : b.closed = true) (empty : b.items = []) : Emptied b := by
  intro rest
  obtain ⟨events, lingers⟩ := run_empty closed empty rest
  obtain ⟨none, still⟩ := lingers.empty closed empty
  exact ⟨still, events, lingers.history, none, lingers.handings⟩

/-- The consumer ends with what quit hands over as it does with the item at the head, after `n`
others. -/
def Heard (b : Backlog α σ) (consumer : Consumer α σ) (now : Moment)
    (given : α × Outcome Unit) : Prop :=
  ∃ n rest, (drainFrom consumer now n 0 b.acknowledgeEnd).2.items = given.1 :: rest ∧
    (drainFrom consumer now n 0 b.acknowledgeEnd).2.verdict consumer now given.1 = given.2

/-- Quit hands over what is left, but for what is cleared meanwhile, and leaves nothing. -/
theorem finish_drains {consumer : Consumer α σ} (closed : b.closed = true) (past : b.ended = true)
    (staff : b.consumer = some consumer) (now : Moment) :
    ∃ events, ((Step.finish false now).apply b).history = b.history ++ events ∧
      Gives (fun way => way = .delivered ∨ way = .cleared) b events
        ((Step.finish false now).apply b) ∧
      Books.takings events = (Books.handings events).map Prod.fst ∧
      (∀ given ∈ Books.handings events, Heard b consumer now given) ∧
      ((Step.finish false now).apply b).items = [] := by
  have still := b.acknowledgeEnd_keeps.closed closed
  obtain ⟨noted, first⟩ := b.acknowledgeEnd_lingers
  obtain ⟨events, drained, -, outcomes⟩ :=
    drainFrom_drains consumer now b.acknowledgeEnd.items.length 0 b.acknowledgeEnd
  have empty := drainFrom_empties consumer now b.acknowledgeEnd.items.length 0 b.acknowledgeEnd
    still (Nat.le_refl _)
  rw [finish_apply closed past staff now]
  generalize drainFrom consumer now b.acknowledgeEnd.items.length 0 b.acknowledgeEnd = left
    at drained empty ⊢
  have last : Lingers left.2 [.drained left.1] (left.2.note (.drained left.1)) :=
    .aside rfl rfl rfl rfl (history_note ..) rfl rfl
  have gone := drained.closed still
  refine ⟨noted ++ events ++ [.drained left.1], ?_, ?_, ?_, ?_, empty⟩
  · rw [last.history, drained.history, first.history, List.append_assoc, List.append_assoc,
      List.append_assoc]
  · exact (((first.shut closed).2.widen _).trans (drained.shut still)).trans
      ((last.shut gone).2.widen _)
  · simp [first.takings, first.handings, drained.even, last.takings, last.handings]
  · intro given mem
    exact outcomes given (by simpa [first.handings, last.handings] using mem)

theorem finish_discards {force : Bool} (closed : b.closed = true) (past : b.ended = true)
    (way : b.consumer = none ∨ force = true) (now : Moment) :
    ∃ events, ((Step.finish force now).apply b).history = b.history ++ events ∧
      Gives (fun way => way = .discarded ∨ way = .cleared) b events
        ((Step.finish force now).apply b) ∧
      Books.handings events = [] ∧ ((Step.finish force now).apply b).items = [] := by
  obtain ⟨noted, first⟩ := b.acknowledgeEnd_lingers
  have is : (Step.finish force now).apply b =
      { b.acknowledgeEnd with items := [] }.note (.discarded b.acknowledgeEnd.items) := by
    rw [Step.apply, if_pos ⟨closed, past⟩]
    rcases b.acknowledgeEnd.finish_cases force now with ⟨consumer, staff, gentle, -⟩ | ⟨-, is⟩
    · rw [b.acknowledgeEnd_keeps.consumer] at staff
      simp [staff, gentle] at way
    · exact is
  have last : Gives (fun way => way = .discarded ∨ way = .cleared) b.acknowledgeEnd
      [.discarded b.acknowledgeEnd.items] ((Step.finish force now).apply b) := by
    rw [is]
    exact ⟨rfl, by simp [Books.exits, Function.comp_def, note], by simp [Books.exits]⟩
  refine ⟨noted ++ [.discarded b.acknowledgeEnd.items], ?_, ?_, ?_, ?_⟩
  · rw [is, history_note, ← List.append_assoc, ← first.history]
    rfl
  · exact ((first.shut closed).2.widen _).trans last
  · rw [Books.handings_append, first.handings]
    rfl
  · rw [is]
    rfl

/-! ### The moment at which the backlog is told -/

/-- A moment of a step at which the backlog may be told something: the beginning of a call that
tells it, or one at which the consumer is busy with the item that the task gave it. -/
inductive Amid (b : Backlog α σ) : Step α σ → Backlog α σ → Prop
  | close : Amid b .close b
  | drop : Amid b .drop b
  | delivery {now : Moment} {consumer : Consumer α σ} {item : α} {rest : List α}
      {m : Backlog α σ} (due : b.due now = true) (going : b.cancelled = false)
      (staff : b.consumer = some consumer) (queue : b.items = item :: rest)
      (moment : m ∈ b.start.moments consumer now item) : Amid b (.wake now) m

/-- What is left of a step from one of its moments on: the consumer is not given another item. -/
structure Settles (m : Backlog α σ) (during : List (BacklogEvent α)) (q : Backlog α σ) :
    Prop where
  history : q.history = m.history ++ during
  takings : Books.takings during = []
  closed : m.closed = true → q.closed = true ∧ Gives (· = .cleared) m during q

theorem Settles.refl (b : Backlog α σ) : Settles b [] b :=
  ⟨by simp, rfl, fun closed => ⟨closed, .refl b⟩⟩

/-- The backlog was told nothing meanwhile. -/
def Untold (b b' : Backlog α σ) : Prop := b'.closed = b.closed ∧ b'.dropped = b.dropped

theorem push_untold (b : Backlog α σ) (item : α) : Untold b (b.push item).2 := by
  unfold push
  split <;> exact ⟨rfl, rfl⟩

theorem join_untold (b : Backlog α σ) (item : α) : Untold b (b.join item).2 := by
  unfold join
  split <;> exact ⟨rfl, rfl⟩

theorem pop_untold (b : Backlog α σ) : Untold b b.pop.2 := by
  unfold pop
  split
  · exact ⟨rfl, rfl⟩
  · cases b.items <;> exact ⟨rfl, rfl⟩

theorem tail_untold (b : Backlog α σ) : Untold b b.tail.2 := by
  unfold tail
  split
  · exact ⟨rfl, rfl⟩
  · cases b.items.getLast? <;> exact ⟨rfl, rfl⟩

/-- The backlog was told to quit for the first time, or was dropped. -/
def Tells (b b' : Backlog α σ) : Prop := b.close = (.ok (), b') ∨ b.drop = b'

theorem perform_cases (question : BacklogAsk α) (b : Backlog α σ) :
    Untold b (perform question b).2 ∨ Tells b (perform question b).2 := by
  unfold perform
  split
  · exact .inl ⟨rfl, rfl⟩
  · cases question with
    | push item => exact .inl (b.push_untold item)
    | join item => exact .inl (b.join_untold item)
    | pop => exact .inl b.pop_untold
    | tail => exact .inl b.tail_untold
    | clear => exact .inl ⟨rfl, rfl⟩
    | close =>
      cases isOpen : b.closed with
      | true => exact .inl (by simp [Untold, close, isOpen])
      | false => exact .inr (.inl (by simp [close, isOpen]))
    | drop => exact .inr (.inr rfl)

/-- Something comes to hold at a moment of the step, because the backlog is told. -/
def ToldDuring (P : Backlog α σ → Prop) (b : Backlog α σ) (step : Step α σ) : Prop :=
  ∃ m₀ m during, Amid b step m₀ ∧ ¬ P m₀ ∧ P m ∧ Tells m₀ m ∧ Settles m during (step.apply b)

theorem Responds.settles (calls : Responds m events b) (settles : Settles b during q) :
    Settles m (events ++ during) q where
  history := by rw [settles.history, calls.history, List.append_assoc]
  takings := by rw [Books.takings_append, calls.takings, settles.takings, List.append_nil]
  closed shut := by
    obtain ⟨still, gives⟩ := settles.closed (calls.closed shut)
    exact ⟨still, (calls.shut shut).trans gives⟩

/-- After the last call during a delivery the task only notes how the consumer has ended. -/
theorem deliver_settles (b : Backlog α σ) (consumer : Consumer α σ) (now : Moment) (item : α) :
    Settles ((consumer now item b.memory).run perform (b.taken item)).2
      [.delivered item (b.verdict consumer now item), .yielded]
      ({ b.deliver consumer now item with phase := .yielding }.note .yielded) where
  history := by
    rw [history_note]
    change (b.deliver consumer now item).history ++ [.yielded] = _
    rw [history_deliver, List.append_assoc]
    rfl
  takings := rfl
  closed shut := ⟨shut, rfl, rfl, by simp [Books.exits]⟩

/-- Unless the task delivers an item, nobody tells the backlog anything when it is woken up. -/
theorem wake_told {P : Backlog α σ → Prop}
    (plain : ∀ {b b' : Backlog α σ}, Untold b b' → P b' → P b) (before : ¬ P b) (now : Moment)
    (after : P (b.wake now)) : ToldDuring P b (.wake now) := by
  have started : Untold b b.start := ⟨b.start_closed, b.start_dropped⟩
  rcases b.wake_cases now with ⟨-, is⟩ | ⟨-, -, is⟩ |
    ⟨due, going, consumer, item, rest, staff, queue, is⟩ | ⟨-, -, -, is⟩
  · rw [is] at after
    exact absurd after before
  · have untold : Untold b (b.wake now) := is ▸ started
    exact absurd (plain untold after) before
  · let call := consumer now item b.start.memory
    have taking : Untold b (b.start.taken item) := started
    have fresh : ¬ P (b.start.taken item) := fun holds => before (plain taking holds)
    have turns : P (call.run perform (b.start.taken item)).2 := by
      refine plain (?_ : Untold _ (b.wake now)) after
      rw [is]
      exact ⟨rfl, rfl⟩
    obtain ⟨question, m₀, mem, not, turned, rest, same⟩ := Call.run_turns fresh turns
    obtain ⟨events, calls⟩ :=
      passes_responds (Call.run_mem_passes perform rest (perform question m₀).2)
    rw [same] at calls
    have settles := calls.settles (b.start.deliver_settles consumer now item)
    rw [← is] at settles
    exact ⟨m₀, _, _, .delivery due going staff queue mem, not, turned,
      (perform_cases question m₀).resolve_left (fun same => not (plain same turned)), settles⟩
  · have untold : Untold b (b.wake now) := is ▸ started
    exact absurd (plain untold after) before

/-- A step by which a backlog that is open comes to be closed or dropped has a moment at which it is
told so. -/
theorem apply_told {P : Backlog α σ → Prop} (isOpen : b.closed = false)
    (plain : ∀ {b b' : Backlog α σ}, Untold b b' → P b' → P b) (before : ¬ P b)
    (after : P (step.apply b)) : ToldDuring P b step := by
  have other {b' : Backlog α σ} (untold : Untold b b') (holds : P b') : False :=
    before (plain untold holds)
  cases step with
  | push item => exact (other (b.push_untold item) after).elim
  | join item => exact (other (b.join_untold item) after).elim
  | pop => exact (other b.pop_untold after).elim
  | tail => exact (other b.tail_untold after).elim
  | clear =>
    have untold : Untold b b.clear := ⟨rfl, rfl⟩
    exact (other untold after).elim
  | employ consumer rate =>
    refine (other ?_ after).elim
    rw [Step.apply, employ]
    split <;> exact ⟨rfl, rfl⟩
  | close =>
    have first : b.close = (.ok (), b.close.2) := by simp [close, isOpen]
    exact ⟨b, b.close.2, [], .close, before, after, .inl first, .refl _⟩
  | finish force now =>
    have waits : (Step.finish force now).apply b = b := by simp [Step.apply, isOpen]
    rw [waits] at after
    exact absurd after before
  | wake now => exact wake_told plain before now after
  | drop => exact ⟨b, b.drop, [], .drop, before, after, .inr rfl, .refl _⟩
  | abort =>
    refine (other ?_ after).elim
    rw [Step.apply, abort]
    split <;> exact ⟨rfl, rfl⟩

/-! ### From the first half of quit to the second -/

/-- A quit has not come to its second half: the task has not ended when it tries. -/
def Early (q : Backlog α σ) (steps : List (Step α σ)) : Prop :=
  ∀ before force now after, steps = before ++ .finish force now :: after →
    (run before q).ended = false

/-- What was queued in `m` has left from the head to the tail. It was handed over, or cleared. -/
structure HandedOver (m : Backlog α σ) (during events : List (BacklogEvent α)) : Prop where
  order : (Books.exits (during ++ events)).map Prod.fst = m.items
  ways : ∀ out ∈ Books.exits (during ++ events), out.2 = .delivered ∨ out.2 = .cleared
  handed : (Books.handings events).map Prod.fst = Books.takings (during ++ events)
  whole : (∀ items, .cleared items ∉ during ++ events) →
    (Books.handings events).map Prod.fst = m.items

/-- What was queued in `m` has left, and nothing was handed over. It was discarded, or cleared. -/
structure Discarded (m : Backlog α σ) (during events : List (BacklogEvent α)) : Prop where
  order : (Books.exits (during ++ events)).map Prod.fst = m.items
  ways : ∀ out ∈ Books.exits (during ++ events), out.2 = .discarded ∨ out.2 = .cleared
  none : Books.handings events = []

theorem Gives.order {ways : Exit → Prop} (gives : Gives ways b events b') (empty : b'.items = []) :
    (Books.exits events).map Prod.fst = b.items := by
  rw [gives.items, empty, List.append_nil]

theorem HandedOver.of_gives
    (gives : Gives (fun way => way = .delivered ∨ way = .cleared) m (during ++ events) b)
    (empty : b.items = []) (none : Books.takings during = [])
    (even : Books.takings events = (Books.handings events).map Prod.fst) :
    HandedOver m during events where
  order := gives.order empty
  ways := gives.way
  handed := by rw [Books.takings_append, none, even, List.nil_append]
  whole kept := by
    have all : ∀ out ∈ Books.exits (during ++ events), out.2 = .delivered := fun out mem =>
      (gives.way out mem).resolve_right (Books.exits_not_cleared kept out mem)
    have taken : Books.takings (during ++ events) = m.items := by
      rw [Books.takings, List.filter_eq_self.mpr (by simpa using all), gives.order empty]
    rw [← even, ← taken, Books.takings_append, none, List.nil_append]

/-- How a quit goes on that began when the backlog was `m`, after a step that it left as `q`. -/
structure TakesOver (m : Backlog α σ) (during : List (BacklogEvent α)) (q : Backlog α σ) :
    Prop where
  /-- From now on everything is refused, also while the consumer is busy. -/
  shut : ∀ later, Shut (run later q) ∧ ∀ item r, Busy (run later q) item r → Shut r
  /-- The task takes nothing out, and it ends as soon as it is woken up, for which it is ready at
  any moment. -/
  task : ∀ later now, ((run later q).ended = false → (run later q).due now = true) ∧
    ((run later q).wake now).ended = true ∧
    ∃ events, ((run later q).wake now).history = (run later q).history ++ events ∧
      Books.takings events = []
  ends : ∀ later now, .wake now ∈ later → (run later q).ended = true
  /-- Until the quit goes on nothing is handed over. -/
  waits : ∀ later, Early q later → ∃ events, (run later q).history = q.history ++ events ∧
    Books.takings events = [] ∧ Books.handings events = []
  /-- Then it hands over to the consumer, if there is one. -/
  gentle : ∀ later now consumer, Early q later → (run later q).ended = true →
    q.consumer = some consumer →
    ∃ events, (run (later ++ [.finish false now]) q).history = q.history ++ events ∧
      HandedOver m during events ∧
      (∀ given ∈ Books.handings events, Heard (run later q) consumer now given) ∧
      Emptied (run (later ++ [.finish false now]) q)
  /-- By force, or without a consumer, it discards everything. -/
  forced : ∀ later force now, Early q later → (run later q).ended = true →
    q.consumer = none ∨ force = true →
    ∃ events, (run (later ++ [.finish force now]) q).history = q.history ++ events ∧
      Discarded m during events ∧ Emptied (run (later ++ [.finish force now]) q)

theorem run_append (steps later : List (Step α σ)) (b : Backlog α σ) :
    run (steps ++ later) b = run later (run steps b) :=
  List.foldl_append

theorem run_concat (steps : List (Step α σ)) (step : Step α σ) (b : Backlog α σ) :
    run (steps ++ [step]) b = step.apply (run steps b) :=
  run_append steps [step] b

theorem Early.lingers (early : Early q later) (told : q.cancelled = true) :
    ∃ events, Lingers q events (run later q) := by
  refine run_lingers told ?_
  intro before force now after split _ past
  rw [early before force now after split] at past
  cases past

theorem Settles.takesOver (settles : Settles m during q) (closed : m.closed = true) :
    TakesOver m during q := by
  obtain ⟨shut, first⟩ := settles.closed closed
  have still (later : List (Step α σ)) : (run later q).closed = true := run_closed shut later
  have told : q.cancelled = true := cancelled_of_closed shut
  constructor
  case shut =>
    intro later
    exact ⟨.of_closed (still later), fun item r busy => .of_closed (busy.closed (still later))⟩
  case task =>
    intro later now
    have cancelled := cancelled_of_closed (still later)
    obtain ⟨⟨events, lingers⟩, past⟩ := wake_lingers cancelled now
    exact ⟨fun running => due_of_cancelled cancelled running now, past, events, lingers.history,
      lingers.takings⟩
  case ends => exact fun later now woken => run_ended shut (.inr ⟨now, woken⟩)
  case waits =>
    intro later early
    obtain ⟨events, lingers⟩ := early.lingers told
    exact ⟨events, lingers.history, lingers.takings, lingers.handings⟩
  case gentle =>
    intro later now consumer early past staff
    obtain ⟨waited, lingers⟩ := early.lingers told
    obtain ⟨same, between⟩ := lingers.shut shut
    obtain ⟨events, history, gives, even, heard, empty⟩ :=
      finish_drains (still later) past (same.trans staff) now
    rw [run_concat]
    refine ⟨waited ++ events, ?_, ?_, ?_, .of_closed (apply_closed (still later) _) empty⟩
    · rw [history, lingers.history, List.append_assoc]
    · refine .of_gives ((first.widen _).trans ((between.widen _).trans gives)) empty
        settles.takings ?_
      simp [lingers.takings, lingers.handings, even]
    · simpa [lingers.handings] using heard
  case forced =>
    intro later force now early past way
    obtain ⟨waited, lingers⟩ := early.lingers told
    obtain ⟨same, between⟩ := lingers.shut shut
    obtain ⟨events, history, gives, silent, empty⟩ :=
      finish_discards (still later) past (same ▸ way) now
    rw [run_concat]
    have all := (first.widen _).trans ((between.widen _).trans gives)
    refine ⟨waited ++ events, ?_, ⟨all.order empty, all.way, ?_⟩,
      .of_closed (apply_closed (still later) _) empty⟩
    · rw [history, lingers.history, List.append_assoc]
    · rw [Books.handings_append, lingers.handings, silent, List.nil_append]

/-- A step by which a backlog comes to be closed has a moment at which the first quit begins, and
from there on the quit takes the backlog over. A step by which it comes to be dropped, while it is
open, has a moment from which on the consumer is given nothing, unless the backlog is closed after
all. -/
theorem quit_takes_over (b : Backlog α σ) (step : Step α σ) :
    (b.closed = false → (step.apply b).closed = true →
      ∃ m₀ m during, Amid b step m₀ ∧ m₀.close = (.ok (), m) ∧ Settles m during (step.apply b) ∧
        TakesOver m during (step.apply b)) ∧
    (b.dropped = false → (step.apply b).dropped = true → (step.apply b).closed = false →
      ∃ m₀ during, Amid b step m₀ ∧ Settles m₀.drop during (step.apply b) ∧
        ∀ later, (run later (step.apply b)).closed = false →
          ∃ events, (run later (step.apply b)).history = (step.apply b).history ++ events ∧
            Books.takings events = [] ∧ Books.handings events = []) := by
  constructor
  · intro isOpen closed
    obtain ⟨m₀, m, during, amid, before, after, tells, settles⟩ := apply_told isOpen
      (P := fun b => b.closed = true) (fun untold holds => untold.1 ▸ holds)
      (by simp [isOpen]) closed
    refine ⟨m₀, m, during, amid, ?_, settles, settles.takesOver after⟩
    refine tells.resolve_right ?_
    rintro rfl
    exact before after
  · intro owned dropped still
    have isOpen : b.closed = false := by
      cases shut : b.closed with
      | false => rfl
      | true => rw [← still, apply_closed shut step]
    obtain ⟨m₀, m, during, amid, before, after, tells, settles⟩ := apply_told isOpen
      (P := fun b => b.dropped = true) (fun untold holds => untold.2 ▸ holds)
      (by simp [owned]) dropped
    have leaves : m₀.drop = m := by
      refine tells.resolve_left fun closes => before ?_
      rw [← after, ← show m₀.close.2 = m from congrArg Prod.snd closes]
      unfold close
      split <;> rfl
    refine ⟨m₀, during, amid, leaves ▸ settles, fun later unclosed => ?_⟩
    obtain ⟨events, lingers⟩ :
        ∃ events, Lingers (step.apply b) events (run later (step.apply b)) := by
      refine run_lingers (cancelled_of_dropped dropped) ?_
      rintro earlier force now rest rfl shut
      rw [run_append, run_closed shut] at unclosed
      cases unclosed
    exact ⟨events, lingers.history, lingers.takings, lingers.handings⟩

/-- The moody consumer was given a one and panicked. -/
def moodyMeanwhile : Backlog Nat Unit :=
  run [.push 1, .push 2, .push 3, .employ moody defaultConsumeRate, .wake 0] (new ())

theorem moody_is_handed_the_rest :
    (∃ (m : Backlog Nat Unit) (during events : List (BacklogEvent Nat)), m.items = [2, 3] ∧
      (run [.join 9, .wake 0, .finish false 0] (Step.close.apply moodyMeanwhile)).history =
        (Step.close.apply moodyMeanwhile).history ++ events ∧
      HandedOver m during events ∧
      Emptied (run [.join 9, .wake 0, .finish false 0] (Step.close.apply moodyMeanwhile))) ∧
    ∃ events, (run [.push 9, .wake 0] (Step.drop.apply moodyMeanwhile)).history =
        (Step.drop.apply moodyMeanwhile).history ++ events ∧
      Books.takings events = [] ∧ Books.handings events = [] := by
  obtain ⟨m₀, m, during, amid, closes, -, takes⟩ :=
    (quit_takes_over moodyMeanwhile .close).1 rfl rfl
  obtain ⟨m₁, -, -, -, silent⟩ := (quit_takes_over moodyMeanwhile .drop).2 rfl rfl rfl
  refine ⟨?_, silent [.push 9, .wake 0] rfl⟩
  cases amid
  obtain rfl : moodyMeanwhile.close.2 = m := congrArg Prod.snd closes
  have early : Early (Step.close.apply moodyMeanwhile) [.join 9, .wake 0] := by
    intro before force now after split
    have mem : (.finish force now : Step Nat Unit) ∈ [.join 9, .wake 0] := by simp [split]
    simp at mem
  obtain ⟨events, history, handed, -, emptied⟩ :=
    takes.gentle [.join 9, .wake 0] 0 moody early rfl rfl
  exact ⟨_, during, events, rfl, history, handed, emptied⟩

end Backlog
end Lanes
