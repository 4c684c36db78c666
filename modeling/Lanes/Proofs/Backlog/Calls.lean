import Lanes.Proofs.Backlog.Books

/-!
# Calls on a backlog

Pushing, joining, popping and clearing come from outside, or from the consumer and others while it
is busy with an item. Each call enters in the books what it leaves in the journal, and so does any
number of calls during a delivery, up to each moment of it.
-/
namespace Lanes

namespace BacklogEvent
variable {α : Type}

@[simp] def handing? : BacklogEvent α → Option (α × Outcome Unit)
  | delivered item outcome => some (item, outcome)
  | _ => none

end BacklogEvent

namespace Books
variable {α : Type} (events more : List (BacklogEvent α))

/-- The items that the consumer was called with, each with the outcome. -/
def handings : List (α × Outcome Unit) := events.filterMap BacklogEvent.handing?

/-- The items that left for the consumer. -/
def takings : List α := ((exits events).filter (·.2 = .delivered)).map Prod.fst

@[simp] theorem handings_append : handings (events ++ more) = handings events ++ handings more :=
  List.filterMap_append ..

@[simp] theorem takings_append : takings (events ++ more) = takings events ++ takings more := by
  simp [takings]

theorem handings_of_silent {event : BacklogEvent α} (silent : event.handing? = none) :
    handings [event] = [] :=
  List.filterMap_cons_none silent

theorem takings_of_still {event : BacklogEvent α} (still : event.moves = false) :
    takings [event] = [] := by
  simp [takings, exits_of_still still]

end Books

namespace Backlog
variable {α σ : Type} {b b' b'' : Backlog α σ} {events more : List (BacklogEvent α)}

/-- What was noted, the oldest first. -/
def history (b : Backlog α σ) : List (BacklogEvent α) := b.journal.reverse

@[simp] theorem history_note (b : Backlog α σ) (event : BacklogEvent α) :
    (b.note event).history = b.history ++ [event] := by
  simp [history, note]

/-- The events are entered in the books, and leave the queue as it is afterwards. -/
def Enters (b : Backlog α σ) (events : List (BacklogEvent α)) (b' : Backlog α σ) : Prop :=
  ∀ books : Books α, books.items = b.items →
    ∃ books', Books.Entries books events books' ∧ books'.items = b'.items

theorem Enters.refl (same : b'.items = b.items) : Enters b [] b' :=
  fun books items => ⟨books, .refl books, items.trans same.symm⟩

theorem Enters.trans (h : Enters b events b') (k : Enters b' more b'') :
    Enters b (events ++ more) b'' := by
  intro books same
  obtain ⟨books', entries, same'⟩ := h books same
  obtain ⟨books'', entries', same''⟩ := k books' same'
  exact ⟨books'', entries.trans entries', same''⟩

/-- An event that moves no item. -/
theorem Enters.aside {event : BacklogEvent α} (still : event.moves = false)
    (same : b'.items = b.items) : Enters b [event] b' :=
  fun books items => ⟨books, .single (.aside books still), items.trans same.symm⟩

/-- The consumer and its task stay as they are, and what is closed stays closed. -/
structure Keeps (b b' : Backlog α σ) : Prop where
  consumer : b'.consumer = b.consumer
  phase : b'.phase = b.phase
  dropped : b.dropped = true → b'.dropped = true
  closed : b.closed = true → b'.closed = true

theorem Keeps.refl (b : Backlog α σ) : Keeps b b := ⟨rfl, rfl, id, id⟩

theorem Keeps.trans (h : Keeps b b') (k : Keeps b' b'') : Keeps b b'' :=
  ⟨k.consumer.trans h.consumer, k.phase.trans h.phase, k.dropped ∘ h.dropped,
    k.closed ∘ h.closed⟩

/-- Nothing comes in, and items leave in the order of the queue and in certain ways only. -/
structure Gives (ways : Exit → Prop) (b : Backlog α σ) (events : List (BacklogEvent α))
    (b' : Backlog α σ) : Prop where
  none : Books.entrances events = []
  items : b.items = (Books.exits events).map Prod.fst ++ b'.items
  way : ∀ out ∈ Books.exits events, ways out.2

theorem Gives.refl {ways : Exit → Prop} (b : Backlog α σ) : Gives ways b [] b :=
  ⟨rfl, rfl, by simp [Books.exits]⟩

theorem Gives.aside {ways : Exit → Prop} {event : BacklogEvent α} (still : event.moves = false)
    (same : b'.items = b.items) : Gives ways b [event] b' :=
  ⟨Books.entrances_of_still still, by simp [Books.exits_of_still still, same],
    by simp [Books.exits_of_still still]⟩

theorem Gives.trans {ways : Exit → Prop} (h : Gives ways b events b')
    (k : Gives ways b' more b'') : Gives ways b (events ++ more) b'' where
  none := by rw [Books.entrances_append, h.none, k.none, List.append_nil]
  items := by rw [h.items, k.items, Books.exits_append, List.map_append, List.append_assoc]
  way out mem := by
    rw [Books.exits_append] at mem
    exact (List.mem_append.mp mem).elim (h.way out) (k.way out)

/-- Items that were cleared left in one of two ways. -/
theorem Gives.widen (h : Gives (· = .cleared) b events b') (other : Exit) :
    Gives (fun way => way = other ∨ way = .cleared) b events b' :=
  ⟨h.none, h.items, fun out mem => .inr (h.way out mem)⟩

/-! ### Both ends -/

section Ends
variable {item : α} {rest front : List α}

theorem push_closed (closed : b.closed = true) (item : α) :
    b.push item = (.error .alreadyClosed, b) := by
  simp [push, closed]

theorem push_open (isOpen : b.closed = false) (item : α) :
    b.push item = (.ok (), { b with items := b.items ++ [item] }.note (.pushed item)) := by
  simp [push, isOpen]

theorem join_closed (closed : b.closed = true) (item : α) :
    b.join item = (.error .alreadyClosed, b) := by
  simp [join, closed]

theorem join_open (isOpen : b.closed = false) (item : α) :
    b.join item = (.ok (), { b with items := item :: b.items }.note (.joined item)) := by
  simp [join, isOpen]

theorem pop_nothing (nothing : b.closed = true ∨ b.items = []) : b.pop = (none, b) := by
  rcases nothing with closed | empty
  · simp [pop, closed]
  · simp [pop, empty]

theorem pop_head (isOpen : b.closed = false) (queue : b.items = item :: rest) :
    b.pop = (some item, { b with items := rest }.note (.popped item)) := by
  simp [pop, isOpen, queue]

theorem tail_nothing (nothing : b.closed = true ∨ b.items = []) : b.tail = (none, b) := by
  rcases nothing with closed | empty
  · simp [tail, closed]
  · simp [tail, empty]

theorem tail_back (isOpen : b.closed = false) (queue : b.items = front ++ [item]) :
    b.tail = (some item, { b with items := front }.note (.tailed item)) := by
  simp [tail, isOpen, queue]

end Ends

/-! ### Calls -/

/-- What a call does, be it from outside or during a delivery. -/
structure Responds (b : Backlog α σ) (events : List (BacklogEvent α)) (b' : Backlog α σ) : Prop
    extends Keeps b b' where
  history : b'.history = b.history ++ events
  enters : Enters b events b'
  /-- Only the task and quit hand items over. -/
  handings : Books.handings events = []
  takings : Books.takings events = []
  /-- A closed backlog gives items away only when it is cleared. -/
  shut : b.closed = true → Gives (· = .cleared) b events b'

theorem Responds.refl (b : Backlog α σ) : Responds b [] b :=
  ⟨.refl b, by simp, .refl rfl, rfl, rfl, fun _ => .refl b⟩

theorem Responds.trans (h : Responds b events b') (k : Responds b' more b'') :
    Responds b (events ++ more) b'' where
  toKeeps := h.toKeeps.trans k.toKeeps
  history := by rw [k.history, h.history, List.append_assoc]
  enters := h.enters.trans k.enters
  handings := by rw [Books.handings_append, h.handings, k.handings, List.append_nil]
  takings := by rw [Books.takings_append, h.takings, k.takings, List.append_nil]
  shut closed := (h.shut closed).trans (k.shut (h.closed closed))

/-- An open backlog with one event, and other items. -/
theorem Responds.ofOpen (isOpen : b.closed = false) {items : List α} {event : BacklogEvent α}
    (enters : Enters b [event] ({ b with items := items }.note event))
    (silent : Books.handings [event] = []) (untaken : Books.takings [event] = []) :
    Responds b [event] ({ b with items := items }.note event) where
  toKeeps := ⟨rfl, rfl, id, id⟩
  history := history_note ..
  enters := enters
  handings := silent
  takings := untaken
  shut closed := by simp [isOpen] at closed

theorem push_responds (b : Backlog α σ) (item : α) :
    ∃ events, Responds b events (b.push item).2 := by
  cases isOpen : b.closed with
  | true => exact ⟨[], by rw [push_closed isOpen]; exact .refl b⟩
  | false =>
    rw [push_open isOpen]
    refine ⟨_, .ofOpen isOpen ?_ rfl rfl⟩
    intro books items
    exact ⟨_, .single (.push books item), by rw [Books.items_accept_true, items]; rfl⟩

theorem join_responds (b : Backlog α σ) (item : α) :
    ∃ events, Responds b events (b.join item).2 := by
  cases isOpen : b.closed with
  | true => exact ⟨[], by rw [join_closed isOpen]; exact .refl b⟩
  | false =>
    rw [join_open isOpen]
    refine ⟨_, .ofOpen isOpen ?_ rfl rfl⟩
    intro books items
    exact ⟨_, .single (.join books item), by rw [Books.items_accept_false, items]; rfl⟩

theorem pop_responds (b : Backlog α σ) : ∃ events, Responds b events b.pop.2 := by
  cases isOpen : b.closed with
  | true => exact ⟨[], by rw [pop_nothing (.inl isOpen)]; exact .refl b⟩
  | false =>
    cases queue : b.items with
    | nil => exact ⟨[], by rw [pop_nothing (.inr queue)]; exact .refl b⟩
    | cons item rest =>
      rw [pop_head isOpen queue]
      refine ⟨_, .ofOpen isOpen ?_ rfl rfl⟩
      intro books items
      obtain ⟨books', entry, left⟩ := (Books.Entry.at_head (items.trans queue)).2
      exact ⟨books', .single entry, left⟩

theorem tail_responds (b : Backlog α σ) : ∃ events, Responds b events b.tail.2 := by
  cases isOpen : b.closed with
  | true => exact ⟨[], by rw [tail_nothing (.inl isOpen)]; exact .refl b⟩
  | false =>
    rcases List.eq_nil_or_concat b.items with empty | ⟨front, item, queue⟩
    · exact ⟨[], by rw [tail_nothing (.inr empty)]; exact .refl b⟩
    · rw [List.concat_eq_append] at queue
      rw [tail_back isOpen queue]
      refine ⟨_, .ofOpen isOpen ?_ rfl rfl⟩
      intro books items
      obtain ⟨books', entry, left⟩ := Books.Entry.at_tail (items.trans queue)
      exact ⟨books', .single entry, left⟩

theorem clear_responds (b : Backlog α σ) : Responds b [.cleared b.items] b.clear where
  toKeeps := ⟨rfl, rfl, id, id⟩
  history := by simp [clear, history, note]
  enters books items := by
    have entry := Books.Entry.clear books
    rw [items] at entry
    exact ⟨_, .single entry, rfl⟩
  handings := rfl
  takings := by simp [Books.takings, Books.exits]
  shut _ := ⟨rfl, by simp [clear, note, Books.exits, Function.comp_def], by simp [Books.exits]⟩

theorem close_responds (b : Backlog α σ) : ∃ events, Responds b events b.close.2 := by
  unfold close
  cases isOpen : b.closed with
  | true => exact ⟨[], by simpa using .refl b⟩
  | false =>
    exact ⟨[.cancelled], ⟨rfl, rfl, id, fun _ => rfl⟩, by simp [history, note], .aside rfl rfl, rfl,
      rfl, by simp [isOpen]⟩

theorem drop_responds (b : Backlog α σ) : Responds b [.cancelled] b.drop where
  toKeeps := ⟨rfl, rfl, fun _ => rfl, id⟩
  history := by simp [drop, history, note]
  enters := .aside rfl rfl
  handings := rfl
  takings := rfl
  shut _ := ⟨rfl, rfl, by simp [Books.exits]⟩

theorem perform_responds (question : BacklogAsk α) (b : Backlog α σ) :
    ∃ events, Responds b events (perform question b).2 := by
  unfold perform
  split
  · exact ⟨[], .refl b⟩
  · cases question with
    | push item => exact b.push_responds item
    | join item => exact b.join_responds item
    | pop => exact b.pop_responds
    | tail => exact b.tail_responds
    | clear => exact ⟨_, b.clear_responds⟩
    | close => exact b.close_responds
    | drop => exact ⟨_, b.drop_responds⟩

/-- Up to each moment of a delivery there were some calls. -/
theorem passes_responds {result : Type} {call : Call (BacklogAsk α) (BacklogReply α) result}
    (pass : b' ∈ call.passes perform b) : ∃ events, Responds b events b' := by
  induction call generalizing b with
  | done =>
    obtain rfl := List.mem_singleton.mp pass
    exact ⟨[], .refl _⟩
  | ask question resume ih =>
    rcases List.mem_cons.mp pass with rfl | pass
    · exact ⟨[], .refl _⟩
    · obtain ⟨events, first⟩ := perform_responds question b
      obtain ⟨more, later⟩ := ih _ pass
      exact ⟨events ++ more, first.trans later⟩

end Backlog
end Lanes
