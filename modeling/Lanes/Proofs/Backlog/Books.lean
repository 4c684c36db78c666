import Lanes.Backlog
import Lanes.Proofs.Runs

/-!
# The books of a list with two ends

Items come in at the tail or at the head, and leave at either end or all together. Two items may be
equal, so the books put each accepted one on a slip with a number of its own. They record which
slips were accepted, which are still queued, which have left, and how. From the rules by which a
single event changes the books it follows that each slip is in one place, and that what came in at
the tail keeps its order as long as it leaves at the head.
-/
namespace Lanes

/-- An accepted item. -/
structure Slip (α : Type) where
  number : Nat
  item : α
  /-- Whether it came in at the tail. -/
  atTail : Bool

/-- How an item leaves. -/
inductive Exit where
  | delivered
  | popped
  | tailed
  | cleared
  | discarded
  deriving DecidableEq

/-- Whether single items leave in this way at the head. -/
def Exit.atHead : Exit → Bool
  | delivered | popped => true
  | tailed | cleared | discarded => false

namespace BacklogEvent
variable {α : Type}

/-- The item that the event shows coming in, and whether it does so at the tail. -/
@[simp] def entrance? : BacklogEvent α → Option (α × Bool)
  | pushed item => some (item, true)
  | joined item => some (item, false)
  | _ => none

/-- The items that the event shows leaving. -/
@[simp] def exits : BacklogEvent α → List (α × Exit)
  | taken item => [(item, .delivered)]
  | popped item => [(item, .popped)]
  | tailed item => [(item, .tailed)]
  | cleared items => items.map (·, .cleared)
  | discarded items => items.map (·, .discarded)
  | _ => []

/-- Whether the event shows items coming in or leaving. -/
def moves : BacklogEvent α → Bool
  | pushed _ | joined _ | taken _ | popped _ | tailed _ | cleared _ | discarded _ => true
  | _ => false

end BacklogEvent

/-- What became of the items that were accepted, in order of acceptance and of leaving; the head of
the queue comes first. -/
structure Books (α : Type) where
  accepted : List (Slip α)
  queued : List (Slip α)
  left : List (Slip α × Exit)

namespace Books
variable {α : Type}

def empty : Books α := ⟨[], [], []⟩

/-- The items that are queued. -/
def items (books : Books α) : List α := books.queued.map Slip.item

/-- The books once an item has come in. -/
def accept (books : Books α) (item : α) (atTail : Bool) : Books α :=
  let slip := ⟨books.accepted.length, item, atTail⟩
  { books with
    accepted := books.accepted ++ [slip]
    queued := if atTail then books.queued ++ [slip] else slip :: books.queued }

/-- The books once some slips have left and others stay. -/
def release (books : Books α) (gone : List (Slip α)) (exit : Exit) (stays : List (Slip α)) :
    Books α :=
  { books with queued := stays, left := books.left ++ gone.map (·, exit) }

@[simp] theorem items_accept_true (books : Books α) (item : α) :
    (books.accept item true).items = books.items ++ [item] := by
  simp [items, accept]

@[simp] theorem items_accept_false (books : Books α) (item : α) :
    (books.accept item false).items = item :: books.items := by
  simp [items, accept]

@[simp] theorem items_release (books : Books α) (gone : List (Slip α)) (exit : Exit)
    (stays : List (Slip α)) : (books.release gone exit stays).items = stays.map Slip.item := rfl

/-- What an event enters in the books. -/
inductive Entry : Books α → List (BacklogEvent α) → Books α → Prop
  | push (books : Books α) (item : α) : Entry books [.pushed item] (books.accept item true)
  | join (books : Books α) (item : α) : Entry books [.joined item] (books.accept item false)
  | take {books : Books α} {slip : Slip α} {rest : List (Slip α)}
      (head : books.queued = slip :: rest) :
      Entry books [.taken slip.item] (books.release [slip] .delivered rest)
  | pop {books : Books α} {slip : Slip α} {rest : List (Slip α)}
      (head : books.queued = slip :: rest) :
      Entry books [.popped slip.item] (books.release [slip] .popped rest)
  | tail {books : Books α} {slip : Slip α} {front : List (Slip α)}
      (back : books.queued = front ++ [slip]) :
      Entry books [.tailed slip.item] (books.release [slip] .tailed front)
  | clear (books : Books α) :
      Entry books [.cleared books.items] (books.release books.queued .cleared [])
  | discard (books : Books α) :
      Entry books [.discarded books.items] (books.release books.queued .discarded [])
  | aside (books : Books α) {event : BacklogEvent α} (still : event.moves = false) :
      Entry books [event] books

/-- The entries of several events. -/
abbrev Entries : Books α → List (BacklogEvent α) → Books α → Prop := Runs Entry

section Ends
variable {books : Books α} {item : α}

/-- The item at the head can be taken, or popped. -/
theorem Entry.at_head {rest : List α} (queue : books.items = item :: rest) :
    (∃ books', Entry books [.taken item] books' ∧ books'.items = rest) ∧
      ∃ books', Entry books [.popped item] books' ∧ books'.items = rest := by
  obtain ⟨slip, stays, queued, rfl, rfl⟩ := List.map_eq_cons_iff.mp queue
  exact ⟨⟨_, .take queued, rfl⟩, _, .pop queued, rfl⟩

theorem Entry.at_tail {front : List α} (queue : books.items = front ++ [item]) :
    ∃ books', Entry books [.tailed item] books' ∧ books'.items = front := by
  obtain ⟨stays, back, queued, rfl, last⟩ := List.map_eq_append_iff.mp queue
  obtain ⟨slip, none, rfl, rfl, empty⟩ := List.map_eq_cons_iff.mp last
  obtain rfl := List.map_eq_nil_iff.mp empty
  exact ⟨_, .tail queued, rfl⟩

end Ends

/-! ### Balanced books -/

/-- The slips that came in at the tail: those that have left at the head, in this order, and then
those that are queued. -/
def headward (books : Books α) : List (Slip α) :=
  ((books.left.filter (·.2.atHead)).map Prod.fst ++ books.queued).filter Slip.atTail

structure Balanced (books : Books α) : Prop where
  numbers : books.accepted.map Slip.number = List.range books.accepted.length
  /-- Each accepted slip is in one place: it is queued, or it has left once. -/
  places : (books.queued ++ books.left.map Prod.fst).Perm books.accepted
  /-- What came in at the tail leaves the head in this order. -/
  ordered : books.headward.Pairwise (·.number < ·.number)

variable {books books' : Books α} {events more : List (BacklogEvent α)}

theorem Balanced.empty : (empty : Books α).Balanced :=
  ⟨rfl, .refl _, .nil⟩

theorem Balanced.number_lt (balanced : books.Balanced) {slip : Slip α}
    (mem : slip ∈ books.headward) : slip.number < books.accepted.length := by
  have known : slip ∈ books.accepted := by
    refine balanced.places.subset ?_
    rcases List.mem_append.mp (List.mem_filter.mp mem).1 with gone | waits
    · obtain ⟨⟨slip, exit⟩, out, rfl⟩ := List.mem_map.mp gone
      exact List.mem_append_right _ (List.mem_map_of_mem (List.mem_filter.mp out).1)
    · exact List.mem_append_left _ waits
  have listed := List.mem_map_of_mem (f := Slip.number) known
  rw [balanced.numbers] at listed
  exact List.mem_range.mp listed

theorem Balanced.accept (balanced : books.Balanced) (item : α) (atTail : Bool) :
    (books.accept item atTail).Balanced where
  numbers := by simp [Books.accept, balanced.numbers, List.range_succ]
  places := by
    have grown := balanced.places.append_right [⟨books.accepted.length, item, atTail⟩]
    refine List.Perm.trans ?_ grown
    cases atTail with
    | true =>
      simp only [Books.accept, if_true, List.append_assoc]
      exact List.perm_append_comm.append_left _
    | false =>
      simp only [Books.accept, Bool.false_eq_true, if_false]
      exact (List.perm_append_singleton ..).symm
  ordered := by
    cases atTail with
    | true =>
      have behind : (books.accept item true).headward =
          books.headward ++ [⟨books.accepted.length, item, true⟩] := by
        simp [headward, Books.accept]
      -- The new slip has a larger number than all the others.
      rw [behind, List.pairwise_append]
      refine ⟨balanced.ordered, List.pairwise_singleton .., ?_⟩
      intro earlier mem latest is
      obtain rfl := List.mem_singleton.mp is
      exact balanced.number_lt mem
    | false =>
      have same : (books.accept item false).headward = books.headward := by
        simp [headward, Books.accept]
      rw [same]
      exact balanced.ordered

theorem Balanced.release (balanced : books.Balanced) {gone stays : List (Slip α)} {exit : Exit}
    (split : books.queued.Perm (gone ++ stays))
    (ordered : (books.release gone exit stays).headward.Sublist books.headward) :
    (books.release gone exit stays).Balanced where
  numbers := balanced.numbers
  places := by
    have moved : (stays ++ (books.left.map Prod.fst ++ gone)).Perm
        (books.queued ++ books.left.map Prod.fst) := by
      refine List.Perm.symm ((split.append_right _).trans ?_)
      rw [← List.append_assoc, List.append_assoc gone]
      exact List.perm_append_comm.trans (by simp)
    simpa [Books.release, Function.comp_def] using moved.trans balanced.places
  ordered := balanced.ordered.sublist ordered

/-- Slips that leave elsewhere than at the head leave the others in order. -/
theorem headward_release {gone stays : List (Slip α)} {exit : Exit} (away : exit.atHead = false)
    (sub : stays.Sublist books.queued) :
    (books.release gone exit stays).headward.Sublist books.headward := by
  have none : (gone.map (·, exit)).filter (·.2.atHead) = [] := by
    rw [List.filter_eq_nil_iff]
    simp [away]
  have same : (books.release gone exit stays).left.filter (·.2.atHead) =
      books.left.filter (·.2.atHead) := by
    rw [Books.release, List.filter_append, none, List.append_nil]
  rw [headward, same]
  exact (sub.append_left _).filter _

theorem Entry.balanced (entry : Entry books events books') (balanced : books.Balanced) :
    books'.Balanced := by
  cases entry with
  | push item => exact balanced.accept item true
  | join item => exact balanced.accept item false
  | take head =>
    exact balanced.release (by rw [head]; exact .refl _)
      (by simp [headward, Books.release, head, Exit.atHead])
  | pop head =>
    exact balanced.release (by rw [head]; exact .refl _)
      (by simp [headward, Books.release, head, Exit.atHead])
  | tail back =>
    refine balanced.release (by rw [back]; exact List.perm_append_comm) (headward_release rfl ?_)
    rw [back]
    exact List.sublist_append_left ..
  | clear => exact balanced.release (by simp) (headward_release rfl (List.nil_sublist _))
  | discard => exact balanced.release (by simp) (headward_release rfl (List.nil_sublist _))
  | aside => exact balanced

theorem Entries.balanced (entries : Entries books events books') (balanced : books.Balanced) :
    books'.Balanced :=
  entries.keeps (fun entry => entry.balanced) balanced

/-! ### Books and events -/

/-- The items that events show coming in. -/
def entrances (events : List (BacklogEvent α)) : List (α × Bool) :=
  events.filterMap BacklogEvent.entrance?

/-- The items that events show leaving. -/
def exits (events : List (BacklogEvent α)) : List (α × Exit) := events.flatMap BacklogEvent.exits

@[simp] theorem entrances_append :
    entrances (events ++ more) = entrances events ++ entrances more :=
  List.filterMap_append ..

@[simp] theorem exits_append : exits (events ++ more) = exits events ++ exits more :=
  List.flatMap_append ..

/-- What moves no item shows none coming in. -/
theorem entrances_of_still {event : BacklogEvent α} (still : event.moves = false) :
    entrances [event] = [] := by
  cases event <;> simp [BacklogEvent.moves] at still <;> rfl

theorem exits_of_still {event : BacklogEvent α} (still : event.moves = false) :
    exits [event] = [] := by
  cases event <;> simp [BacklogEvent.moves] at still <;> rfl

/-- The books say what the events say. -/
theorem Entry.agrees (entry : Entry books events books') :
    books'.accepted.map (fun slip => (slip.item, slip.atTail)) =
        books.accepted.map (fun slip => (slip.item, slip.atTail)) ++ entrances events ∧
      books'.left.map (fun out => (out.1.item, out.2)) =
        books.left.map (fun out => (out.1.item, out.2)) ++ exits events := by
  cases entry with
  | aside still => simp [entrances_of_still still, exits_of_still still]
  | _ => simp [entrances, exits, Books.accept, Books.release, Books.items, Function.comp_def]

theorem Entries.agrees (entries : Entries books events books') :
    books'.accepted.map (fun slip => (slip.item, slip.atTail)) =
        books.accepted.map (fun slip => (slip.item, slip.atTail)) ++ entrances events ∧
      books'.left.map (fun out => (out.1.item, out.2)) =
        books.left.map (fun out => (out.1.item, out.2)) ++ exits events := by
  induction entries with
  | refl => simp [entrances, exits]
  | tail _ last ih =>
    obtain ⟨entered, out⟩ := last.agrees
    exact ⟨by simp [entered, ih.1], by simp [out, ih.2]⟩

/-- Nothing came in, and what has left was at the head. -/
structure Ebbs (books : Books α) (out : List (Slip α × Exit)) (books' : Books α) : Prop where
  accepted : books'.accepted = books.accepted
  left : books'.left = books.left ++ out
  queued : books.queued = out.map Prod.fst ++ books'.queued

/-- Unless events show an item coming in or leaving at the tail, the queue only ebbs. -/
theorem Entry.ebbs (entry : Entry books events books') (none : entrances events = [])
    (ways : ∀ out ∈ exits events, out.2 ≠ .tailed) :
    ∃ out, Ebbs books out books' ∧ out.map (fun gone => (gone.1.item, gone.2)) = exits events := by
  cases entry with
  | push => simp [entrances] at none
  | join => simp [entrances] at none
  | take head => exact ⟨_, ⟨rfl, rfl, by simp [Books.release, head]⟩, by simp [exits]⟩
  | pop head => exact ⟨_, ⟨rfl, rfl, by simp [Books.release, head]⟩, by simp [exits]⟩
  | tail => simp [exits] at ways
  | clear =>
    exact ⟨_, ⟨rfl, rfl, by simp [Books.release, Function.comp_def]⟩, by simp [exits, Books.items]⟩
  | discard =>
    exact ⟨_, ⟨rfl, rfl, by simp [Books.release, Function.comp_def]⟩, by simp [exits, Books.items]⟩
  | aside still => exact ⟨[], ⟨rfl, by simp, by simp⟩, (exits_of_still still).symm⟩

theorem Entries.ebbs (entries : Entries books events books') (none : entrances events = [])
    (ways : ∀ out ∈ exits events, out.2 ≠ .tailed) :
    ∃ out, Ebbs books out books' ∧ out.map (fun gone => (gone.1.item, gone.2)) = exits events := by
  induction entries with
  | refl => exact ⟨[], ⟨rfl, by simp, by simp⟩, rfl⟩
  | tail _ last ih =>
    simp only [entrances_append, List.append_eq_nil_iff, exits_append, List.mem_append] at none ways
    obtain ⟨out, h, same⟩ := ih none.1 fun _ mem => ways _ (.inl mem)
    obtain ⟨more, k, same'⟩ := last.ebbs none.2 fun _ mem => ways _ (.inr mem)
    refine ⟨out ++ more, ⟨k.accepted.trans h.accepted, ?_, ?_⟩, by simp [same, same']⟩
    · rw [k.left, h.left, List.append_assoc]
    · rw [h.queued, k.queued, List.map_append, List.append_assoc]

end Books
end Lanes
