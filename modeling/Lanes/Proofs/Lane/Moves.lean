import Lanes.Pool.Shutdown
import Lanes.Proofs.Mailbox.Conservation

/-!
# Moves of a lane

A lane of a pool changes by a few moves: it accepts a request, its table or the period of its ticker
is changed from outside, it is closed in two stages, and its consumer and its ticker take their
steps. Of the handler a move remembers only which of its results it used, and of the rest of the
pool only that its influence allows the move, so that what holds of every run of moves holds of
every lane of every pool, whatever happens to the other lanes.
-/
namespace Lanes

/-- What happens to one lane. -/
inductive LaneEvent (α β : Type) where
  | mailbox (event : Mailbox.Event (LaneMessage α) (Option β))
  | ticker (event : Metronome.Event)

namespace LaneEvent
variable {α β : Type}

@[simp] def mailbox? : LaneEvent α β → Option (Mailbox.Event (LaneMessage α) (Option β))
  | mailbox event => some event
  | ticker _ => none

/-- The part of the events that concerns the mailbox. -/
def inMailbox (events : List (LaneEvent α β)) :
    List (Mailbox.Event (LaneMessage α) (Option β)) :=
  events.filterMap mailbox?

@[simp] theorem inMailbox_nil : inMailbox ([] : List (LaneEvent α β)) = [] := rfl

@[simp] theorem inMailbox_cons (event : LaneEvent α β) (events : List (LaneEvent α β)) :
    inMailbox (event :: events) = event.mailbox?.toList ++ inMailbox events := by
  cases event <;> rfl

@[simp] theorem inMailbox_append (events more : List (LaneEvent α β)) :
    inMailbox (events ++ more) = inMailbox events ++ inMailbox more :=
  List.filterMap_append ..

@[simp] theorem inMailbox_accepted (envelopes : List (Envelope (LaneMessage α))) :
    inMailbox (envelopes.map (fun e => (mailbox (.accepted e) : LaneEvent α β))) =
      envelopes.map .accepted := by
  induction envelopes with
  | nil => rfl
  | cons envelope rest ih => simp [ih]

end LaneEvent

/-! ### Results of callbacks -/

/-- A value with which a call can end, given suitable answers to what it asks. -/
inductive Call.Yields {ask answer result : Type} : Call ask answer result → result → Prop
  | done (value : result) : Yields (.done value) value
  | ask (question : ask) {resume : answer → Call ask answer result} (reply : answer)
      {value : result} (h : Yields (resume reply) value) : Yields (.ask question resume) value

theorem Call.yields_run {ask answer result world : Type} (perform : ask → world → answer × world)
    (call : Call ask answer result) (w : world) : call.Yields (call.run perform w).1 := by
  induction call generalizing w with
  | done value => exact .done value
  | ask question resume ih => exact .ask question _ (ih _ _)

/-- A result of the handler for a message, and the table that it leaves. -/
inductive Handler.Handles {α β γ σ : Type} (h : Handler α β γ σ) (id : LaneId) (table : Table γ) :
    LaneMessage α → Outcome (Option β) → Table γ → Prop
  | request {payload : α} {now : Moment} {before after : σ} {outcome : Outcome β}
      {table' : Table γ}
      (yields : (h.process id now payload table before).Yields (outcome, table', after)) :
      Handles h id table (.request payload) (outcome.map some) table'
  | tick (now : Moment) (before : σ) :
      Handles h id table .tick ((h.onTick id now table before).1.map (fun _ => none))
        (h.onTick id now table before).2.1

/-- What a call may ask, given suitable answers to what it asked before. -/
inductive Call.Asks {ask answer result : Type} : Call ask answer result → ask → Prop
  | now (question : ask) (resume : answer → Call ask answer result) :
      Asks (.ask question resume) question
  | later (question : ask) {resume : answer → Call ask answer result} (reply : answer)
      {next : ask} (h : Asks (resume reply) next) : Asks (.ask question resume) next

/-- A request that the handler may push to a lane while it handles another one. -/
def Handler.Forwards {α β γ σ : Type} (h : Handler α β γ σ) (request : α) : Prop :=
  ∃ id now payload table memory forward,
    (h.process id now payload table memory).Asks forward ∧ forward.request = request

/-! ### Moves -/

/-- What reaches lanes from outside: changes of their tables and requests, and whether they are told
to stop and their hosts may go down. -/
structure Influence (α γ : Type) where
  edits : Table γ → Table γ → Prop
  sends : α → Prop
  stops : Prop
  aborts : Prop

def Influence.any {α γ : Type} : Influence α γ := ⟨fun _ _ => True, fun _ => True, True, True⟩

/-- The hosts stay up. -/
def Influence.hosted {α γ : Type} : Influence α γ := ⟨fun _ _ => True, fun _ => True, True, False⟩

/-- The hosts stay up, and no lane is told to stop. -/
def Influence.unstopped {α γ : Type} : Influence α γ :=
  ⟨fun _ _ => True, fun _ => True, False, False⟩

namespace Lane
variable {α β γ σ : Type}

/-- What a beat leaves in the history. -/
def beatEvents (lane : Lane α β γ) : List (LaneEvent α β) :=
  lane.beat.2.1.toList.map (fun envelope => .mailbox (.accepted envelope)) ++
    [.ticker (.fired lane.beat.1)]

/-- What the first beat leaves in front of it. -/
def startEvents (metronome : Metronome) : List (LaneEvent α β) :=
  if metronome.phase = .spawned then [.ticker (.started metronome.period)] else []

@[simp] theorem inMailbox_beatEvents (lane : Lane α β γ) :
    LaneEvent.inMailbox lane.beatEvents = lane.beat.2.1.toList.map .accepted := by
  simp [beatEvents]

@[simp] theorem inMailbox_startEvents (metronome : Metronome) :
    LaneEvent.inMailbox (startEvents metronome : List (LaneEvent α β)) = [] := by
  unfold startEvents
  split <;> rfl

/-- One thing that happens to a lane. -/
inductive Move (h : Handler α β γ σ) (outer : Influence α γ) :
    Lane α β γ → List (LaneEvent α β) → Lane α β γ → Prop
  | accept {lane : Lane α β γ} {request : α} {wantsReply : Bool}
      {envelope : Envelope (LaneMessage α)} {mailbox : Mailbox (LaneMessage α) (Option β)}
      (sent : outer.sends request)
      (ok : lane.mailbox.accept? (.request request) wantsReply = .ok (envelope, mailbox)) :
      Move h outer lane [.mailbox (.accepted envelope)] { lane with mailbox }
  | setTable {lane : Lane α β γ} {table : Table γ} (edited : outer.edits lane.table table) :
      Move h outer lane [] { lane with table }
  | retime {lane lane' : Lane α β γ} {seconds : Binary64} (ok : lane.retime seconds = .ok lane') :
      Move h outer lane [] lane'
  | closeTicker {lane : Lane α β γ} {metronome closed : Metronome}
      (told : outer.stops) (has : lane.metronome = some metronome)
      (ok : metronome.close? = .ok closed) :
      Move h outer lane [.ticker .cancelled] { lane with metronome := some closed }
  | close {lane : Lane α β γ} {mailbox : Mailbox (LaneMessage α) (Option β)}
      (told : outer.stops) (ended : lane.tickerEnded = true)
      (ok : lane.mailbox.close? = .ok mailbox) :
      Move h outer lane [.mailbox .closed] { lane with mailbox }
  | orphan {lane : Lane α β γ} (gone : lane.dropped = true) (ended : lane.tickerEnded = true) :
      Move h outer lane [.mailbox .orphaned] { lane with mailbox := lane.mailbox.orphan }
  | start {lane : Lane α β γ} (turn : lane.mailbox.turn = .start) :
      Move h outer lane [.mailbox .started] { lane with mailbox := lane.mailbox.enter .receiving }
  | drain {lane : Lane α β γ} (turn : lane.mailbox.turn = .drain) :
      Move h outer lane [.mailbox (.draining lane.mailbox.size)]
        { lane with mailbox := lane.mailbox.enter .draining }
  | dispatch {lane : Lane α β γ} {envelope : Envelope (LaneMessage α)}
      {during : List (Envelope (LaneMessage α))} {mailbox : Mailbox (LaneMessage α) (Option β)}
      {outcome : Outcome (Option β)} {table : Table γ}
      (turn : lane.mailbox.turn = .dispatch envelope)
      (meanwhile : Mailbox.Intake lane.mailbox.take during mailbox)
      (requests : ∀ e ∈ during, ∃ request, outer.sends request ∧ e.payload = .request request)
      (handled : h.Handles lane.id lane.table envelope.payload outcome table) :
      Move h outer lane
        (during.map (fun e => .mailbox (.accepted e)) ++
          [.mailbox (.dispatched envelope (some outcome))])
        { lane.take envelope.payload with
          mailbox := mailbox.answer envelope (Mailbox.verdict (some outcome))
          table }
  | finish {lane : Lane α β γ} (outcome : Outcome Unit) (turn : lane.mailbox.turn = .finish) :
      Move h outer lane [.mailbox (.farewell outcome), .mailbox .stopped]
        { lane with mailbox := lane.mailbox.enter .stopped }
  | beat {lane : Lane α β γ} {metronome : Metronome} (now : Moment)
      (has : lane.metronome = some metronome) (due : metronome.due now = true)
      (goes : metronome.cancelled = false) :
      Move h outer lane
        (startEvents metronome ++ lane.beatEvents ++
          [.ticker (.resting (now.after metronome.period))])
        { lane.beat.2.2 with metronome := some (metronome.rest now) }
  | lastBeat {lane : Lane α β γ} {metronome : Metronome} (now : Moment)
      (has : lane.metronome = some metronome) (due : metronome.due now = true)
      (ends : metronome.cancelled = true) :
      Move h outer lane (startEvents metronome ++ lane.beatEvents ++ [.ticker .stopped])
        { lane.beat.2.2 with metronome := some metronome.stop }
  | abortTicker {lane : Lane α β γ} {metronome : Metronome} (down : outer.aborts)
      (has : lane.metronome = some metronome) (running : metronome.phase.ended = false) :
      Move h outer lane [.ticker .aborted] { lane with metronome := some metronome.abort }
  | abort {lane : Lane α β γ} (down : outer.aborts) (running : lane.mailbox.phase.ended = false) :
      Move h outer lane [.mailbox .aborted] { lane with mailbox := lane.mailbox.abort }
  | findTicker (lane : Lane α β γ) : Move h outer lane [.ticker .foundAborted] lane
  | find {lane : Lane α β γ} (aborted : lane.mailbox.phase = .aborted) :
      Move h outer lane [.mailbox .foundAborted] lane

/-- Any number of moves, with all their events. -/
abbrev Moves (h : Handler α β γ σ) (outer : Influence α γ) :
    Lane α β γ → List (LaneEvent α β) → Lane α β γ → Prop :=
  Runs (Move h outer)

/-! ### Beats -/

/-- A beat finds its tick still waiting, adds one, or is refused. -/
theorem beat_cases (lane : Lane α β γ) :
    (lane.tickPending = true ∧ lane.beat = (.returned (), none, lane)) ∨
    (lane.tickPending = false ∧ ∃ envelope mailbox,
      lane.mailbox.accept? .tick false = .ok (envelope, mailbox) ∧
      lane.beat = (.returned (), some envelope, { lane with mailbox, tickPending := true })) ∨
    (lane.tickPending = false ∧ lane.mailbox.refusal = some .alreadyClosed ∧
      lane.beat = (.returned (), none, lane)) ∨
    (lane.tickPending = false ∧ lane.mailbox.refusal = some (.queueFull lane.mailbox.capacity) ∧
      lane.beat = (.failed (.queueFull lane.mailbox.capacity), none, lane)) := by
  unfold beat
  cases pending : lane.tickPending with
  | true => exact .inl ⟨rfl, rfl⟩
  | false =>
    cases accepted : lane.mailbox.accept? .tick false with
    | ok pair => exact .inr (.inl ⟨rfl, pair.1, pair.2, rfl, by simp⟩)
    | error cause =>
      have refused := Mailbox.accept?_eq_error_iff.mp accepted
      rcases Mailbox.refusal_cases refused with rfl | rfl
      · exact .inr (.inr (.inl ⟨rfl, refused, by simp⟩))
      · exact .inr (.inr (.inr ⟨rfl, refused, by simp⟩))

/-- A beat changes the mailbox and the mark of a waiting tick, nothing else. -/
theorem beat_keeps (lane : Lane α β γ) :
    lane.beat.2.2.id = lane.id ∧ lane.beat.2.2.metronome = lane.metronome ∧
      lane.beat.2.2.table = lane.table ∧ lane.beat.2.2.dropped = lane.dropped := by
  rcases lane.beat_cases with ⟨-, eq⟩ | ⟨-, envelope, mailbox, -, eq⟩ | ⟨-, -, eq⟩ | ⟨-, -, eq⟩ <;>
    simp [eq]

theorem beat_mailbox (lane : Lane α β γ) :
    Mailbox.Intake lane.mailbox lane.beat.2.1.toList lane.beat.2.2.mailbox := by
  rcases lane.beat_cases with ⟨-, eq⟩ | ⟨-, envelope, mailbox, ok, eq⟩ | ⟨-, -, eq⟩ | ⟨-, -, eq⟩
  · simpa [eq] using Mailbox.Intake.none _
  · simpa [eq] using Mailbox.Intake.single ok
  · simpa [eq] using Mailbox.Intake.none _
  · simpa [eq] using Mailbox.Intake.none _

/-! ### What moves do to the mailbox -/

@[simp] theorem take_mailbox (lane : Lane α β γ) (message : LaneMessage α) :
    (lane.take message).mailbox = lane.mailbox.take := by
  cases message <;> rfl

theorem retime_ok {lane lane' : Lane α β γ} {seconds : Binary64}
    (ok : lane.retime seconds = .ok lane') :
    ∃ metronome retimed, lane.metronome = some metronome ∧
      metronome.retime seconds = .ok retimed ∧
      lane' = { lane with metronome := some retimed } := by
  unfold retime at ok
  cases has : lane.metronome with
  | none => simp [has] at ok
  | some metronome =>
    cases told : metronome.retime seconds with
    | error => simp [has, told, Except.map] at ok
    | ok retimed =>
      simp only [has, told, Except.map, Except.ok.injEq] at ok
      exact ⟨metronome, retimed, rfl, told, ok.symm⟩

theorem retime_eq {lane lane' : Lane α β γ} {seconds : Binary64}
    (ok : lane.retime seconds = .ok lane') :
    ∃ metronome period, lane.metronome = some metronome ∧
      lane' = { lane with metronome := some { metronome with period } } := by
  obtain ⟨metronome, retimed, has, told, rfl⟩ := retime_ok ok
  obtain ⟨period, -, rfl⟩ := Metronome.retime_ok told
  exact ⟨metronome, period, has, rfl⟩

variable {h : Handler α β γ σ} {outer : Influence α γ} {lane lane' : Lane α β γ}
  {events : List (LaneEvent α β)}

theorem Move.mailbox (m : Move h outer lane events lane') :
    Mailbox.Moves lane.mailbox (LaneEvent.inMailbox events) lane'.mailbox := by
  have beaten (lane : Lane α β γ) (metronome : Metronome) (event : Metronome.Event) :
      Mailbox.Moves lane.mailbox
        (LaneEvent.inMailbox (startEvents metronome ++ lane.beatEvents ++ [.ticker event]))
        lane.beat.2.2.mailbox := by
    simpa using lane.beat_mailbox.sendings.moves
  cases m with
  | accept _ ok => exact .single (.accept ok)
  | setTable => exact .refl _
  | retime ok =>
    obtain ⟨metronome, period, -, rfl⟩ := retime_eq ok
    exact .refl _
  | closeTicker => exact .refl _
  | close _ _ ok => exact .single (.close ok)
  | orphan => exact .single (.orphan _)
  | start turn => exact .single (.consume (.start turn))
  | drain turn => exact .single (.consume (.drain turn))
  | @dispatch envelope during mailbox outcome table turn meanwhile _ _ =>
    have step := Mailbox.Consumption.dispatch (some outcome) turn meanwhile.sendings
    rw [LaneEvent.inMailbox_append, LaneEvent.inMailbox_accepted]
    exact .single (.consume step)
  | finish outcome turn => exact .single (.consume (.finish (some outcome) turn))
  | beat => exact beaten _ _ _
  | lastBeat => exact beaten _ _ _
  | abortTicker => exact .refl _
  | abort _ running => exact .single (.abort running)
  | findTicker => exact .refl _
  | find aborted => exact .single (.find aborted)

theorem Moves.mailbox (m : Moves h outer lane events lane') :
    Mailbox.Moves lane.mailbox (LaneEvent.inMailbox events) lane'.mailbox := by
  induction m with
  | refl => exact .refl _
  | tail _ last ih =>
    rw [LaneEvent.inMailbox_append]
    exact ih.trans last.mailbox

theorem Move.id (m : Move h outer lane events lane') : lane'.id = lane.id := by
  cases m with
  | retime ok =>
    obtain ⟨metronome, period, -, rfl⟩ := retime_eq ok
    rfl
  | @dispatch envelope => cases envelope.payload <;> simp [take]
  | beat => exact lane.beat_keeps.1
  | lastBeat => exact lane.beat_keeps.1
  | _ => rfl

theorem Moves.id (m : Moves h outer lane events lane') : lane'.id = lane.id :=
  m.keeps (P := fun l => l.id = lane.id) (fun step same => step.id.trans same) rfl

theorem Moves.intake {mailbox : Mailbox (LaneMessage α) (Option β)}
    {envelopes : List (Envelope (LaneMessage α))}
    (intake : Mailbox.Intake lane.mailbox envelopes mailbox)
    (requests : ∀ e ∈ envelopes, ∃ request, outer.sends request ∧ e.payload = .request request) :
    Moves h outer lane (envelopes.map (fun e => .mailbox (.accepted e))) { lane with mailbox } := by
  induction intake with
  | none => exact .refl lane
  | @more m' m'' envelopes envelope payload wantsReply before last ih =>
    have earlier := ih (fun e he => requests e (by simp [he]))
    obtain ⟨request, sent, is⟩ := requests envelope (by simp)
    obtain rfl : payload = .request request := by
      obtain ⟨-, rfl, -⟩ := Mailbox.accept?_eq_ok_iff.mp last
      exact is
    have latest : Move h outer { lane with mailbox := m' } [.mailbox (.accepted envelope)]
        { lane with mailbox := m'' } := .accept sent last
    rw [List.map_append]
    exact .tail earlier latest

end Lane
end Lanes
