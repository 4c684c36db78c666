import Lanes.Proofs.Lane.Moves

/-!
# How pools evolve

Whatever happens to a pool, each of its lanes goes on by moves of its own, and the part of the
journal that concerns the lane shows the events of these moves. New lanes start fresh. The relation
`Evolves` says so; it can be composed, and every operation of a pool and every step of its tasks is
an instance of it.
-/
namespace Lanes

section Events
variable {α β : Type}

/-- The event as the lane at a place sees it, if it concerns this lane. -/
def PoolEvent.at? (place : Nat) : PoolEvent α β → Option (LaneEvent α β)
  | .mailbox k _ event => if k = place then some (.mailbox event) else none
  | .ticker k _ event => if k = place then some (.ticker event) else none
  | _ => none

@[simp] theorem PoolEvent.at?_mailbox (place k : Nat) (id : LaneId)
    (event : Mailbox.Event (LaneMessage α) (Option β)) :
    (PoolEvent.mailbox k id event).at? place = if k = place then some (.mailbox event) else none :=
  rfl

@[simp] theorem PoolEvent.at?_ticker (place k : Nat) (id : LaneId) (event : Metronome.Event) :
    (PoolEvent.ticker k id event : PoolEvent α β).at? place =
      if k = place then some (.ticker event) else none :=
  rfl

end Events

namespace Pool
variable {α β γ σ : Type}

/-- What happened to the lane at a place, the oldest first. -/
def laneEvents (p : Pool α β γ σ) (place : Nat) : List (LaneEvent α β) :=
  p.journal.reverse.filterMap (PoolEvent.at? place)

@[simp] theorem laneEvents_note (p : Pool α β γ σ) (event : PoolEvent α β) (place : Nat) :
    (p.note event).laneEvents place = p.laneEvents place ++ (event.at? place).toList := by
  cases told : event.at? place <;>
    simp [laneEvents, note, List.filterMap_append, told]

@[simp] theorem lanes_note (p : Pool α β γ σ) (event : PoolEvent α β) :
    (p.note event).lanes = p.lanes := rfl

@[simp] theorem laneEvents_updateLane (p : Pool α β γ σ) (place k : Nat)
    (f : Lane α β γ → Lane α β γ) :
    (p.updateLane place f).laneEvents k = p.laneEvents k := rfl

@[simp] theorem laneEvents_memory (p : Pool α β γ σ) (memory : σ) (k : Nat) :
    ({ p with memory } : Pool α β γ σ).laneEvents k = p.laneEvents k := rfl

theorem lane_updateLane (p : Pool α β γ σ) (place k : Nat) (f : Lane α β γ → Lane α β γ) :
    (p.updateLane place f).lanes[k]? = (p.lanes[k]?).map (if place = k then f else id) := by
  simp only [updateLane, List.getElem?_modify]
  split <;> simp

@[simp] theorem lane_updateLane_self {p : Pool α β γ σ} {place : Nat} {lane : Lane α β γ}
    (h : p.lanes[place]? = some lane) (f : Lane α β γ → Lane α β γ) :
    (p.updateLane place f).lanes[place]? = some (f lane) := by
  simp [lane_updateLane, h]

@[simp] theorem lane_updateLane_ne (p : Pool α β γ σ) {place k : Nat} (ne : place ≠ k)
    (f : Lane α β γ → Lane α β γ) : (p.updateLane place f).lanes[k]? = p.lanes[k]? := by
  simp [lane_updateLane, ne]

/-! ### What stays -/

/-- The pool routes as before. -/
structure RoutesAs (p p' : Pool α β γ σ) : Prop where
  config : p'.config = p.config
  roster : p'.roster = p.roster
  laneCount : p'.laneCount = p.laneCount
  routes : p'.routes = p.routes
  generator : p'.generator = p.generator

theorem RoutesAs.refl (p : Pool α β γ σ) : RoutesAs p p := ⟨rfl, rfl, rfl, rfl, rfl⟩

theorem RoutesAs.trans {p p' p'' : Pool α β γ σ} (h : RoutesAs p p') (k : RoutesAs p' p'') :
    RoutesAs p p'' :=
  ⟨k.config.trans h.config, k.roster.trans h.roster, k.laneCount.trans h.laneCount,
    k.routes.trans h.routes, k.generator.trans h.generator⟩

theorem RoutesAs.note (p : Pool α β γ σ) (event : PoolEvent α β) : RoutesAs p (p.note event) :=
  ⟨rfl, rfl, rfl, rfl, rfl⟩

theorem RoutesAs.updateLane (p : Pool α β γ σ) (place : Nat) (f : Lane α β γ → Lane α β γ) :
    RoutesAs p (p.updateLane place f) :=
  ⟨rfl, rfl, rfl, rfl, rfl⟩

/-- The lane at one place may have changed; the others, and the way in which requests are routed,
have not. -/
structure Touches (place : Nat) (p p' : Pool α β γ σ) : Prop where
  routes : RoutesAs p p'
  lanes : ∀ k, k ≠ place → p'.lanes[k]? = p.lanes[k]?
  laneEvents : ∀ k, k ≠ place → p'.laneEvents k = p.laneEvents k

namespace Touches
variable {place : Nat} {p p' p'' : Pool α β γ σ}

theorem refl (p : Pool α β γ σ) : Touches place p p :=
  ⟨.refl p, fun _ _ => rfl, fun _ _ => rfl⟩

theorem trans (h : Touches place p p') (k : Touches place p' p'') : Touches place p p'' :=
  ⟨h.routes.trans k.routes, fun j ne => (k.lanes j ne).trans (h.lanes j ne),
    fun j ne => (k.laneEvents j ne).trans (h.laneEvents j ne)⟩

theorem updateLane (p : Pool α β γ σ) (f : Lane α β γ → Lane α β γ) :
    Touches place p (p.updateLane place f) :=
  ⟨.updateLane p place f, fun _ ne => p.lane_updateLane_ne (Ne.symm ne) f, fun _ _ => rfl⟩

theorem note (p : Pool α β γ σ) {event : PoolEvent α β}
    (here : ∀ k, k ≠ place → event.at? k = none) : Touches place p (p.note event) :=
  ⟨.note p event, fun _ _ => rfl, fun k ne => by simp [here k ne]⟩

theorem noteMailbox (p : Pool α β γ σ) (id : LaneId)
    (event : Mailbox.Event (LaneMessage α) (Option β)) :
    Touches place p (p.note (.mailbox place id event)) :=
  note p (fun k ne => by simp [Ne.symm ne])

theorem noteTicker (p : Pool α β γ σ) (id : LaneId) (event : Metronome.Event) :
    Touches place p (p.noteTicker place id event) :=
  note p (fun k ne => by simp [Ne.symm ne])

end Touches

/-! ### Acceptance by lanes -/

/-- Some lanes have accepted requests of a kind; nothing else has happened. -/
structure Admits (sends : α → Prop) (p p' : Pool α β γ σ) : Prop where
  routes : RoutesAs p p'
  memory : p'.memory = p.memory
  lane : ∀ {k lane}, p.lanes[k]? = some lane →
    ∃ envelopes mailbox, Mailbox.Intake lane.mailbox envelopes mailbox ∧
      (∀ e ∈ envelopes, ∃ request, sends request ∧ e.payload = .request request) ∧
      p'.lanes[k]? = some { lane with mailbox } ∧
      p'.laneEvents k = p.laneEvents k ++ envelopes.map (fun e => .mailbox (.accepted e))
  absent : ∀ {k}, p.lanes[k]? = none → p'.lanes[k]? = none ∧ p'.laneEvents k = p.laneEvents k

theorem Admits.refl {sends : α → Prop} (p : Pool α β γ σ) : Admits sends p p where
  routes := .refl p
  memory := rfl
  lane {k lane} h := ⟨[], lane.mailbox, .none _, by simp, h, by simp⟩
  absent h := ⟨h, rfl⟩

theorem Admits.trans {sends : α → Prop} {p p' p'' : Pool α β γ σ} (a : Admits sends p p')
    (b : Admits sends p' p'') : Admits sends p p'' where
  routes := a.routes.trans b.routes
  memory := b.memory.trans a.memory
  lane {k lane} h := by
    obtain ⟨envelopes, mailbox, intake, requests, there, told⟩ := a.lane h
    obtain ⟨more, mailbox', intake', requests', there', told'⟩ := b.lane there
    refine ⟨envelopes ++ more, mailbox', intake.trans intake', ?_, there', ?_⟩
    · intro e he
      exact (List.mem_append.mp he).elim (requests e) (requests' e)
    · simp [told, told']
  absent h := by
    obtain ⟨gone, same⟩ := a.absent h
    obtain ⟨gone', same'⟩ := b.absent gone
    exact ⟨gone', same'.trans same⟩

theorem Admits.note {sends : α → Prop} (p : Pool α β γ σ) {event : PoolEvent α β}
    (aside : ∀ k, event.at? k = none) : Admits sends p (p.note event) where
  routes := .note p event
  memory := rfl
  lane {k lane} h := ⟨[], lane.mailbox, .none _, by simp, h, by simp [aside]⟩
  absent h := ⟨h, by simp [aside]⟩

theorem Admits.mono {sends sends' : α → Prop} {p p' : Pool α β γ σ} (a : Admits sends p p')
    (wider : ∀ request, sends request → sends' request) : Admits sends' p p' where
  routes := a.routes
  memory := a.memory
  lane at_ := by
    obtain ⟨envelopes, mailbox, intake, requests, there, told⟩ := a.lane at_
    refine ⟨envelopes, mailbox, intake, ?_, there, told⟩
    intro e he
    obtain ⟨request, sent, is⟩ := requests e he
    exact ⟨request, wider request sent, is⟩
  absent := a.absent

/-- A delivery buffers the message on the lane, or it is refused and changes nothing. -/
theorem deliver_cases {p : Pool α β γ σ} {place : Nat} {lane : Lane α β γ}
    (h : p.lanes[place]? = some lane) (message : LaneMessage α) (wantsReply : Bool) :
    (∃ envelope mailbox, lane.mailbox.accept? message wantsReply = .ok (envelope, mailbox) ∧
      p.deliver place message wantsReply = (.ok envelope.serial,
        (p.updateLane place (fun l => { l with mailbox })).note
          (.mailbox place lane.id (.accepted envelope)))) ∨
    (∃ cause, lane.mailbox.refusal = some cause ∧
      p.deliver place message wantsReply = (.error cause, p)) := by
  unfold deliver
  simp only [h]
  cases accepted : lane.mailbox.accept? message wantsReply with
  | error cause => exact .inr ⟨cause, Mailbox.accept?_eq_error_iff.mp accepted, rfl⟩
  | ok pair => exact .inl ⟨pair.1, pair.2, rfl, rfl⟩

theorem deliver_none {p : Pool α β γ σ} {place : Nat} (h : p.lanes[place]? = none)
    (message : LaneMessage α) (wantsReply : Bool) :
    p.deliver place message wantsReply = (.error (.noSuchWorker place), p) := by
  unfold deliver
  simp only [h]

theorem deliver_admits (p : Pool α β γ σ) (place : Nat) (request : α) (wantsReply : Bool) :
    Admits (· = request) p (p.deliver place (.request request) wantsReply).2 := by
  cases h : p.lanes[place]? with
  | none =>
    rw [deliver_none h]
    exact .refl p
  | some lane =>
    obtain ⟨envelope, mailbox, ok, eq⟩ | ⟨cause, -, eq⟩ :=
      deliver_cases h (.request request) wantsReply
    · rw [eq]
      refine ⟨(RoutesAs.updateLane ..).trans (.note ..), rfl, ?_, ?_⟩
      · intro k other at_
        by_cases here : place = k
        · subst here
          obtain rfl : lane = other := Option.some.inj (h.symm.trans at_)
          obtain ⟨-, rfl, -⟩ := Mailbox.accept?_eq_ok_iff.mp ok
          exact ⟨_, mailbox, .single ok, by simp, by simp [h], by simp⟩
        · exact ⟨[], other.mailbox, .none _, by simp, by simp [here, at_], by simp [here]⟩
      · intro k gone
        have here : place ≠ k := by
          rintro rfl
          simp [h] at gone
        simp [here, gone]
    · rw [eq]
      exact .refl p

theorem deliver_touches (p : Pool α β γ σ) (place : Nat) (message : LaneMessage α)
    (wantsReply : Bool) : Touches place p (p.deliver place message wantsReply).2 := by
  unfold deliver
  split
  · exact .refl p
  · next lane _ =>
    split
    · exact .refl p
    · exact (Touches.updateLane p _).trans (.noteMailbox _ lane.id _)

/-- What a delivery tells the lanes. -/
theorem deliver_told (p : Pool α β γ σ) (place : Nat) (message : LaneMessage α)
    (wantsReply : Bool) :
    (∃ serial, (p.deliver place message wantsReply).1 = .ok serial ∧
      ∀ k, (p.deliver place message wantsReply).2.laneEvents k = p.laneEvents k ++
        if place = k then [.mailbox (.accepted ⟨serial, message, wantsReply⟩)] else []) ∨
    ∃ cause, p.deliver place message wantsReply = (.error cause, p) := by
  cases at_ : p.lanes[place]? with
  | none => exact .inr ⟨_, deliver_none at_ message wantsReply⟩
  | some lane =>
    obtain ⟨envelope, mailbox, ok, eq⟩ | ⟨cause, -, eq⟩ := deliver_cases at_ message wantsReply
    · obtain ⟨-, rfl, -⟩ := Mailbox.accept?_eq_ok_iff.mp ok
      refine .inl ⟨lane.mailbox.accepted, by rw [eq], ?_⟩
      intro k
      rw [eq]
      simp only [laneEvents_note, laneEvents_updateLane, PoolEvent.at?_mailbox]
      split <;> rfl
    · exact .inr ⟨cause, eq⟩

theorem submit_snd (p : Pool α β γ σ) (place : Nat) (request : α) (wantsReply : Bool) :
    (p.submit place request wantsReply).2 =
      (p.deliver place (.request request) wantsReply).2 := by
  unfold submit
  cases told : (p.deliver place (.request request) wantsReply).1 <;> simp [told]

theorem submit_admits (p : Pool α β γ σ) (place : Nat) (request : α) (wantsReply : Bool) :
    Admits (· = request) p (p.submit place request wantsReply).2 := by
  rw [p.submit_snd]
  exact p.deliver_admits place request wantsReply

theorem push_admits (p : Pool α β γ σ) (place : Nat) (request : α) :
    Admits (· = request) p (p.push place request).2 :=
  p.deliver_admits place request false

theorem sendTo_admits (p : Pool α β γ σ) (id : LaneId) (request : α) (wantsReply : Bool) :
    Admits (· = request) p (p.sendTo id request wantsReply).2 := by
  unfold sendTo
  cases p.place? id with
  | error => exact .refl p
  | ok place => exact p.submit_admits place request wantsReply

theorem submitAll_admits (request : α) (wantsReply : Bool)
    (targets : List (ObjectId × Except Error Nat)) (p : Pool α β γ σ) :
    Admits (· = request) p (submitAll request wantsReply targets p).2 := by
  induction targets generalizing p with
  | nil => exact .refl p
  | cons entry rest ih =>
    obtain ⟨object, resolved⟩ := entry
    cases resolved with
    | error cause => exact ih p
    | ok place => exact (p.submit_admits place request wantsReply).trans (ih _)

theorem castTo_admits (request : α) (counted : Nat × Pool α β γ σ) (entry : LaneId × Nat) :
    Admits (· = request) counted.2 (castTo request counted entry).2 := by
  have pushed := counted.2.push_admits entry.2 request
  unfold castTo
  cases told : (counted.2.push entry.2 request).1 with
  | ok => simpa [told] using pushed
  | error cause =>
    simp only [told]
    exact pushed.trans (.note _ (fun _ => rfl))

theorem cast_admits (p : Pool α β γ σ) (request : α) :
    Admits (· = request) p (p.cast request).2 := by
  unfold cast
  split
  · exact .refl p
  · have folded (entries : List (LaneId × Nat)) (counted : Nat × Pool α β γ σ) :
        Admits (· = request) counted.2 (entries.foldl (castTo request) counted).2 := by
      induction entries generalizing counted with
      | nil => exact .refl _
      | cons entry rest ih => exact (castTo_admits request counted entry).trans (ih _)
    exact folded p.roster.entries (0, p)

theorem forward_admits (question : Forward α) (p : Pool α β γ σ) :
    Admits (· = question.request) p (forward question p).2 := by
  unfold forward
  cases p.place? question.lane with
  | error => exact .refl p
  | ok place => exact p.push_admits place question.request

theorem run_forward_admits {result : Type} {sends : α → Prop}
    {call : Call (Forward α) (Except Error Unit) result}
    (asked : ∀ question, call.Asks question → sends question.request) (p : Pool α β γ σ) :
    Admits sends p (call.run forward p).2 := by
  induction call generalizing p with
  | done => exact .refl p
  | ask question resume ih =>
    have first := (forward_admits question p).mono fun request same =>
      same ▸ asked question (.now question resume)
    exact first.trans (ih _ (fun next later => asked next (.later question _ later)) _)

theorem handle_admits (h : Handler α β γ σ) (now : Moment) (id : LaneId) (table : Table γ)
    (message : LaneMessage α) (p : Pool α β γ σ) :
    Admits h.Forwards p (handle h now id table message p).2 := by
  cases message with
  | request request =>
    have asked (question : Forward α)
        (asks : (h.process id now request table p.memory).Asks question) :
        h.Forwards question.request := ⟨_, _, _, _, _, question, asks, rfl⟩
    exact run_forward_admits asked p
  | tick => exact .refl p

/-- What the handler makes of a message is one of its results for it. -/
theorem handle_handles (h : Handler α β γ σ) (now : Moment) (id : LaneId) (table : Table γ)
    (message : LaneMessage α) (p : Pool α β γ σ) :
    h.Handles id table message (handle h now id table message p).1.1
      (handle h now id table message p).1.2.1 := by
  cases message with
  | request request =>
    let ran := (h.process id now request table p.memory).run forward p
    have yields : (h.process id now request table p.memory).Yields
        (ran.1.1, ran.1.2.1, ran.1.2.2) := Call.yields_run forward _ p
    exact .request yields
  | tick => exact .tick now p.memory

/-! ### Evolution -/

/-- Every lane goes on by moves of its own, of which the journal shows the events; a lane that was
not there before has started fresh. -/
structure Evolves (h : Handler α β γ σ) (outer : Influence α γ) (p p' : Pool α β γ σ) : Prop where
  config : p'.config = p.config
  lane : ∀ {k lane}, p.lanes[k]? = some lane →
    ∃ lane' events, p'.lanes[k]? = some lane' ∧ p'.laneEvents k = p.laneEvents k ++ events ∧
      Lane.Moves h outer lane events lane'
  absent : ∀ {k}, p.lanes[k]? = none →
    (p'.lanes[k]? = none ∧ p'.laneEvents k = p.laneEvents k) ∨
    ∃ id tick lane' events, p'.lanes[k]? = some lane' ∧
      p'.laneEvents k = p.laneEvents k ++ events ∧
      Lane.Moves h outer (Lane.new id p.config.capacity tick) events lane'

namespace Evolves
variable {h : Handler α β γ σ} {outer : Influence α γ} {p p' p'' : Pool α β γ σ}

theorem refl (p : Pool α β γ σ) : Evolves h outer p p where
  config := rfl
  lane {k lane} at_ := ⟨lane, [], at_, by simp, .refl _⟩
  absent gone := .inl ⟨gone, rfl⟩

theorem trans (a : Evolves h outer p p') (b : Evolves h outer p' p'') : Evolves h outer p p'' where
  config := b.config.trans a.config
  lane at_ := by
    obtain ⟨lane', events, there, told, moves⟩ := a.lane at_
    obtain ⟨lane'', more, there', told', moves'⟩ := b.lane there
    exact ⟨lane'', events ++ more, there', by simp [told, told'], moves.trans moves'⟩
  absent gone := by
    obtain ⟨gone', same⟩ | ⟨id, tick, lane', events, there, told, moves⟩ := a.absent gone
    · obtain ⟨gone'', same'⟩ | ⟨id, tick, lane', events, there, told, moves⟩ := b.absent gone'
      · exact .inl ⟨gone'', same'.trans same⟩
      · exact .inr ⟨id, tick, lane', events, there, by rw [told, same], a.config ▸ moves⟩
    · obtain ⟨lane'', more, there', told', moves'⟩ := b.lane there
      exact .inr ⟨id, tick, lane'', events ++ more, there', by simp [told, told'],
        moves.trans moves'⟩

/-- A change of the lane at one place by moves of this lane. -/
theorem of_touches {place : Nat} {lane lane' : Lane α β γ} {events : List (LaneEvent α β)}
    (touches : Touches place p p') (at_ : p.lanes[place]? = some lane)
    (there : p'.lanes[place]? = some lane')
    (told : p'.laneEvents place = p.laneEvents place ++ events)
    (moves : Lane.Moves h outer lane events lane') : Evolves h outer p p' where
  config := touches.routes.config
  lane {k other} at_' := by
    by_cases here : k = place
    · subst here
      obtain rfl : lane = other := Option.some.inj (at_.symm.trans at_')
      exact ⟨lane', events, there, told, moves⟩
    · exact ⟨other, [], by rw [touches.lanes k here, at_'],
        by rw [touches.laneEvents k here, List.append_nil], .refl _⟩
  absent {k} gone := by
    have here : k ≠ place := by
      rintro rfl
      simp [at_] at gone
    exact .inl ⟨by rw [touches.lanes k here, gone], touches.laneEvents k here⟩

/-- What concerns no lane. -/
theorem of_same (config : p'.config = p.config) (lanes : p'.lanes = p.lanes)
    (events : ∀ k, p'.laneEvents k = p.laneEvents k) : Evolves h outer p p' where
  config := config
  lane {k lane} at_ := ⟨lane, [], by rw [lanes, at_], by simp [events], .refl _⟩
  absent gone := .inl ⟨by rw [lanes, gone], events _⟩

theorem of_admits (a : Admits outer.sends p p') : Evolves h outer p p' where
  config := a.routes.config
  lane at_ := by
    obtain ⟨envelopes, mailbox, intake, requests, there, told⟩ := a.lane at_
    exact ⟨_, _, there, told, .intake intake requests⟩
  absent gone := .inl (a.absent gone)

theorem of_sent {request : α} (a : Admits (· = request) p p') (sent : outer.sends request) :
    Evolves h outer p p' :=
  .of_admits (a.mono fun _ same => same ▸ sent)

/-- A lane has come from the one at its place before, or from a new one. -/
theorem origin (e : Evolves h outer p p') {k : Nat} {lane : Lane α β γ}
    (at_ : p'.lanes[k]? = some lane) :
    ∃ first events, (p.lanes[k]? = some first ∨
        p.lanes[k]? = none ∧ ∃ id tick, first = Lane.new id p.config.capacity tick) ∧
      p'.laneEvents k = p.laneEvents k ++ events ∧ Lane.Moves h outer first events lane := by
  cases was : p.lanes[k]? with
  | some first =>
    obtain ⟨lane', events, there, told, moves⟩ := e.lane was
    obtain rfl : lane' = lane := Option.some.inj (there.symm.trans at_)
    exact ⟨first, events, .inl rfl, told, moves⟩
  | none =>
    obtain ⟨gone, -⟩ | ⟨id, tick, lane', events, there, told, moves⟩ := e.absent was
    · rw [gone] at at_
      cases at_
    · obtain rfl : lane' = lane := Option.some.inj (there.symm.trans at_)
      exact ⟨_, events, .inr ⟨rfl, id, tick, rfl⟩, told, moves⟩

theorem grows (e : Evolves h outer p p') (k : Nat) :
    ∃ events, p'.laneEvents k = p.laneEvents k ++ events := by
  cases at_ : p.lanes[k]? with
  | some lane =>
    obtain ⟨lane', events, -, told, -⟩ := e.lane at_
    exact ⟨events, told⟩
  | none =>
    obtain ⟨-, same⟩ | ⟨id, tick, lane', events, -, told, -⟩ := e.absent at_
    · exact ⟨[], by rw [same, List.append_nil]⟩
    · exact ⟨events, told⟩

end Evolves

/-! ### Steps of the consumers -/

section Consumers
variable {h : Handler α β γ σ} {outer : Influence α γ}

theorem enter_touches (p : Pool α β γ σ) (place : Nat) (id : LaneId) (phase : ConsumerPhase)
    (event : Mailbox.Event (LaneMessage α) (Option β)) :
    Touches place p (p.enter place id phase event) :=
  (Touches.updateLane p _).trans (.noteMailbox _ id event)

/-- Entering another phase is the move that the event tells. -/
theorem enter_evolves {p : Pool α β γ σ} {place : Nat} {lane : Lane α β γ}
    {phase : ConsumerPhase} {event : Mailbox.Event (LaneMessage α) (Option β)}
    (at_ : p.lanes[place]? = some lane)
    (move : Lane.Move h outer lane [.mailbox event]
      { lane with mailbox := lane.mailbox.enter phase }) :
    Evolves h outer p (p.enter place lane.id phase event) :=
  .of_touches (p.enter_touches place lane.id phase event) at_ (by simp [enter, at_])
    (by simp [enter]) (.single move)

theorem finish_evolves (now : Moment) {p : Pool α β γ σ} {place : Nat}
    {lane : Lane α β γ} (at_ : p.lanes[place]? = some lane) (turn : lane.mailbox.turn = .finish) :
    Evolves h outer p (p.finish h now place lane.id) := by
  have touches : Touches place p (p.finish h now place lane.id) :=
    ⟨⟨rfl, rfl, rfl, rfl, rfl⟩, fun k ne => by simp [finish, enter, Ne.symm ne],
      fun k ne => by simp [finish, enter, Ne.symm ne]⟩
  exact .of_touches touches at_ (by simp [finish, enter, at_]) (by simp [finish, enter])
    (.single (.finish (h.onQuit lane.id now p.memory).1 turn))

/-- What a dispatch does to the lane whose message is handled. -/
theorem lane_dispatch (h : Handler α β γ σ) (now : Moment) {p : Pool α β γ σ} {place : Nat}
    {lane : Lane α β γ} (envelope : Envelope (LaneMessage α))
    (at_ : p.lanes[place]? = some lane) :
    ∃ during mailbox outcome table, Mailbox.Intake lane.mailbox.take during mailbox ∧
      (∀ e ∈ during, ∃ request, h.Forwards request ∧ e.payload = .request request) ∧
      h.Handles lane.id lane.table envelope.payload outcome table ∧
      (p.dispatch h now place lane envelope).lanes[place]? =
        some { lane.take envelope.payload with
          mailbox := mailbox.answer envelope (Mailbox.verdict (some outcome))
          table } ∧
      (p.dispatch h now place lane envelope).journal.head? =
        some (.mailbox place lane.id (.dispatched envelope (some outcome))) ∧
      (p.dispatch h now place lane envelope).laneEvents place = p.laneEvents place ++
        (during.map (fun e => .mailbox (.accepted e)) ++
          [.mailbox (.dispatched envelope (some outcome))]) := by
  let taken := p.updateLane place (fun l => l.take envelope.payload)
  have results := handle_handles h now lane.id lane.table envelope.payload taken
  obtain ⟨during, mailbox, meanwhile, requests, there, told⟩ :=
    (handle_admits h now lane.id lane.table envelope.payload taken).lane
      (lane_updateLane_self at_ (fun l => l.take envelope.payload))
  rw [Lane.take_mailbox] at meanwhile
  refine ⟨during, mailbox, _, _, meanwhile, requests, results, ?_, rfl, ?_⟩
  · simp only [dispatch, lanes_note]
    exact lane_updateLane_self there _
  · simp only [dispatch, laneEvents_note, laneEvents_updateLane]
    exact (congrArg (· ++ _) told).trans (by simp [taken])

/-- A dispatch is one move of the lane whose message is handled. Other lanes may meanwhile accept
what the handler sends them. -/
theorem dispatch_evolves (forwarded : ∀ request, h.Forwards request → outer.sends request)
    (now : Moment) {p : Pool α β γ σ} {place : Nat}
    {lane : Lane α β γ} {envelope : Envelope (LaneMessage α)} (at_ : p.lanes[place]? = some lane)
    (turn : lane.mailbox.turn = .dispatch envelope) :
    Evolves h outer p (p.dispatch h now place lane envelope) := by
  let taken := p.updateLane place (fun l => l.take envelope.payload)
  have sent := (handle_admits h now lane.id lane.table envelope.payload taken).mono forwarded
  refine ⟨sent.routes.config, ?_, ?_⟩
  · intro k other at_'
    by_cases here : place = k
    · subst here
      obtain rfl : lane = other := Option.some.inj (at_.symm.trans at_')
      obtain ⟨during, mailbox, outcome, table, meanwhile, requests, results, there, -, told⟩ :=
        lane_dispatch h now envelope at_
      have allowed (e) (mem : e ∈ during) :
          ∃ request, outer.sends request ∧ e.payload = .request request := by
        obtain ⟨request, asked, is⟩ := requests e mem
        exact ⟨request, forwarded request asked, is⟩
      exact ⟨_, _, there, told, .single (.dispatch turn meanwhile allowed results)⟩
    · have still : taken.lanes[k]? = some other := by simp [taken, here, at_']
      obtain ⟨envelopes, mailbox, intake, requests, there, told⟩ := sent.lane still
      refine ⟨_, _, ?_, ?_, .intake intake requests⟩
      · simp only [dispatch, lanes_note]
        exact (lane_updateLane_ne _ here _).trans there
      · simp only [dispatch, laneEvents_note, laneEvents_updateLane, PoolEvent.at?_mailbox, here,
          if_false, Option.toList_none, List.append_nil]
        exact told
  · intro k gone
    have here : place ≠ k := by
      rintro rfl
      simp [at_] at gone
    obtain ⟨gone', same⟩ := sent.absent (k := k) (by simp [taken, here, gone])
    refine .inl ⟨?_, ?_⟩
    · simp only [dispatch, lanes_note]
      exact (lane_updateLane_ne _ here _).trans gone'
    · simp only [dispatch, laneEvents_note, laneEvents_updateLane, PoolEvent.at?_mailbox, here,
        if_false, Option.toList_none, List.append_nil]
      exact same

theorem consume_evolves (forwarded : ∀ request, h.Forwards request → outer.sends request)
    (now : Moment) (place : Nat) (p : Pool α β γ σ) :
    Evolves h outer p (p.consume h now place) := by
  unfold consume
  cases at_ : p.lanes[place]? with
  | none => exact .refl p
  | some lane =>
    simp only
    cases turn : lane.mailbox.turn with
    | wait => exact .refl p
    | start => exact enter_evolves at_ (.start turn)
    | drain => exact enter_evolves at_ (.drain turn)
    | dispatch envelope => exact dispatch_evolves forwarded now at_ turn
    | finish => exact finish_evolves now at_ turn

end Consumers
end Pool
end Lanes
