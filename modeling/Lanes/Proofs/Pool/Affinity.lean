import Lanes.Proofs.Pool.Routing

/-!
# Affinity

As long as an object is not removed and the pool does not quit, every routing with affinity picks
the same lane for it, so that its requests wait in one mailbox and are handled one after the other,
in the order in which they were accepted.
-/
namespace Lanes

section Events
variable {α β : Type}

/-- The envelope that was handed to the handler, and the place of its lane. -/
def PoolEvent.dispatch? : PoolEvent α β → Option (Nat × Envelope (LaneMessage α))
  | .mailbox place _ event => event.dispatch?.map (place, ·)
  | _ => none

end Events

namespace Pool
variable {α β γ σ : Type}

/-- What was handed to the handler so far, in order. -/
def dispatches (p : Pool α β γ σ) : List (Nat × Envelope (LaneMessage α)) :=
  p.journal.reverse.filterMap PoolEvent.dispatch?

/-- Those of the dispatches that concern one lane are the lane's own. -/
theorem dispatches_at (p : Pool α β γ σ) (place : Nat) :
    p.dispatches.filter (·.1 = place) =
      (Mailbox.dispatches (LaneEvent.inMailbox (p.laneEvents place))).map (place, ·) := by
  unfold dispatches laneEvents
  induction p.journal.reverse with
  | nil => rfl
  | cons event events ih =>
    simp only [List.filterMap_cons]
    cases event with
    | mailbox k id event =>
      by_cases here : k = place
      · subst here
        cases event <;> simp [PoolEvent.dispatch?, ih]
      · cases event <;> simp [PoolEvent.dispatch?, here, ih]
    | ticker k id event =>
      by_cases here : k = place <;> simp [PoolEvent.dispatch?, here, ih]
    | _ => simp [PoolEvent.dispatch?, PoolEvent.at?, ih]

/-- A dispatch runs the handler for the lane on the table of the lane, and the table that it leaves
is the lane's from then on. -/
theorem consume_of_dispatch {h : Handler α β γ σ} {p : Pool α β γ σ} {place : Nat}
    {lane : Lane α β γ} {envelope : Envelope (LaneMessage α)} (at_ : p.lanes[place]? = some lane)
    (turn : lane.mailbox.turn = .dispatch envelope) (now : Moment) :
    ∃ outcome, (p.consume h now place).journal.head? =
        some (.mailbox place lane.id (.dispatched envelope (some outcome))) ∧
      h.Handles lane.id lane.table envelope.payload outcome
        ((p.consume h now place).tableAt place) := by
  obtain ⟨during, mailbox, outcome, table, -, -, results, there, told, -⟩ :=
    lane_dispatch h now envelope at_
  have consumed : p.consume h now place = p.dispatch h now place lane envelope := by
    simp only [consume, at_, turn]
  rw [consumed]
  refine ⟨outcome, told, ?_⟩
  rw [tableAt, there]
  exact results

/-! ### Resolutions -/

/-- For each object routed with affinity the place of its lane. -/
def resolutions (p : Pool α β γ σ) : RunningPool.Step α γ σ → List (ObjectId × Except Error Nat)
  | .target object true => [(object, (p.target object true).1)]
  | .sendEach _ objects _ => if objects.isEmpty ∨ p.size = 0 then [] else (p.targets objects).1
  | .getObject object | .setObject object _ | .removeObject object => [(object, (p.owner object).1)]
  | _ => []

end Pool

namespace RunningPool
variable {α β γ σ : Type} {h : Handler α β γ σ}

/-- A step that routes an object with affinity leaves it pinned to the lane, if there is one. -/
theorem apply_pins {s : RunningPool α β γ σ} {step : Step α γ σ} {object : ObjectId}
    {found : Except Error Nat} (sound : s.pool.Sound) (pos : 0 < object)
    (kept : step ≠ .removeObject object) (resolved : (object, found) ∈ s.pool.resolutions step) :
    found = .error .noWorkers ∨
      ∃ place, found = .ok place ∧ (s.apply h step).pool.Pinned object place := by
  have owned (resolved : found = (s.pool.owner object).1) (later : Pool α β γ σ)
      (rerouted : Pool.Reroutes (s.pool.owner object).2 [] later) :
      found = .error .noWorkers ∨ ∃ place, found = .ok place ∧ later.Pinned object place := by
    rw [s.pool.owner_of_pos pos] at resolved rerouted
    have after := (s.pool.target_reroutes object true).sound sound
    rcases sound.target_pins pos with ⟨-, none⟩ | ⟨place, ok, pinned⟩
    · exact .inl (by rw [resolved, none])
    · exact .inr ⟨place, resolved.trans ok, rerouted.pinned after (by simp) (by simp) pinned⟩
  cases step with
  | target other affinity =>
    cases affinity with
    | false => simp [Pool.resolutions] at resolved
    | true =>
      simp only [Pool.resolutions, List.mem_singleton, Prod.mk.injEq] at resolved
      obtain ⟨rfl, rfl⟩ := resolved
      refine owned (by rw [s.pool.owner_of_pos pos]) _ ?_
      rw [s.pool.owner_of_pos pos]
      exact .refl _
  | sendEach request objects wantsReply =>
    simp only [Pool.resolutions] at resolved
    split at resolved
    · simp at resolved
    · next some =>
      obtain ⟨listed, stocked⟩ := not_or.mp some
      rcases sound.targets_pin pos resolved with none | ⟨place, ok, pinned⟩
      · exact .inl none
      · refine .inr ⟨place, ok, ?_⟩
        have after := (s.pool.targets_reroutes objects).sound sound
        simp only [apply, perform, Pool.sendEach, listed, stocked, if_false]
        exact (Pool.submitAll_reroutes ..).pinned after (by simp) (by simp) pinned
  | getObject other =>
    simp only [Pool.resolutions, List.mem_singleton, Prod.mk.injEq] at resolved
    obtain ⟨rfl, rfl⟩ := resolved
    exact owned rfl _ (.refl _)
  | setObject other value =>
    simp only [Pool.resolutions, List.mem_singleton, Prod.mk.injEq] at resolved
    obtain ⟨rfl, rfl⟩ := resolved
    refine owned rfl _ ?_
    simp only [apply, perform, Pool.setObject]
    split
    · exact .refl _
    · split
      · exact .refl _
      · exact Pool.setTable_reroutes ..
  | removeObject other =>
    simp only [Pool.resolutions, List.mem_singleton, Prod.mk.injEq] at resolved
    exact absurd (by rw [resolved.1]) kept
  | _ => simp [Pool.resolutions] at resolved

end RunningPool

/-! ### Admissions -/

namespace Pool
variable {α β γ σ : Type}

/-- What lanes accept for one object when a request is submitted to resolved targets. -/
def admitted (object : ObjectId) (request : α) (wantsReply : Bool) :
    List (ObjectId × Except Error Nat) → Pool α β γ σ → List (Nat × Envelope (LaneMessage α))
  | [], _ => []
  | (_, .error _) :: rest, p => admitted object request wantsReply rest p
  | (other, .ok place) :: rest, p =>
    let accepted := match (p.deliver place (.request request) wantsReply).1 with
      | .ok serial => [(place, ⟨serial, .request request, wantsReply⟩)]
      | .error _ => []
    (if other = object then accepted else []) ++
      admitted object request wantsReply rest (p.submit place request wantsReply).2

/-- What lanes accept in a step as requests for an object. -/
def admissions (object : ObjectId) (p : Pool α β γ σ) :
    RunningPool.Step α γ σ → List (Nat × Envelope (LaneMessage α))
  | .sendEach request objects wantsReply =>
    if objects.isEmpty ∨ p.size = 0 then []
    else admitted object request wantsReply (p.targets objects).1 (p.targets objects).2
  | _ => []

theorem mem_admitted {object : ObjectId} {request : α} {wantsReply : Bool}
    {targets : List (ObjectId × Except Error Nat)} {p : Pool α β γ σ}
    {admission : Nat × Envelope (LaneMessage α)}
    (mem : admission ∈ admitted object request wantsReply targets p) :
    (object, .ok admission.1) ∈ targets := by
  induction targets generalizing p with
  | nil => simp [admitted] at mem
  | cons entry rest ih =>
    obtain ⟨other, found⟩ := entry
    cases found with
    | error cause => exact List.mem_cons_of_mem _ (ih mem)
    | ok place =>
      simp only [admitted, List.mem_append] at mem
      rcases mem with here | later
      · split at here
        · next same =>
          split at here
          · obtain rfl := List.mem_singleton.mp here
            simp [same]
          · simp at here
        · simp at here
      · exact List.mem_cons_of_mem _ (ih later)

/-- Lanes accept requests for an object only where the object was routed. -/
theorem resolution_of_admission {object : ObjectId} {p : Pool α β γ σ}
    {step : RunningPool.Step α γ σ} {admission : Nat × Envelope (LaneMessage α)}
    (mem : admission ∈ p.admissions object step) :
    (object, .ok admission.1) ∈ p.resolutions step := by
  unfold admissions at mem
  split at mem
  · simp only [resolutions]
    split at mem
    · simp at mem
    · next some =>
      rw [if_neg some]
      exact mem_admitted mem
  · simp at mem

/-- Admissions are acceptances, in the same order. -/
theorem admitted_sublist (object : ObjectId) (request : α) (wantsReply : Bool)
    (targets : List (ObjectId × Except Error Nat)) (p : Pool α β γ σ) (place : Nat) :
    ∃ events, (submitAll request wantsReply targets p).2.laneEvents place =
        p.laneEvents place ++ events ∧
      List.Sublist (((admitted object request wantsReply targets p).filter (·.1 = place)).map
        Prod.snd) (Mailbox.acceptances (LaneEvent.inMailbox events)) := by
  induction targets generalizing p with
  | nil => exact ⟨[], by simp [submitAll], by simp [admitted]⟩
  | cons entry rest ih =>
    obtain ⟨other, found⟩ := entry
    cases found with
    | error cause => exact ih p
    | ok k =>
      obtain ⟨events, grown, sub⟩ := ih (p.submit k request wantsReply).2
      simp only [submitAll, admitted]
      rw [p.submit_snd] at grown sub ⊢
      obtain ⟨serial, ok, told⟩ | ⟨cause, eq⟩ := p.deliver_told k (.request request) wantsReply
      · rw [ok]
        refine ⟨_, by rw [grown, told, List.append_assoc], ?_⟩
        by_cases here : k = place
        · subst here
          simp only [if_true, LaneEvent.inMailbox_append, Mailbox.acceptances_append,
            List.filter_append, List.map_append]
          refine List.Sublist.append ?_ sub
          split <;> simp
        · simp only [here, if_false, List.nil_append]
          split
          · simpa [here] using sub
          · simpa using sub
      · rw [eq] at grown sub ⊢
        exact ⟨events, grown, by simpa using sub⟩

end Pool

namespace RunningPool
variable {α β γ σ : Type} {h : Handler α β γ σ}

theorem apply_admissions (s : RunningPool α β γ σ) (step : Step α γ σ) (object : ObjectId)
    (place : Nat) :
    ∃ events, (s.apply h step).pool.laneEvents place = s.pool.laneEvents place ++ events ∧
      List.Sublist (((s.pool.admissions object step).filter (·.1 = place)).map Prod.snd)
        (Mailbox.acceptances (LaneEvent.inMailbox events)) := by
  have grows : ∃ events, (s.apply h step).pool.laneEvents place =
      s.pool.laneEvents place ++ events :=
    (s.apply_evolves (h := h) step).grows place
  have others (none : s.pool.admissions object step = []) :
      ∃ events, (s.apply h step).pool.laneEvents place = s.pool.laneEvents place ++ events ∧
        List.Sublist (((s.pool.admissions object step).filter (·.1 = place)).map Prod.snd)
          (Mailbox.acceptances (LaneEvent.inMailbox events)) := by
    obtain ⟨events, grown⟩ := grows
    exact ⟨events, grown, by simp [none]⟩
  cases step with
  | sendEach request objects wantsReply =>
    by_cases refused : objects.isEmpty ∨ s.pool.size = 0
    · exact others (by simp only [Pool.admissions, refused, if_true])
    · obtain ⟨listed, stocked⟩ := not_or.mp refused
      simp only [Pool.admissions, if_false, apply, perform, Pool.sendEach, listed, stocked]
      have routed : (s.pool.targets objects).2.laneEvents place = s.pool.laneEvents place := by
        obtain ⟨routes, generator, same⟩ := s.pool.targets_same objects
        rw [same]
        rfl
      rw [← routed]
      exact Pool.admitted_sublist object request wantsReply _ _ place
  | _ => exact others rfl

/-! ### Runs without a removal of the object -/

/-- The stretch neither ends the pool nor removes the object. -/
def Retains (object : ObjectId) (steps : List (Step α γ σ)) : Prop :=
  ∀ step ∈ steps, step ≠ .quit ∧ step ≠ .removeObject object

theorem run_pinned {s : RunningPool α β γ σ} {steps : List (Step α γ σ)} {object : ObjectId}
    {place : Nat} (sound : s.pool.Sound) (kept : Retains object steps)
    (pinned : s.pool.Pinned object place) : (run h steps s).pool.Pinned object place := by
  induction steps generalizing s with
  | nil => exact pinned
  | cons step steps ih =>
    obtain ⟨here, later⟩ := List.forall_mem_cons.mp kept
    exact ih (s.apply_sound step sound) later (apply_pinned sound here.1 here.2 pinned)

/-- Whenever a run finds a lane for the object, the object stays pinned to it. -/
theorem run_pins {s : RunningPool α β γ σ} {steps : List (Step α γ σ)} {object : ObjectId}
    {found : Except Error Nat} (sound : s.pool.Sound) (pos : 0 < object)
    (kept : Retains object steps) (resolved : (object, found) ∈ along h Pool.resolutions steps s) :
    found = .error .noWorkers ∨
      ∃ place, found = .ok place ∧ (run h steps s).pool.Pinned object place := by
  induction steps generalizing s with
  | nil => simp [along, visits] at resolved
  | cons step steps ih =>
    obtain ⟨here, later⟩ := List.forall_mem_cons.mp kept
    have after := s.apply_sound (h := h) step sound
    simp only [along, visits, List.flatMap_cons, List.mem_append] at resolved
    rcases resolved with now | further
    · rcases apply_pins sound pos here.2 now with none | ⟨place, ok, pinned⟩
      · exact .inl none
      · rw [run_cons]
        exact .inr ⟨place, ok, run_pinned after later pinned⟩
    · exact ih after later further

theorem run_admissions (steps : List (Step α γ σ)) (s : RunningPool α β γ σ) (object : ObjectId)
    (place : Nat) :
    ∃ events, (run h steps s).pool.laneEvents place = s.pool.laneEvents place ++ events ∧
      List.Sublist (((along h (Pool.admissions object) steps s).filter (·.1 = place)).map Prod.snd)
        (Mailbox.acceptances (LaneEvent.inMailbox events)) := by
  induction steps generalizing s with
  | nil => exact ⟨[], by simp, by simp [along, visits]⟩
  | cons step steps ih =>
    obtain ⟨events, grown, sub⟩ := s.apply_admissions (h := h) step object place
    obtain ⟨more, grown', sub'⟩ := ih (s.apply h step)
    refine ⟨events ++ more, by rw [run_cons, grown', grown, List.append_assoc], ?_⟩
    simp only [along, visits, List.flatMap_cons, List.filter_append, List.map_append,
      LaneEvent.inMailbox_append, Mailbox.acceptances_append]
    exact sub.append sub'

/-- Elements with distinct keys are told from the others by their keys. -/
theorem filter_keys {τ κ : Type} [DecidableEq κ] {key : τ → κ} {list whole : List τ}
    (sub : List.Sublist list whole) (distinct : (whole.map key).Nodup) :
    whole.filter (fun x => key x ∈ list.map key) = list := by
  induction sub with
  | slnil => rfl
  | @cons list whole x sub ih =>
    obtain ⟨new, rest⟩ := List.nodup_cons.mp distinct
    have absent : key x ∉ list.map key := fun mem => new ((sub.map key).subset mem)
    rw [List.filter_cons_of_neg (by simpa using absent), ih rest]
  | @cons_cons list whole x sub ih =>
    obtain ⟨new, rest⟩ := List.nodup_cons.mp distinct
    have same : ∀ y ∈ whole,
        decide (key y ∈ (x :: list).map key) = decide (key y ∈ list.map key) := by
      intro y mem
      have apart : key y ≠ key x := fun eq => new (eq ▸ List.mem_map_of_mem mem)
      simp [apart]
    rw [List.filter_cons_of_pos (by simp), List.filter_congr same, ih rest]

/-- Without a removal of the object all routings with affinity find the same lane for it. -/
theorem run_resolves {s : RunningPool α β γ σ} {stretch : List (Step α γ σ)} {object : ObjectId}
    (sound : s.pool.Sound) (pos : 0 < object) (kept : Retains object stretch) :
    ∃ place, ∀ found, (object, found) ∈ along h Pool.resolutions stretch s →
      found = .ok place ∨ found = .error .noWorkers := by
  have pins (found) (resolved : (object, found) ∈ along h Pool.resolutions stretch s) :=
    run_pins sound pos kept resolved
  by_cases pinned : ∃ place, (run h stretch s).pool.Pinned object place
  · obtain ⟨place, pinned⟩ := pinned
    refine ⟨place, ?_⟩
    intro found resolved
    rcases pins found resolved with none | ⟨place', ok, pinned'⟩
    · exact .inr none
    · exact .inl (pinned'.unique pinned ▸ ok)
  · refine ⟨0, ?_⟩
    intro found resolved
    rcases pins found resolved with none | ⟨place', -, pinned'⟩
    · exact .inr none
    · exact absurd ⟨place', pinned'⟩ pinned

theorem resolution_of_admission_along {s : RunningPool α β γ σ} {earlier : List (Step α γ σ)}
    {object : ObjectId} {admission : Nat × Envelope (LaneMessage α)}
    (mem : admission ∈ along h (Pool.admissions object) earlier s) (later : List (Step α γ σ)) :
    (object, .ok admission.1) ∈ along h Pool.resolutions (earlier ++ later) s := by
  obtain ⟨visit, visited, told⟩ := List.mem_flatMap.mp mem
  refine List.mem_flatMap.mpr ⟨visit, ?_, Pool.resolution_of_admission told⟩
  rw [visits_append]
  exact List.mem_append_left _ visited

/-! ### Tickets -/

/-- The number under which a lane knows an envelope, and the place of the lane. -/
def ticket (entry : Nat × Envelope (LaneMessage α)) : Nat × Nat := (entry.1, entry.2.serial)

section Tickets
variable {place : Nat} {admissions : List (Nat × Envelope (LaneMessage α))}
  (here : ∀ admission ∈ admissions, admission.1 = place)

include here

/-- Admissions of one lane are known from their envelopes. -/
theorem eq_map_of_here : admissions = (admissions.map Prod.snd).map (place, ·) := by
  calc admissions = admissions.map id := (List.map_id _).symm
    _ = admissions.map (fun admission => (place, admission.2)) :=
      List.map_congr_left fun admission mem => by rw [← here admission mem]; rfl
    _ = (admissions.map Prod.snd).map (place, ·) := by rw [List.map_map]; rfl

theorem tickets_eq_map : admissions.map ticket =
    ((admissions.map Prod.snd).map Envelope.serial).map (place, ·) := by
  rw [List.map_map, List.map_map]
  refine List.map_congr_left ?_
  intro admission mem
  simp [ticket, here admission mem]

theorem ticket_mem_iff (entry : Nat × Envelope (LaneMessage α)) :
    ticket entry ∈ admissions.map ticket ↔
      entry.1 = place ∧ entry.2.serial ∈ (admissions.map Prod.snd).map Envelope.serial := by
  rw [tickets_eq_map here, List.mem_map]
  simp only [ticket, Prod.mk.injEq]
  constructor
  · rintro ⟨serial, mem, at_, rfl⟩
    exact ⟨at_.symm, mem⟩
  · rintro ⟨at_, mem⟩
    exact ⟨_, mem, at_.symm, rfl⟩

theorem tickets_nodup (apart : ((admissions.map Prod.snd).map Envelope.serial).Nodup) :
    (admissions.map ticket).Nodup := by
  rw [tickets_eq_map here]
  simp only [List.Nodup, List.pairwise_map] at apart ⊢
  exact apart.imp (by simp)

/-- What was dispatched of the admissions, as the lane sees it. -/
theorem dispatches_of_tickets (p : Pool α β γ σ) :
    p.dispatches.filter (fun entry => ticket entry ∈ admissions.map ticket) =
      ((Mailbox.dispatches (LaneEvent.inMailbox (p.laneEvents place))).filter
        (fun e => e.serial ∈ (admissions.map Prod.snd).map Envelope.serial)).map (place, ·) := by
  calc p.dispatches.filter (fun entry => ticket entry ∈ admissions.map ticket)
      = (p.dispatches.filter (·.1 = place)).filter
          (fun entry => entry.2.serial ∈ (admissions.map Prod.snd).map Envelope.serial) := by
        rw [List.filter_filter]
        refine List.filter_congr ?_
        intro entry _
        rw [Bool.eq_iff_iff, Bool.and_eq_true]
        simp only [decide_eq_true_eq]
        rw [ticket_mem_iff here entry, and_comm]
    _ = _ := by
        rw [p.dispatches_at, List.filter_map]
        rfl

end Tickets

/-! ### Serialisation -/

/-- In a stretch of a run without a removal of the object every routing with affinity picks one
lane for it, or there is no lane. Of the requests for the object that were accepted in the stretch
the lane has at every moment handled the first ones, in order of acceptance and each once, for the
lane and on its table. -/
theorem affinity_serialises (h : Handler α β γ σ) (config : PoolConfig) (generator : Generator)
    (memory : σ) (before stretch : List (Step α γ σ)) {object : ObjectId} (pos : 0 < object)
    (kept : Retains object stretch) :
    let s := run h before (start config generator memory)
    ∃ place,
      (∀ found, (object, found) ∈ along h Pool.resolutions stretch s →
        found = .ok place ∨ found = .error .noWorkers) ∧
      ∀ earlier later, stretch = earlier ++ later →
        let p := (run h earlier s).pool
        let admissions := along h (Pool.admissions object) earlier s
        (∀ admission ∈ admissions, admission.1 = place) ∧
        (admissions.map ticket).Nodup ∧
        p.dispatches.filter (fun entry => ticket entry ∈ admissions.map ticket) <+: admissions ∧
        ∀ now k lane envelope, p.lanes[k]? = some lane →
          lane.mailbox.turn = .dispatch envelope → ticket (k, envelope) ∈ admissions.map ticket →
          k = place ∧ ∃ outcome,
            (p.consume h now k).journal.head? =
              some (.mailbox place lane.id (.dispatched envelope (some outcome))) ∧
            h.Handles lane.id lane.table envelope.payload outcome
              ((p.consume h now k).tableAt place) := by
  intro s
  have sound : s.pool.Sound := run_sound (.new config generator memory)
  obtain ⟨place, routed⟩ := run_resolves (h := h) sound pos kept
  refine ⟨place, routed, ?_⟩
  rintro earlier later rfl p admissions
  have here : ∀ admission ∈ admissions, admission.1 = place := by
    intro admission mem
    rcases routed _ (resolution_of_admission_along mem later) with ok | none
    · exact Except.ok.inj ok
    · cases none
  obtain ⟨fifo, distinct⟩ := lane_fifo h config generator memory (before ++ earlier) place
  rw [run_append] at fifo distinct
  have sub : List.Sublist (admissions.map Prod.snd)
      (Mailbox.acceptances (LaneEvent.inMailbox (p.laneEvents place))) := by
    obtain ⟨events, grown, sub⟩ := run_admissions (h := h) earlier s object place
    rw [List.filter_eq_self.mpr (by simpa using here)] at sub
    rw [grown, LaneEvent.inMailbox_append, Mailbox.acceptances_append]
    exact sub.trans (List.sublist_append_right ..)
  refine ⟨here, ?_, ?_, ?_⟩
  · exact tickets_nodup here ((sub.map Envelope.serial).nodup distinct)
  · have prefixed := fifo.filter
      (fun e => decide (e.serial ∈ (admissions.map Prod.snd).map Envelope.serial))
    rw [filter_keys sub distinct] at prefixed
    have mapped := prefixed.map (place, ·)
    rw [← eq_map_of_here here] at mapped
    rw [dispatches_of_tickets here]
    exact mapped
  · intro now k lane envelope at_ turn taken
    obtain ⟨rfl, -⟩ := (ticket_mem_iff here (k, envelope)).mp taken
    exact ⟨rfl, Pool.consume_of_dispatch at_ turn now⟩

/-- Keeps the latest request under the first id. -/
def keeper : Handler Nat Unit Nat Unit where
  process _ _ request table memory := .done (.returned (), table.insert 1 request, memory)

/-- A pool grows between two requests for one object, so that the hash leads elsewhere. -/
def growingStretch : List (Step Nat Nat Unit) :=
  [.sendEach 10 [1, 2] false, .grow 3 none, .target 1 false, .sendEach 11 [1] true,
    .consume 0 0, .consume 0 0, .setObject 1 5, .consume 0 0]

theorem growingStretch_serialises :
    (0 : Int) < 1 ∧ Retains 1 growingStretch ∧
    (along keeper (Pool.admissions 1) growingStretch
      (run keeper [.grow 1 none] (start .standard (.seeded 0) ()))).map ticket = [(0, 0), (0, 2)] ∧
    ∃ place : Nat, ∀ found : Except Error Nat,
      (1, found) ∈ along keeper Pool.resolutions growingStretch
        (run keeper [.grow 1 none] (start .standard (.seeded 0) ())) →
      found = .ok place ∨ found = .error .noWorkers :=
  have pos : (0 : Int) < 1 := by decide
  have kept : Retains 1 growingStretch := by simp [Retains, growingStretch]
  have ⟨place, routed, _⟩ :=
    affinity_serialises keeper .standard (.seeded 0) () [.grow 1 none] growingStretch pos kept
  ⟨pos, kept, by decide +kernel, place, routed⟩

end RunningPool
end Lanes
