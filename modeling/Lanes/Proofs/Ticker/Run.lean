import Lanes.Proofs.Runs
import Lanes.Ticker

/-!
# Runs of a ticker

A run is a list of steps, taken in any order: what the owner does, the task looking at some moment
whether it was cancelled, its beats, and the shutdown of the task's host. Once the owner has
abandoned the ticker only the task and its host act. Outside of the task no callback is called, and
what a ticker was told it stays told. What the owner does he may also do while a checker runs; all
of it together says which callbacks a ticker has, and whether it was told to end.
-/
namespace Lanes

/-- A call of one of the callbacks of a ticker, and how it ended. -/
inductive TickerCall where
  | check (outcome : Outcome Unit)
  | farewell (outcome : Outcome Unit)

def Metronome.Event.call? : Metronome.Event → Option TickerCall
  | .fired outcome => some (.check outcome)
  | .farewell outcome => some (.farewell outcome)
  | _ => none

namespace Ticker
variable {σ : Type}

/-- What was noted, the oldest first. -/
def history (t : Ticker σ) : List Metronome.Event := t.journal.reverse

/-- The calls of the callbacks so far, in order. -/
def calls (t : Ticker σ) : List TickerCall := t.history.filterMap Metronome.Event.call?

/-- One step of a run. -/
inductive Step (σ : Type) where
  | setChecker (checker : Checker σ)
  | setFarewell (farewell : TickerFarewell σ)
  | retime (seconds : Binary64)
  | close
  /-- Who closed the ticker finds that its task has ended. -/
  | acknowledge
  /-- The owner goes away. -/
  | drop
  /-- The task looks whether it was cancelled. -/
  | look (now : Moment)
  | beat (now : Moment)
  /-- The host of the task goes down. -/
  | abort

variable {t t' t'' : Ticker σ} {asks further : List (Step σ)} {made more : List TickerCall}

/-- Whether only the owner of the ticker can take the step. -/
def Step.needsOwner : Step σ → Bool
  | .look _ | .beat _ | .abort => false
  | _ => true

/-- Whose steps there are. -/
theorem Step.kind (step : Step σ) : step.needsOwner = true ∨ (∃ now, step = .look now) ∨
    (∃ now, step = .beat now) ∨ step = .abort := by
  cases step <;> simp [needsOwner]

def perform (t : Ticker σ) : Step σ → Ticker σ
  | .setChecker checker => t.setChecker checker
  | .setFarewell farewell => (t.setFarewell farewell).2
  | .retime seconds => (t.retime seconds).2
  | .close => t.close.2
  | .acknowledge => t.acknowledge
  | .drop => t.drop
  | .look now => t.look now
  | .beat now => t.beat now
  | .abort => t.abort

/-- The ticker after a step. Without an owner there are no steps of his. -/
def apply (t : Ticker σ) (step : Step σ) : Ticker σ :=
  if t.metronome.dropped && step.needsOwner then t else t.perform step

/-- The ticker after a run. -/
def run (steps : List (Step σ)) (t : Ticker σ) : Ticker σ := steps.foldl apply t

@[simp] theorem run_nil (t : Ticker σ) : run [] t = t := rfl

@[simp] theorem run_cons (step : Step σ) (steps : List (Step σ)) (t : Ticker σ) :
    run (step :: steps) t = run steps (t.apply step) := rfl

@[simp] theorem run_append (steps later : List (Step σ)) (t : Ticker σ) :
    run (steps ++ later) t = run later (run steps t) := List.foldl_append ..

@[simp] theorem apply_look (t : Ticker σ) (now : Moment) : t.apply (.look now) = t.look now := by
  simp [apply, perform, Step.needsOwner]

@[simp] theorem apply_beat (t : Ticker σ) (now : Moment) : t.apply (.beat now) = t.beat now := by
  simp [apply, perform, Step.needsOwner]

@[simp] theorem calls_note (t : Ticker σ) (event : Metronome.Event) :
    (t.note event).calls = t.calls ++ event.call?.toList := by
  cases told : event.call? <;> simp [calls, history, note, told]

/-! ### What the owner does -/

/-- What is done to a ticker while a checker runs, as steps of its owner. -/
def deeds : Reaction σ → Ticker σ → List (Step σ)
  | .done _ _, _ => []
  | .retime seconds resume, t =>
    if t.metronome.dropped then deeds (resume none) t
    else .retime seconds :: deeds (resume (some (t.retime seconds).1)) (t.retime seconds).2
  | .replace checker resume, t =>
    if t.metronome.dropped then deeds (resume none) t
    else .setChecker checker :: deeds (resume (some ())) (t.setChecker checker)
  | .register farewell resume, t =>
    if t.metronome.dropped then deeds (resume none) t
    else .setFarewell farewell ::
      deeds (resume (some (t.setFarewell farewell).1)) (t.setFarewell farewell).2
  | .close resume, t =>
    if t.metronome.dropped then deeds (resume none) t
    else .close :: deeds (resume (some t.close.1)) t.close.2
  | .abandon next, t => if t.metronome.dropped then deeds next t else .drop :: deeds next t.drop

/-- What is done while the checker of the moment runs, if there is one. -/
def meanwhile (t : Ticker σ) (now : Moment) : List (Step σ) :=
  match t.checker with
  | none => []
  | some checker => deeds (checker now t.memory) t

/-- What the owner does in a step, or while the task takes it. -/
def asked (t : Ticker σ) : Step σ → List (Step σ)
  | .look now =>
    if !t.poised && t.metronome.due now && t.metronome.cancelled then t.start.meanwhile now else []
  | .beat now => if t.poised then { t with poised := false }.meanwhile now else []
  | .abort => []
  | step => if t.metronome.dropped then [] else [step]

/-- What the owner does along a run. -/
def askedAlong : List (Step σ) → Ticker σ → List (Step σ)
  | [], _ => []
  | step :: steps, t => t.asked step ++ askedAlong steps (t.apply step)

@[simp] def Step.checker? : Step σ → Option (Checker σ)
  | .setChecker checker => some checker
  | _ => none

@[simp] def Step.farewell? : Step σ → Option (TickerFarewell σ)
  | .setFarewell farewell => some farewell
  | _ => none

/-- Whether a ticker is told to end. -/
def Tells (steps : List (Step σ)) : Prop := .close ∈ steps ∨ .drop ∈ steps

/-- The checkers that were installed, in order. -/
def checkers (steps : List (Step σ)) : List (Checker σ) := steps.filterMap Step.checker?

/-- The quit callbacks that were to be set, the one that was asked for first in front. -/
def farewells (steps : List (Step σ)) : List (TickerFarewell σ) := steps.filterMap Step.farewell?

/-! ### Between two sleeps -/

/-- What a ticker makes of what its owner does: it is closed or abandoned if he does so, it has the
checker that was installed last, and the quit callback that was set first. -/
structure Heeds (t : Ticker σ) (asks : List (Step σ)) (t' : Ticker σ) : Prop where
  closed : t'.metronome.closed = true ↔ t.metronome.closed = true ∨ .close ∈ asks
  dropped : t'.metronome.dropped = true ↔ t.metronome.dropped = true ∨ .drop ∈ asks
  checker : t'.checker = (checkers asks).getLast?.or t.checker
  farewell : t'.farewell = t.farewell.or (farewells asks).head?

theorem Heeds.trans (h : Heeds t asks t') (k : Heeds t' further t'') :
    Heeds t (asks ++ further) t'' where
  closed := by rw [k.closed, h.closed, List.mem_append, or_assoc]
  dropped := by rw [k.dropped, h.dropped, List.mem_append, or_assoc]
  checker := by
    simp [k.checker, h.checker, checkers, List.filterMap_append, List.getLast?_append,
      Option.or_assoc]
  farewell := by
    simp [k.farewell, h.farewell, farewells, List.filterMap_append, List.head?_append,
      Option.or_assoc]

/-- Nothing was asked, and what could be stays. -/
theorem Heeds.of_eq (closed : t'.metronome.closed = t.metronome.closed)
    (dropped : t'.metronome.dropped = t.metronome.dropped) (checker : t'.checker = t.checker)
    (farewell : t'.farewell = t.farewell) : Heeds t [] t' :=
  ⟨by simp [closed], by simp [dropped], by simp [checker, checkers], by simp [farewell, farewells]⟩

/-- Only who closes or abandons a ticker tells it to end. -/
theorem Heeds.cancelled_iff (h : Heeds t asks t') :
    t'.metronome.cancelled = true ↔ t.metronome.cancelled = true ∨ Tells asks := by
  simp only [Metronome.cancelled, Bool.or_eq_true, h.closed, h.dropped, Tells]
  exact or_or_or_comm ..

theorem Heeds.cancelled (h : Heeds t asks t') (told : t.metronome.cancelled = true) :
    t'.metronome.cancelled = true :=
  h.cancelled_iff.mpr (.inl told)

/-- A ticker goes on to another one by what its owner does, and its callbacks are called meanwhile.
The task neither looks, falls asleep nor ends. -/
structure Leads (t : Ticker σ) (asks : List (Step σ)) (made : List TickerCall) (t' : Ticker σ) :
    Prop extends Heeds t asks t' where
  calls : t'.calls = t.calls ++ made
  phase : t'.metronome.phase = t.metronome.phase
  poised : t'.poised = t.poised

theorem Leads.refl (t : Ticker σ) : Leads t [] [] t := ⟨.of_eq rfl rfl rfl rfl, by simp, rfl, rfl⟩

theorem Leads.trans (h : Leads t asks made t') (k : Leads t' further more t'') :
    Leads t (asks ++ further) (made ++ more) t'' where
  toHeeds := h.toHeeds.trans k.toHeeds
  calls := by rw [k.calls, h.calls, List.append_assoc]
  phase := k.phase.trans h.phase
  poised := k.poised.trans h.poised

theorem Leads.ended (h : Leads t asks made t') : t'.ended = t.ended := by
  unfold Ticker.ended
  rw [h.phase]

/-- Nothing changes but what is noted, remembered or kept for whoever has closed the ticker. -/
theorem Leads.of_eq (calls : t'.calls = t.calls ++ made) (metronome : t'.metronome = t.metronome)
    (poised : t'.poised = t.poised) (checker : t'.checker = t.checker)
    (farewell : t'.farewell = t.farewell) : Leads t [] made t' :=
  ⟨.of_eq (by rw [metronome]) (by rw [metronome]) checker farewell, calls, by rw [metronome],
    poised⟩

theorem note_leads (t : Ticker σ) (event : Metronome.Event) :
    Leads t [] event.call?.toList (t.note event) :=
  .of_eq (calls_note ..) rfl rfl rfl rfl

/-- The period apart, a metronome is retimed to itself. -/
theorem retime_cases (t : Ticker σ) (seconds : Binary64) :
    (∃ cause, t.retime seconds = (.error cause, t)) ∨
    ∃ period, t.retime seconds = (.ok (), { t with metronome := { t.metronome with period } }) := by
  unfold retime Metronome.retime
  cases Duration.period? seconds with
  | error fault => exact .inl ⟨_, rfl⟩
  | ok period => exact .inr ⟨period, rfl⟩

theorem close_eq (t : Ticker σ) : t.close =
    if t.metronome.closed then (.error .alreadyClosed, t)
    else (.ok (), { t with metronome := { t.metronome with closed := true } }.note .cancelled) := by
  unfold close Metronome.close?
  cases t.metronome.closed <;> rfl

/-- A quit that returns has found the task ended, and notes it if it was aborted. -/
theorem acknowledge_cases (t : Ticker σ) : t.acknowledge = t ∨
    t.released = true ∧ (t.acknowledge = { t with returned := true } ∨
      t.acknowledge = { t.note .foundAborted with returned := true }) := by
  unfold acknowledge
  split
  · next free =>
    refine .inr ⟨free, ?_⟩
    split
    · exact .inr rfl
    · exact .inl rfl
  · exact .inl rfl

theorem perform_heeds (t : Ticker σ) (step : Step σ) (owned : step.needsOwner = true) :
    Heeds t [step] (t.perform step) := by
  cases step with
  | setChecker checker => exact ⟨by simp [perform, setChecker], by simp [perform, setChecker], rfl,
      by simp [perform, setChecker, farewells]⟩
  | setFarewell farewell =>
    cases set : t.farewell <;> simp only [perform, setFarewell, set] <;>
      exact ⟨by simp, by simp, rfl, by simp [farewells, set]⟩
  | retime seconds =>
    obtain ⟨cause, eq⟩ | ⟨period, eq⟩ := t.retime_cases seconds <;> simp only [perform, eq] <;>
      exact ⟨by simp, by simp, rfl, by simp [farewells]⟩
  | close =>
    simp only [perform, close_eq]
    split
    · next closed => exact ⟨by simp [closed], by simp, rfl, by simp [farewells]⟩
    · exact ⟨by simp [note], by simp [note], rfl, by simp [farewells, note]⟩
  | acknowledge =>
    obtain eq | ⟨-, eq | eq⟩ := t.acknowledge_cases <;> simp only [perform, eq] <;>
      exact ⟨by simp [note], by simp [note], rfl, by simp [farewells, note]⟩
  | drop => exact ⟨by simp [perform, drop, Metronome.drop, note],
      by simp [perform, drop, Metronome.drop, note], rfl, by simp [perform, drop, note, farewells]⟩
  | _ => simp [Step.needsOwner] at owned

/-- Nothing that the owner does calls anything. -/
theorem perform_leads (t : Ticker σ) (step : Step σ) (owned : step.needsOwner = true) :
    Leads t [step] [] (t.perform step) := by
  have kept : (t.perform step).calls = t.calls ∧
      (t.perform step).metronome.phase = t.metronome.phase ∧
        (t.perform step).poised = t.poised := by
    cases step with
    | setFarewell farewell =>
      cases set : t.farewell <;> simp [perform, setFarewell, set, calls, history]
    | retime seconds =>
      obtain ⟨cause, eq⟩ | ⟨period, eq⟩ := t.retime_cases seconds <;>
        simp [perform, eq, calls, history]
    | close =>
      simp only [perform, close_eq]
      split <;> simp [calls, history, note, Metronome.Event.call?]
    | acknowledge =>
      obtain eq | ⟨-, eq | eq⟩ := t.acknowledge_cases <;>
        simp [perform, eq, calls, history, note, Metronome.Event.call?]
    | setChecker | drop =>
      simp [perform, setChecker, drop, Metronome.drop, calls, history, note, Metronome.Event.call?]
    | _ => simp [Step.needsOwner] at owned
  obtain ⟨calls, phase, poised⟩ := kept
  exact ⟨t.perform_heeds step owned, by simpa using calls, phase, poised⟩

/-- A step that is neither the task's nor its host's calls nothing. -/
theorem apply_leads (t : Ticker σ) {step : Step σ} (owned : step.needsOwner = true) :
    Leads t (t.asked step) [] (t.apply step) := by
  have listed : t.asked step = if t.metronome.dropped then [] else [step] := by
    cases step with
    | look | beat | abort => simp [Step.needsOwner] at owned
    | _ => rfl
  rw [listed, apply, owned, Bool.and_true]
  split
  · exact .refl t
  · exact t.perform_leads step owned

/-- While a checker runs no callback is called. -/
theorem react_leads (reaction : Reaction σ) (t : Ticker σ) :
    Leads t (deeds reaction t) [] (react reaction t).2 := by
  induction reaction generalizing t with
  | done _ memory => exact .of_eq (by simp [react, calls, history]) rfl rfl rfl rfl
  | retime seconds resume ih =>
    rw [react, deeds]
    split
    · exact ih _ t
    · exact (t.perform_leads (.retime seconds) rfl).trans (ih _ _)
  | replace checker resume _ ih =>
    rw [react, deeds]
    split
    · exact ih _ t
    · exact (t.perform_leads (.setChecker checker) rfl).trans (ih _ _)
  | register farewell resume ih =>
    rw [react, deeds]
    split
    · exact ih _ t
    · exact (t.perform_leads (.setFarewell farewell) rfl).trans (ih _ _)
  | close resume ih =>
    rw [react, deeds]
    split
    · exact ih _ t
    · exact (t.perform_leads .close rfl).trans (ih _ _)
  | abandon next ih =>
    rw [react, deeds]
    split
    · exact ih t
    · exact (t.perform_leads .drop rfl).trans (ih _)

/-- What the owner does to a ticker, and what is done to it while a checker runs. -/
inductive Meddles (t : Ticker σ) : Ticker σ → Prop
  | remember (memory : σ) : Meddles t { t with memory }
  | retime (seconds : Binary64) : Meddles t (t.retime seconds).2
  | replace (checker : Checker σ) : Meddles t (t.setChecker checker)
  | register (farewell : TickerFarewell σ) : Meddles t (t.setFarewell farewell).2
  | close : Meddles t t.close.2
  | abandon : Meddles t t.drop

theorem Meddles.leads (meddles : Meddles t t') : ∃ asks, Leads t asks [] t' := by
  cases meddles with
  | remember => exact ⟨[], .of_eq (by simp [calls, history]) rfl rfl rfl rfl⟩
  | retime seconds => exact ⟨_, t.perform_leads (.retime seconds) rfl⟩
  | replace checker => exact ⟨_, t.perform_leads (.setChecker checker) rfl⟩
  | register farewell => exact ⟨_, t.perform_leads (.setFarewell farewell) rfl⟩
  | close => exact ⟨_, t.perform_leads .close rfl⟩
  | abandon => exact ⟨_, t.perform_leads .drop rfl⟩

theorem perform_meddles (t : Ticker σ) {step : Step σ} (owned : step.needsOwner = true)
    (other : step ≠ .acknowledge) : Meddles t (t.perform step) := by
  cases step with
  | setChecker checker => exact .replace checker
  | setFarewell farewell => exact .register farewell
  | retime seconds => exact .retime seconds
  | close => exact .close
  | acknowledge => exact absurd rfl other
  | drop => exact .abandon
  | _ => simp [Step.needsOwner] at owned

/-- What is kept by everything that may be done while a checker runs is kept by its run. -/
theorem react_keeps {P : Ticker σ → Prop}
    (step : ∀ {before after : Ticker σ}, Meddles before after → P before → P after)
    (reaction : Reaction σ) (h : P t) : P (react reaction t).2 := by
  induction reaction generalizing t with
  | done _ memory => exact step (.remember memory) h
  | retime seconds resume ih =>
    rw [react]
    split
    · exact ih _ h
    · exact ih _ (step (.retime seconds) h)
  | replace checker resume _ ih =>
    rw [react]
    split
    · exact ih _ h
    · exact ih _ (step (.replace checker) h)
  | register farewell resume ih =>
    rw [react]
    split
    · exact ih _ h
    · exact ih _ (step (.register farewell) h)
  | close resume ih =>
    rw [react]
    split
    · exact ih _ h
    · exact ih _ (step .close h)
  | abandon next ih =>
    rw [react]
    split
    · exact ih h
    · exact ih (step .abandon h)

/-! ### What the task does -/

/-- How the checker ends that is called on a beat, if there is one. -/
def check (t : Ticker σ) (now : Moment) : Option (Outcome Unit) :=
  t.checker.map (fun checker => (react (checker now t.memory) t).1)

/-- How the quit callback ends that is called after the last beat, if there is one. -/
def words (t : Ticker σ) (now : Moment) : Option (Outcome Unit) :=
  t.farewell.map (fun farewell => (farewell now t.memory).1)

theorem start_leads (t : Ticker σ) : Leads t [] [] t.start := by
  unfold start
  split
  · exact t.note_leads (.started t.metronome.period)
  · exact .refl t

theorem start_metronome (t : Ticker σ) : t.start.metronome = t.metronome := by
  unfold start
  split <;> rfl

theorem start_checker (t : Ticker σ) : t.start.checker = t.checker := by
  unfold start
  split <;> rfl

theorem fire_leads (t : Ticker σ) (now : Moment) :
    Leads t (t.meanwhile now) ((t.check now).toList.map .check) (t.fire now) := by
  unfold fire check meanwhile
  cases t.checker with
  | none => exact .refl t
  | some checker =>
    simpa [Metronome.Event.call?] using
      (react_leads (checker now t.memory) t).trans (note_leads _ (.fired _))

theorem bidFarewell_leads (t : Ticker σ) (now : Moment) :
    Leads t [] ((t.words now).toList.map .farewell) (t.bidFarewell now) := by
  unfold bidFarewell words
  cases set : t.farewell with
  | none => exact .refl t
  | some farewell =>
    exact .of_eq (by simp [calls, history, note, Metronome.Event.call?]) rfl rfl rfl
      (by simp [note, set])

/-- The calls of the last beat and of the farewell. -/
def finalCalls (t : Ticker σ) (now : Moment) : List TickerCall :=
  (t.start.check now).toList.map .check ++ ((t.start.fire now).words now).toList.map .farewell

theorem final_leads (t : Ticker σ) (now : Moment) :
    Leads t (t.start.meanwhile now) (t.finalCalls now) ((t.start.fire now).bidFarewell now) := by
  simpa [finalCalls] using
    (t.start_leads.trans (t.start.fire_leads now)).trans (bidFarewell_leads _ now)

theorem rest_calls (t : Ticker σ) (now : Moment) : (t.rest now).calls = t.calls := by
  simp only [rest]
  split
  · rfl
  · simp [calls, history, note, Metronome.Event.call?]

theorem rest_metronome (t : Ticker σ) (now : Moment) :
    (t.rest now).metronome = t.metronome.rest now := by
  simp only [rest]
  split <;> rfl

/-- Resting changes what the metronome waits for, and adds a note. -/
theorem rest_eq (t : Ticker σ) (now : Moment) :
    ∃ journal, t.rest now = { t with metronome := t.metronome.rest now, journal } := by
  simp only [rest]
  split <;> exact ⟨_, rfl⟩

/-- A look at something to do makes the task poised to beat or, once it was told, is followed by the
last beat, the farewell and the end. -/
theorem look_cases (t : Ticker σ) (now : Moment) :
    (t.poised = true ∨ t.metronome.due now = false) ∧ t.look now = t ∨
    (t.poised = false ∧ t.metronome.due now = true) ∧
      (t.metronome.cancelled = false ∧ t.look now = { t.start with poised := true } ∨
        t.metronome.cancelled = true ∧
          t.look now = ((t.start.fire now).bidFarewell now).stop) := by
  unfold look
  cases poised : t.poised with
  | true => exact .inl ⟨.inl rfl, rfl⟩
  | false =>
    cases due : t.metronome.due now with
    | false => exact .inl ⟨.inr rfl, rfl⟩
    | true =>
      refine .inr ⟨⟨rfl, rfl⟩, ?_⟩
      simp only [Bool.not_false, Bool.and_self, if_true, start_metronome]
      cases told : t.metronome.cancelled with
      | false => exact .inl ⟨rfl, rfl⟩
      | true => exact .inr ⟨rfl, rfl⟩

/-- A task that is poised beats and goes to sleep. -/
theorem beat_cases (t : Ticker σ) (now : Moment) :
    t.poised = false ∧ t.beat now = t ∨
    t.poised = true ∧ t.beat now = ({ t with poised := false }.fire now).rest now := by
  unfold beat
  cases poised : t.poised with
  | false => exact .inl ⟨rfl, rfl⟩
  | true => exact .inr ⟨rfl, rfl⟩

/-- After a beat the task is asleep. -/
theorem beat_spec (poised : t.poised = true) (now : Moment) :
    (t.beat now).calls = t.calls ++ ({ t with poised := false }.check now).toList.map .check ∧
      (t.beat now).ended = false ∧ (t.beat now).poised = false ∧
      ((t.beat now).metronome.cancelled = true ↔
        t.metronome.cancelled = true ∨ Tells ({ t with poised := false }.meanwhile now)) := by
  have leads := fire_leads { t with poised := false } now
  obtain ⟨journal, rested⟩ := ({ t with poised := false }.fire now).rest_eq now
  have calls := rest_calls ({ t with poised := false }.fire now) now
  obtain ⟨other, -⟩ | ⟨-, eq⟩ := t.beat_cases now
  · simp [poised] at other
  · rw [eq]
    exact ⟨calls.trans leads.calls, by rw [rested]; rfl, by rw [rested]; exact leads.poised,
      by rw [rested]; exact leads.cancelled_iff⟩

/-- A whole turn of a task that is not in the middle of one. If it has nothing to do it stays as it
is. Otherwise it beats and goes to sleep, or, once it was told, it beats, says farewell and stops. -/
theorem wake_cases (clear : t.poised = false) (now : Moment) :
    t.metronome.due now = false ∧ t.wake now = t ∨
    (t.metronome.due now = true ∧ t.metronome.cancelled = false ∧
      t.wake now = (t.start.fire now).rest now) ∨
    (t.metronome.due now = true ∧ t.metronome.cancelled = true ∧
      t.wake now = ((t.start.fire now).bidFarewell now).stop) := by
  have begun : t.start.poised = false := t.start_leads.poised.trans clear
  unfold wake
  obtain ⟨idle, eq⟩ | ⟨⟨-, due⟩, ⟨going, eq⟩ | ⟨told, eq⟩⟩ := t.look_cases now
  · have asleep : t.metronome.due now = false := by simpa [clear] using idle
    exact .inl ⟨asleep, by simp [eq, beat, clear]⟩
  · refine .inr (.inl ⟨due, going, ?_⟩)
    have same : { t.start with poised := false } = t.start := by rw [← begun]
    simp [eq, beat, same]
  · refine .inr (.inr ⟨due, told, ?_⟩)
    have ends : ((t.start.fire now).bidFarewell now).stop.poised = false :=
      (t.final_leads now).poised.trans clear
    simp [eq, beat, ends]

/-! ### What is heeded along a run -/

theorem apply_heeds (t : Ticker σ) (step : Step σ) : Heeds t (t.asked step) (t.apply step) := by
  obtain owned | ⟨now, rfl⟩ | ⟨now, rfl⟩ | rfl := step.kind
  · exact (t.apply_leads owned).toHeeds
  · rw [apply_look]
    obtain ⟨idle, eq⟩ | ⟨⟨clear, due⟩, ⟨going, eq⟩ | ⟨told, eq⟩⟩ := t.look_cases now
    · have silent : t.asked (.look now) = [] := by
        rcases idle with poised | idle <;> simp [asked, *]
      rw [eq, silent]
      exact .of_eq rfl rfl rfl rfl
    · have silent : t.asked (.look now) = [] := by simp [asked, going]
      have leads := t.start_leads
      rw [eq, silent]
      exact ⟨leads.closed, leads.dropped, leads.checker, leads.farewell⟩
    · have last : t.asked (.look now) = t.start.meanwhile now := by simp [asked, clear, due, told]
      have leads := t.final_leads now
      rw [eq, last]
      exact ⟨leads.closed, leads.dropped, leads.checker, leads.farewell⟩
  · rw [apply_beat]
    obtain ⟨clear, eq⟩ | ⟨poised, eq⟩ := t.beat_cases now
    · have silent : t.asked (.beat now) = [] := by simp [asked, clear]
      rw [eq, silent]
      exact .of_eq rfl rfl rfl rfl
    · have busy : t.asked (.beat now) = { t with poised := false }.meanwhile now := by
        simp [asked, poised]
      have leads := fire_leads { t with poised := false } now
      obtain ⟨journal, rested⟩ := ({ t with poised := false }.fire now).rest_eq now
      rw [eq, rested, busy]
      exact ⟨leads.closed, leads.dropped, leads.checker, leads.farewell⟩
  · have aborted : t.apply .abort = t.abort := by simp [apply, perform, Step.needsOwner]
    rw [aborted, abort]
    split
    · exact .of_eq rfl rfl rfl rfl
    · next running =>
      simp only [Bool.or_eq_true, not_or, Bool.not_eq_true] at running
      exact .of_eq (by simp [note, Metronome.abort, running.2])
        (by simp [note, Metronome.abort, running.2]) rfl rfl

/-- Everything that was done along a run, between steps or during one, has been heeded. -/
theorem run_heeds (steps : List (Step σ)) (t : Ticker σ) :
    Heeds t (askedAlong steps t) (run steps t) := by
  induction steps generalizing t with
  | nil => exact .of_eq rfl rfl rfl rfl
  | cons step steps ih => exact (t.apply_heeds step).trans (ih (t.apply step))

theorem wake_cancelled (told : t.metronome.cancelled = true) (now : Moment) :
    (t.wake now).metronome.cancelled = true := by
  simpa [wake] using (run_heeds [.look now, .beat now] t).cancelled told

end Ticker
end Lanes
