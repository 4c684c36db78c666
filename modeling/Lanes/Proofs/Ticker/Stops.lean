import Lanes.Proofs.Ticker.Run

/-!
# The end of a ticker

A ticker is told to end when its owner closes or abandons it, between two beats or during one.
From then on its task is ready to run, and when it does it beats once more, says farewell and stops,
however the checker ends. Nothing is called before that or after it. As long as the owner is there
he is told that the ticker is closed already, and who closed it waits for the end of the task.

All this is so unless the ticker is told when the task has just found itself not cancelled. Then the
beat that it is about to make comes in addition.
-/
namespace Lanes
namespace Ticker
variable {σ : Type} {t t' : Ticker σ} {steps later : List (Step σ)} {step : Step σ}
  {asks : List (Step σ)} {made : List TickerCall}

/-! ### Before the end -/

/-- A ticker that was told to end, and whose task has yet to look. -/
structure Ending (t : Ticker σ) : Prop where
  told : t.metronome.cancelled = true
  running : t.ended = false
  clear : t.poised = false

/-- A ticker whose task has come to its own end. -/
structure Over (t : Ticker σ) : Prop where
  told : t.metronome.cancelled = true
  ended : t.ended = true
  clear : t.poised = false

theorem Ending.due (ending : Ending t) (now : Moment) : t.metronome.due now = true := by
  have running := ending.running
  unfold ended at running
  unfold Metronome.due
  cases phase : t.metronome.phase <;> simp [phase, MetronomePhase.ended, ending.told] at running ⊢

theorem Leads.ending (leads : Leads t asks made t') (ending : Ending t) : Ending t' :=
  ⟨leads.cancelled ending.told, leads.ended.trans ending.running, leads.poised.trans ending.clear⟩

theorem Ending.look_eq (ending : Ending t) (now : Moment) :
    t.look now = ((t.start.fire now).bidFarewell now).stop := by
  obtain ⟨idle, -⟩ | ⟨-, ⟨going, -⟩ | ⟨-, eq⟩⟩ := t.look_cases now
  · simp [ending.clear, ending.due now] at idle
  · simp [ending.told] at going
  · exact eq

/-- When the task looks it makes its last calls and comes to its end. -/
theorem Ending.look (ending : Ending t) (now : Moment) :
    Over (t.look now) ∧ (t.look now).calls = t.calls ++ t.finalCalls now := by
  have leads := t.final_leads now
  rw [ending.look_eq now]
  refine ⟨⟨leads.cancelled ending.told, rfl, leads.poised.trans ending.clear⟩, ?_⟩
  calc ((t.start.fire now).bidFarewell now).stop.calls
      = ((t.start.fire now).bidFarewell now).calls := by
        simp [stop, calls, history, note, Metronome.Event.call?]
    _ = t.calls ++ t.finalCalls now := leads.calls

/-- A task that has yet to look does not beat. -/
theorem Ending.beat (ending : Ending t) (now : Moment) : t.beat now = t := by
  simp [Ticker.beat, ending.clear]

theorem Ending.run (ending : Ending t) (blind : ∀ now, .look now ∉ steps)
    (hosted : Step.abort ∉ steps) :
    Ending (run steps t) ∧ (run steps t).calls = t.calls := by
  induction steps generalizing t with
  | nil => exact ⟨ending, rfl⟩
  | cons step steps ih =>
    simp only [List.mem_cons, not_or] at blind hosted
    have next : Ending (t.apply step) ∧ (t.apply step).calls = t.calls := by
      obtain owned | ⟨now, rfl⟩ | ⟨now, rfl⟩ | rfl := step.kind
      · have leads := t.apply_leads owned
        exact ⟨leads.ending ending, by simpa using leads.calls⟩
      · exact absurd rfl (blind now).1
      · rw [apply_beat, ending.beat now]
        exact ⟨ending, rfl⟩
      · exact absurd rfl hosted.1
    obtain ⟨last, same⟩ := ih next.1 (fun now => (blind now).2) hosted.2
    exact ⟨last, same.trans next.2⟩

/-- Who was told when about to beat makes this beat first, and then ends like any other. -/
theorem beat_late (poised : t.poised = true) (told : t.metronome.cancelled = true) (now : Moment) :
    Ending (t.beat now) ∧
      (t.beat now).calls = t.calls ++ ({ t with poised := false }.check now).toList.map .check := by
  obtain ⟨calls, running, clear, -⟩ := beat_spec poised now
  have still := (t.apply_heeds (.beat now)).cancelled told
  rw [apply_beat] at still
  exact ⟨⟨still, running, clear⟩, calls⟩

/-! ### After the end -/

theorem not_due_of_ended (past : t.ended = true) (now : Moment) :
    t.metronome.due now = false := by
  unfold Ticker.ended at past
  unfold Metronome.due
  cases phase : t.metronome.phase <;> simp [phase, MetronomePhase.ended] at past ⊢

theorem Over.look (gone : Over t) (now : Moment) : t.look now = t := by
  simp [Ticker.look, not_due_of_ended gone.ended now]

theorem Over.apply (gone : Over t) (hosted : step ≠ .abort) :
    Over (t.apply step) ∧ (t.apply step).calls = t.calls := by
  obtain owned | ⟨now, rfl⟩ | ⟨now, rfl⟩ | rfl := step.kind
  · have leads := t.apply_leads owned
    exact ⟨⟨leads.cancelled gone.told, leads.ended.trans gone.ended, leads.poised.trans gone.clear⟩,
      by simpa using leads.calls⟩
  · rw [apply_look, gone.look]
    exact ⟨gone, rfl⟩
  · have silent : t.beat now = t := by simp [Ticker.beat, gone.clear]
    rw [apply_beat, silent]
    exact ⟨gone, rfl⟩
  · exact absurd rfl hosted

theorem Over.run (gone : Over t) (hosted : Step.abort ∉ steps) :
    Over (run steps t) ∧ (run steps t).calls = t.calls := by
  induction steps generalizing t with
  | nil => exact ⟨gone, rfl⟩
  | cons step steps ih =>
    simp only [List.mem_cons, not_or] at hosted
    obtain ⟨next, same⟩ := gone.apply (Ne.symm hosted.1)
    obtain ⟨last, kept⟩ := ih next hosted.2
    exact ⟨last, kept.trans same⟩

/-! ### Being told -/

/-- A ticker that was not told to end, with a task that runs. -/
structure Going (t : Ticker σ) : Prop where
  untold : t.metronome.cancelled = false
  running : t.ended = false

/-- How a ticker is told to end: its owner closes it, as nobody did before, or abandons it, or one
of the two happens during a beat. -/
inductive Told (t : Ticker σ) : Step σ → Ticker σ → Prop
  | closed {t' : Ticker σ} (first : t.close = (.ok (), t')) (silent : t'.calls = t.calls) :
      Told t .close t'
  | dropped {t' : Ticker σ} (silent : t'.calls = t.calls) : Told t .drop t'
  | meanwhile {t' : Ticker σ} {now : Moment} {outcome : Outcome Unit}
      (beat : t.poised = true ∧ { t with poised := false }.check now = some outcome)
      (once : t'.calls = t.calls ++ [.check outcome]) : Told t (.beat now) t'

/-- A task ends only when it looks and finds itself told. -/
theorem Going.running_apply (going : Going t) (hosted : step ≠ .abort) :
    (t.apply step).ended = false := by
  obtain owned | ⟨now, rfl⟩ | ⟨now, rfl⟩ | rfl := step.kind
  · exact (t.apply_leads owned).ended.trans going.running
  · rw [apply_look]
    obtain ⟨-, eq⟩ | ⟨-, ⟨-, eq⟩ | ⟨told, -⟩⟩ := t.look_cases now
    · rw [eq, going.running]
    · rw [eq]
      exact t.start_leads.ended.trans going.running
    · simp [going.untold] at told
  · rw [apply_beat]
    obtain ⟨-, eq⟩ | ⟨poised, -⟩ := t.beat_cases now
    · rw [eq, going.running]
    · exact (beat_spec poised now).2.1
  · exact absurd rfl hosted

/-- Up to the step that tells it to end a ticker is going. -/
theorem Going.run (going : Going t) (hosted : Step.abort ∉ steps)
    (untold : (run steps t).metronome.cancelled = false) : Going (run steps t) := by
  induction steps generalizing t with
  | nil => exact going
  | cons step steps ih =>
    simp only [List.mem_cons, not_or] at hosted
    refine ih ⟨?_, going.running_apply (Ne.symm hosted.1)⟩ hosted.2 untold
    cases told : (t.apply step).metronome.cancelled with
    | false => rfl
    | true =>
      rw [run_cons, (run_heeds steps _).cancelled told] at untold
      cases untold

/-- A beat during which the ticker is told to end. Without a checker nobody could do so. -/
theorem Going.beat_told (going : Going t) {now : Moment}
    (told : (t.beat now).metronome.cancelled = true) :
    Told t (.beat now) (t.beat now) ∧ Ending (t.beat now) := by
  obtain ⟨-, eq⟩ | ⟨poised, -⟩ := t.beat_cases now
  · simp [eq, going.untold] at told
  · obtain ⟨calls, running, clear, telling⟩ := beat_spec poised now
    refine ⟨?_, told, running, clear⟩
    cases beat : { t with poised := false }.check now with
    | some outcome => exact .meanwhile ⟨poised, beat⟩ (by simpa [beat] using calls)
    | none =>
      have absent : t.checker = none := Option.map_eq_none_iff.mp beat
      simp [telling, going.untold, Tells, meanwhile, absent] at told

theorem Going.look_untold (going : Going t) (now : Moment) :
    (t.look now).metronome.cancelled = false := by
  obtain ⟨-, eq⟩ | ⟨-, ⟨-, eq⟩ | ⟨told, -⟩⟩ := t.look_cases now
  · rw [eq, going.untold]
  · rw [eq]
    exact (congrArg Metronome.cancelled t.start_metronome).trans going.untold
  · simp [going.untold] at told

/-- A step that tells a ticker to end, and does not come between a look and the beat that follows
it. -/
theorem Going.told (going : Going t) (hosted : step ≠ .abort)
    (timely : t.poised = true → ∃ now, step = .beat now)
    (told : (t.apply step).metronome.cancelled = true) :
    Told t step (t.apply step) ∧ Ending (t.apply step) := by
  obtain owned | ⟨now, rfl⟩ | ⟨now, rfl⟩ | rfl := step.kind
  · have leads := t.apply_leads owned
    obtain ⟨closed, dropped⟩ := Bool.or_eq_false_iff.mp going.untold
    have clear : t.poised = false := by
      cases poised : t.poised with
      | false => rfl
      | true =>
        obtain ⟨now, rfl⟩ := timely poised
        simp [Step.needsOwner] at owned
    refine ⟨?_, told, leads.ended.trans going.running, leads.poised.trans clear⟩
    cases step with
    | close =>
      have owned : t.apply .close = t.close.2 := by simp [Ticker.apply, dropped, perform]
      have first : t.close = (.ok (), t.apply .close) := by simp [owned, close_eq, closed]
      exact .closed first (by simpa using leads.calls)
    | drop => exact .dropped (by simpa using leads.calls)
    | look | beat | abort => simp [Step.needsOwner] at owned
    | _ => simp [leads.cancelled_iff, going.untold, Tells, asked, dropped] at told
  · rw [apply_look, going.look_untold now] at told
    cases told
  · rw [apply_beat] at told ⊢
    exact going.beat_told told
  · exact absurd rfl hosted

/-! ### Returns -/

/-- A task that has ended is not about to beat, and a quit has returned only from a ticker that was
closed and whose task has ended. -/
structure Settled (t : Ticker σ) : Prop where
  clear : t.ended = true → t.poised = false
  returned : t.returned = true → t.metronome.closed = true ∧ t.ended = true

theorem Settled.new (period : Duration) (checker : Option (Checker σ)) (memory : σ) :
    Settled (.new period checker memory) :=
  ⟨by simp [Ticker.new], by simp [Ticker.new]⟩

theorem Meddles.returned (meddles : Meddles t t') : t'.returned = t.returned := by
  cases meddles with
  | remember => rfl
  | retime seconds => obtain ⟨cause, eq⟩ | ⟨period, eq⟩ := t.retime_cases seconds <;> rw [eq]
  | replace => rfl
  | register farewell =>
    unfold setFarewell
    cases t.farewell <;> rfl
  | close =>
    rw [close_eq]
    split <;> rfl
  | abandon => rfl

theorem fire_returned (t : Ticker σ) (now : Moment) : (t.fire now).returned = t.returned := by
  unfold fire
  cases t.checker with
  | none => rfl
  | some checker =>
    exact react_keeps (P := fun after => after.returned = t.returned)
      (fun meddles same => meddles.returned.trans same) (checker now t.memory) rfl

theorem start_returned (t : Ticker σ) : t.start.returned = t.returned := by
  unfold start
  split <;> rfl

theorem look_returned (t : Ticker σ) (now : Moment) : (t.look now).returned = t.returned := by
  obtain ⟨-, eq⟩ | ⟨-, ⟨-, eq⟩ | ⟨-, eq⟩⟩ := t.look_cases now
  · rw [eq]
  · rw [eq]
    exact t.start_returned
  · have fired := (t.start.fire_returned now).trans t.start_returned
    rw [eq, ← fired, stop, bidFarewell]
    cases (t.start.fire now).farewell <;> rfl

theorem beat_returned (t : Ticker σ) (now : Moment) : (t.beat now).returned = t.returned := by
  obtain ⟨-, eq⟩ | ⟨-, eq⟩ := t.beat_cases now
  · rw [eq]
  · obtain ⟨journal, rested⟩ := ({ t with poised := false }.fire now).rest_eq now
    rw [eq, rested]
    exact fire_returned _ now

/-- A quit returns at a step of its own, when it can. -/
theorem apply_returned (past : (t.apply step).returned = true) :
    t.returned = true ∨ step = .acknowledge ∧ t.released = true := by
  obtain owned | ⟨now, rfl⟩ | ⟨now, rfl⟩ | rfl := step.kind
  · unfold apply at past
    split at past
    · exact .inl past
    · by_cases acknowledging : step = .acknowledge
      · subst acknowledging
        obtain eq | ⟨free, -⟩ := t.acknowledge_cases
        · exact .inl (eq ▸ past)
        · exact .inr ⟨rfl, free⟩
      · exact .inl ((t.perform_meddles owned acknowledging).returned ▸ past)
  · rw [apply_look, look_returned] at past
    exact .inl past
  · rw [apply_beat, beat_returned] at past
    exact .inl past
  · simp only [apply, perform, abort, Step.needsOwner, Bool.and_false, Bool.false_eq_true,
      if_false] at past
    split at past <;> exact .inl past

/-- Who is poised to beat has not ended, and who has ended is not poised again. -/
theorem Settled.clear_apply (settled : Settled t) (hosted : step ≠ .abort)
    (past : (t.apply step).ended = true) : (t.apply step).poised = false := by
  obtain owned | ⟨now, rfl⟩ | ⟨now, rfl⟩ | rfl := step.kind
  · have leads := t.apply_leads owned
    exact leads.poised.trans (settled.clear (leads.ended ▸ past))
  · rw [apply_look] at past ⊢
    obtain ⟨-, eq⟩ | ⟨⟨clear, due⟩, ⟨-, eq⟩ | ⟨-, eq⟩⟩ := t.look_cases now
    · rw [eq] at past ⊢
      exact settled.clear past
    · have ended : t.ended = true := by
        rw [eq] at past
        exact t.start_leads.ended.symm.trans past
      rw [not_due_of_ended ended now] at due
      cases due
    · rw [eq]
      exact (t.final_leads now).poised.trans clear
  · rw [apply_beat] at past ⊢
    obtain ⟨clear, eq⟩ | ⟨poised, -⟩ := t.beat_cases now
    · rwa [eq]
    · exact (beat_spec poised now).2.2.1
  · exact absurd rfl hosted

theorem Settled.apply (settled : Settled t) (hosted : step ≠ .abort) : Settled (t.apply step) where
  clear := settled.clear_apply hosted
  returned past := by
    have before : t.metronome.closed = true ∧ t.ended = true := by
      rcases apply_returned past with before | ⟨-, free⟩
      · exact settled.returned before
      · simp only [released, Bool.and_eq_true] at free
        exact free.1
    have gone : Over t := ⟨by simp [Metronome.cancelled, before.1], before.2, settled.clear before.2⟩
    exact ⟨(t.apply_heeds step).closed.mpr (.inl before.1), (gone.apply hosted).1.ended⟩

theorem Settled.run (settled : Settled t) (hosted : Step.abort ∉ steps) :
    Settled (run steps t) := by
  induction steps generalizing t with
  | nil => exact settled
  | cons step steps ih =>
    simp only [List.mem_cons, not_or] at hosted
    exact ih (settled.apply (Ne.symm hosted.1)) hosted.2

/-! ### The last beat -/

end Ticker
end Lanes
