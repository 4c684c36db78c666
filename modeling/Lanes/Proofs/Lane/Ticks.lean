import Lanes.Proofs.Lane.Shutdown

/-!
# Ticks of a lane

A lane marks whether a tick waits in its mailbox. As long as its host stays up the mark is right,
and no more than one tick waits. So a beat adds a tick when none waits and there is room for it, and
otherwise it changes nothing.
-/
namespace Lanes

def LaneMessage.isTick {α : Type} : LaneMessage α → Bool
  | tick => true
  | request _ => false

@[simp] theorem LaneMessage.isTick_tick {α : Type} : (tick : LaneMessage α).isTick = true := rfl

@[simp] theorem LaneMessage.isTick_request {α : Type} (payload : α) :
    (request payload).isTick = false := rfl

namespace Lane
variable {α β γ σ : Type} {h : Handler α β γ σ} {outer : Influence α γ} {lane lane' : Lane α β γ}
  {events : List (LaneEvent α β)}

/-- Number of ticks that wait. -/
def ticks (lane : Lane α β γ) : Nat := lane.mailbox.buffer.countP (·.payload.isTick)

/-- At most one tick waits, and the mark says whether one does. -/
def Metered (lane : Lane α β γ) : Prop := lane.ticks = lane.tickPending.toNat

theorem Metered.new (id : LaneId) (capacity : Nat) (tick : Option Duration) :
    (new id capacity tick : Lane α β γ).Metered := rfl

/-- Requests are no ticks. -/
theorem countP_requests {envelopes : List (Envelope (LaneMessage α))} {P : α → Prop}
    (requests : ∀ e ∈ envelopes, ∃ request, P request ∧ e.payload = .request request) :
    envelopes.countP (·.payload.isTick) = 0 := by
  rw [List.countP_eq_zero]
  intro e mem
  obtain ⟨request, -, is⟩ := requests e mem
  simp [is]

theorem ticks_eq_zero_iff : lane.ticks = 0 ↔ ∀ e ∈ lane.mailbox.buffer, e.payload ≠ .tick := by
  rw [ticks, List.countP_eq_zero]
  refine forall₂_congr fun e _ => ?_
  cases e.payload <;> simp

/-- The mailbox takes a tick. -/
def Ready (lane : Lane α β γ) : Prop :=
  (∀ e ∈ lane.mailbox.buffer, e.payload ≠ .tick) ∧ lane.mailbox.closed = false ∧
    lane.mailbox.size < lane.mailbox.capacity

/-- The lane once a tick is put behind what waits. -/
def ticked (lane : Lane α β γ) : Lane α β γ :=
  { lane with
    mailbox := lane.mailbox.put ⟨lane.mailbox.accepted, .tick, false⟩
    tickPending := true }

/-- A beat puts a tick into a mailbox that takes it, and leaves any other as it is. -/
theorem Metered.beat (metered : lane.Metered)
    (admits : lane.mailbox.closed = false → lane.mailbox.phase.admits = true) :
    lane.Ready ∧ lane.beat.2.2 = lane.ticked ∨ ¬ lane.Ready ∧ lane.beat.2.2 = lane := by
  have full {capacity : Nat} (refused : lane.mailbox.refusal = some (.queueFull capacity)) :
      ¬ lane.mailbox.size < lane.mailbox.capacity := by
    unfold Mailbox.refusal at refused
    split at refused
    · cases refused
    · split at refused
      · omega
      · cases refused
  have shut (refused : lane.mailbox.refusal = some .alreadyClosed) :
      lane.mailbox.closed = true := by
    cases closed : lane.mailbox.closed with
    | true => rfl
    | false => simp [Mailbox.refusal, closed, admits closed] at refused
  rcases lane.beat_cases with ⟨pending, eq⟩ | ⟨idle, envelope, mailbox, ok, eq⟩ |
    ⟨-, refused, eq⟩ | ⟨-, refused, eq⟩
  · refine .inr ⟨?_, by rw [eq]⟩
    rintro ⟨none, -⟩
    rw [Metered, ticks_eq_zero_iff.mpr none, pending] at metered
    cases metered
  · obtain ⟨open', rfl, rfl⟩ := Mailbox.accept?_eq_ok_iff.mp ok
    obtain ⟨opened, -, room⟩ := Mailbox.refusal_eq_none_iff.mp open'
    refine .inl ⟨⟨ticks_eq_zero_iff.mp ?_, opened, room⟩, by rw [eq]; rfl⟩
    rw [metered, idle]
    rfl
  · refine .inr ⟨?_, by rw [eq]⟩
    rintro ⟨-, opened, -⟩
    rw [shut refused] at opened
    cases opened
  · exact .inr ⟨fun ready => full refused ready.2.2, by rw [eq]⟩

theorem Metered.beaten (metered : lane.Metered) (metronome : Option Metronome) :
    ({ lane.beat.2.2 with metronome } : Lane α β γ).Metered := by
  rcases lane.beat_cases with ⟨-, eq⟩ | ⟨idle, envelope, mailbox, ok, eq⟩ | ⟨-, -, eq⟩ | ⟨-, -, eq⟩
  case inr.inl =>
    obtain ⟨-, rfl, rfl⟩ := Mailbox.accept?_eq_ok_iff.mp ok
    have none : lane.ticks = 0 := by rw [metered, idle]; rfl
    simp only [Metered, ticks] at none ⊢
    simp [eq, Mailbox.put, none]
  all_goals
    rw [eq]
    exact metered

theorem Move.metered (m : Move h outer lane events lane') (up : ¬ outer.aborts)
    (metered : lane.Metered) : lane'.Metered := by
  cases m with
  | accept _ ok =>
    obtain ⟨-, rfl, rfl⟩ := Mailbox.accept?_eq_ok_iff.mp ok
    simpa [Metered, ticks, Mailbox.put] using metered
  | retime ok =>
    obtain ⟨metronome, period, -, rfl⟩ := retime_eq ok
    exact metered
  | close _ _ ok =>
    obtain ⟨-, rfl⟩ := Mailbox.close?_eq_ok_iff.mp ok
    exact metered
  | @dispatch envelope during mailbox _ _ turn meanwhile requests _ =>
    have first := (Mailbox.buffer_of_turn_dispatch turn).1
    have others := countP_requests requests
    obtain rfl := meanwhile.eq
    simp only [Metered, ticks, first, List.countP_cons] at metered
    cases is : envelope.payload with
    | request => simpa [Metered, ticks, Lane.take, is, others] using metered
    | tick =>
      simp only [is, LaneMessage.isTick_tick, if_true] at metered
      have le : lane.tickPending.toNat ≤ 1 := Bool.toNat_le _
      simp only [Metered, ticks, Lane.take, Mailbox.answer_buffer, List.countP_append, others,
        Bool.toNat_false]
      omega
  | beat => exact metered.beaten _
  | lastBeat => exact metered.beaten _
  | abort down => exact absurd down up
  | _ => exact metered

/-- Between moves the mark is right. -/
theorem Moves.metered (m : Moves h outer lane events lane') (up : ¬ outer.aborts)
    (metered : lane.Metered) : lane'.Metered :=
  m.keeps (fun move => move.metered up) metered

end Lane
end Lanes
