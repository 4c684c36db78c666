import Lanes.Proofs.Pool.Calls
import Lanes.Proofs.Pool.Directory

/-!
# Tables along a run

As long as nobody changes tables from outside, the table of a lane changes when the handler is
called for this lane, and not otherwise. So it can be told of each step which objects it takes off
their lanes, and how many are bound on all lanes together.
-/
namespace Lanes

section Moves
variable {α β γ σ : Type} {h : Handler α β γ σ} {lane lane' : Lane α β γ}
  {events : List (LaneEvent α β)}

/-- Without a call of the handler a move leaves the table as it is. -/
theorem Lane.Move.table_of_uncalled (m : Move h .unedited lane events lane')
    (uncalled : Mailbox.handlings (LaneEvent.inMailbox events) = []) :
    lane'.table = lane.table := by
  cases m with
  | setTable edited => exact edited.elim
  | retime ok =>
    obtain ⟨metronome, period, -, rfl⟩ := retime_eq ok
    rfl
  | dispatch => simp at uncalled
  | beat => exact lane.beat_keeps.2.2.1
  | lastBeat => exact lane.beat_keeps.2.2.1
  | _ => rfl

theorem Lane.Moves.table_of_uncalled (m : Moves h .unedited lane events lane')
    (uncalled : Mailbox.handlings (LaneEvent.inMailbox events) = []) :
    lane'.table = lane.table := by
  induction m with
  | refl => rfl
  | tail _ last ih =>
    rw [LaneEvent.inMailbox_append, Mailbox.handlings_append] at uncalled
    obtain ⟨earlier, now⟩ := List.append_eq_nil_iff.mp uncalled
    exact (last.table_of_uncalled now).trans (ih earlier)

end Moves

namespace Pool
variable {α β γ σ : Type} {h : Handler α β γ σ} {p p' : Pool α β γ σ} {k : Nat}

/-- How many objects are bound on all lanes. -/
def bound (p : Pool α β γ σ) : Nat := (p.lanes.flatMap (fun lane => lane.table.entries)).length

/-- The objects that the lane at a place has lost in another state of the pool. -/
def leaving (p p' : Pool α β γ σ) (k : Nat) : List (LaneId × ObjectId × γ) :=
  match p.lanes[k]? with
  | none => []
  | some lane => (lane.table.lost (p'.tableAt k)).map (fun entry => (lane.id, entry))

/-- The objects that lanes have lost in another state of the pool. -/
def departures (p p' : Pool α β γ σ) : List (LaneId × ObjectId × γ) :=
  (List.range p.lanes.length).flatMap (p.leaving p')

theorem leaving_of_same (same : p'.tableAt k = p.tableAt k) : p.leaving p' k = [] := by
  unfold leaving
  cases at_ : p.lanes[k]? with
  | none => rfl
  | some lane => simp [same, tableAt_eq at_, Table.lost_self]

/-- Where only one lane has another table than before, only this lane has lost something. -/
theorem departures_of_one (others : ∀ j, j ≠ k → p'.tableAt j = p.tableAt j) :
    p.departures p' = p.leaving p' k := by
  have quiet (j : Nat) (apart : j ≠ k) : p.leaving p' j = [] := leaving_of_same (others j apart)
  have upTo (n : Nat) :
      (List.range n).flatMap (p.leaving p') = if k < n then p.leaving p' k else [] := by
    induction n with
    | zero => rfl
    | succ n ih =>
      rw [List.range_succ, List.flatMap_append, ih, List.flatMap_singleton]
      by_cases here : n = k
      · subst here
        simp
      · rw [quiet n here, List.append_nil]
        have next : k < n + 1 ↔ k < n := by omega
        simp only [next]
  rw [departures, upTo]
  split
  · rfl
  · next beyond =>
    have gone : p.lanes[k]? = none := List.getElem?_eq_none_iff.mpr (Nat.le_of_not_lt beyond)
    simp [leaving, gone]

theorem departures_of_same (same : ∀ k, p'.tableAt k = p.tableAt k) : p.departures p' = [] := by
  rw [departures_of_one (k := 0) fun j _ => same j, leaving_of_same (same 0)]

/-- Places at which there is no lane yet count for nothing. -/
theorem bound_eq (p : Pool α β γ σ) {n : Nat} (enough : p.lanes.length ≤ n) :
    p.bound = ((List.range n).flatMap (fun k => (p.tableAt k).entries)).length := by
  unfold bound tableAt
  congr 1
  induction n generalizing p with
  | zero =>
    have none : p.lanes = [] := List.length_eq_zero_iff.mp (Nat.le_zero.mp enough)
    rw [none]
    rfl
  | succ n ih =>
    rw [List.range_succ_eq_map, List.flatMap_cons, List.flatMap_map]
    cases lanes : p.lanes with
    | nil => simp [OrderedMap.empty]
    | cons lane lanes' =>
      have fits : lanes'.length ≤ n := by
        rw [lanes, List.length_cons] at enough
        omega
      have rest := ih { p with lanes := lanes' } fits
      simpa using rest

theorem bound_of_same (same : ∀ k, p'.tableAt k = p.tableAt k)
    (more : p.lanes.length ≤ p'.lanes.length) : p'.bound = p.bound := by
  rw [p'.bound_eq (Nat.le_refl _), p.bound_eq more]
  simp only [same]

/-- A change of one table changes the number of all bound objects as it changes the table's. -/
theorem bound_of_one (others : ∀ j, j ≠ k → p'.tableAt j = p.tableAt j)
    (length : p'.lanes.length = p.lanes.length) (there : k < p.lanes.length) :
    p'.bound + (p.tableAt k).size = p.bound + (p'.tableAt k).size := by
  have upTo (n : Nat) :
      ((List.range n).flatMap (fun j => (p'.tableAt j).entries)).length +
          (if k < n then (p.tableAt k).size else 0) =
        ((List.range n).flatMap (fun j => (p.tableAt j).entries)).length +
          (if k < n then (p'.tableAt k).size else 0) := by
    induction n with
    | zero => rfl
    | succ n ih =>
      rw [List.range_succ, List.flatMap_append, List.flatMap_append, List.flatMap_singleton,
        List.flatMap_singleton, List.length_append, List.length_append]
      by_cases here : n = k
      · subst here
        simp only [Nat.lt_irrefl, if_false] at ih
        rw [if_pos (Nat.lt_succ_self n), if_pos (Nat.lt_succ_self n)]
        simp only [OrderedMap.size]
        omega
      · have next : k < n + 1 ↔ k < n := by omega
        simp only [others n here, next]
        omega
  have all := upTo p.lanes.length
  rw [if_pos there, if_pos there] at all
  rwa [p'.bound_eq (Nat.le_of_eq length), p.bound_eq (Nat.le_refl _)]

/-- A dispatch leaves the lane with the table that the handler has made of the lane's, and the
handler with what it remembers from then on. -/
theorem consume_results {lane : Lane α β γ} {envelope : Envelope (LaneMessage α)}
    (at_ : p.lanes[k]? = some lane) (turn : lane.mailbox.turn = .dispatch envelope)
    (now : Moment) :
    let taken := p.updateLane k (·.take envelope.payload)
    let handled := handle h now lane.id lane.table envelope.payload taken
    (p.consume h now k).tableAt k = handled.1.2.1 ∧ (p.consume h now k).memory = handled.1.2.2 := by
  intro taken handled
  obtain ⟨during, mailbox, -, -, there, -⟩ :=
    (handle_admits h now lane.id lane.table envelope.payload taken).lane
      (lane_updateLane_self at_ _)
  have consumed : p.consume h now k = p.dispatch h now k lane envelope := by
    simp only [consume, at_, turn]
  obtain ⟨last, left, table⟩ : ∃ last, (p.dispatch h now k lane envelope).lanes[k]? = some last ∧
      last.table = handled.1.2.1 := by
    simp only [dispatch, lanes_note]
    exact ⟨_, lane_updateLane_self there _, rfl⟩
  rw [consumed, tableAt_eq left]
  exact ⟨table, rfl⟩

end Pool

namespace RunningPool
variable {α β γ σ : Type} {h : Handler α β γ σ} {s : RunningPool α β γ σ} {step : Step α γ σ}
  {k : Nat}

theorem apply_length_le (s : RunningPool α β γ σ) (step : Step α γ σ) :
    s.pool.lanes.length ≤ (s.apply h step).pool.lanes.length := by
  by_contra fewer
  have below : (s.apply h step).pool.lanes.length < s.pool.lanes.length := Nat.lt_of_not_le fewer
  obtain ⟨lane, events, there, -⟩ :=
    (s.apply_evolves (h := h) step).lane (List.getElem?_eq_getElem below)
  simp at there

/-- The table of a lane for which the handler is not called stays as it is. -/
theorem apply_tableAt (within : step.Within .unedited) (uncalled : s.pool.calls h k step = []) :
    (s.apply h step).pool.tableAt k = s.pool.tableAt k := by
  have evolves : Pool.Evolves h .unedited s.pool (s.apply h step).pool :=
    s.apply_evolves_within (fun _ _ => trivial) within
  have shown := s.apply_handlings (h := h) step k
  rw [uncalled, List.map_nil, List.append_nil] at shown
  have quiet {events} (told : (s.apply h step).pool.laneEvents k = s.pool.laneEvents k ++ events) :
      Mailbox.handlings (LaneEvent.inMailbox events) = [] := by
    rw [told, LaneEvent.inMailbox_append, Mailbox.handlings_append] at shown
    exact List.append_right_eq_self.mp shown
  cases at_ : s.pool.lanes[k]? with
  | some lane =>
    obtain ⟨lane', events, there, told, moves⟩ := evolves.lane at_
    rw [Pool.tableAt_eq there, Pool.tableAt_eq at_]
    exact moves.table_of_uncalled (quiet told)
  | none =>
    obtain ⟨gone, -⟩ | ⟨id, tick, lane', events, there, told, moves⟩ := evolves.absent at_
    · rw [Pool.tableAt, Pool.tableAt, gone, at_]
    · rw [Pool.tableAt_eq there, moves.table_of_uncalled (quiet told), Pool.tableAt, at_]
      rfl

/-- A step calls the handler for one lane at most. -/
theorem calls_of_other {now : Moment} {place : Nat} (apart : k ≠ place) (p : Pool α β γ σ) :
    p.calls h k (.consume now place) = [] := by
  simp [Pool.calls, Ne.symm apart]

end RunningPool
end Lanes
