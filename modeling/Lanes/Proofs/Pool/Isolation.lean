import Lanes.Proofs.Pool.Offers

/-!
# Isolation of lanes

What happens to a lane is told by the lane's own events: the submissions to it, the steps of its
consumer and its ticker, changes of its table and its period, the calls of quit that stop it, and
the end of the host. If they are repeated in a pool in which the lane is the only one, it decides
on the same submissions in the same way, the handler is called for it with the same arguments and
ends the same way, and it comes to the same state. So two runs that agree on a lane's own events
agree on the lane, whatever else happens in them.
-/
namespace Lanes

/-- A call of the handler for a lane, with what it is given and how it ends. -/
inductive Invocation (α β γ : Type) where
  | process (now : Moment) (request : α) (table : Table γ) (outcome : Outcome β)
  | onTick (now : Moment) (table : Table γ) (outcome : Outcome Unit)
  | onQuit (now : Moment) (outcome : Outcome Unit)

namespace Pool
variable {α β γ σ : Type} {h : Handler α β γ σ} {p q : Pool α β γ σ} {k j : Nat}
  {lane : Lane α β γ}

/-- The handler's calls in a step for the lane at a place, farewells included. -/
def invocations (h : Handler α β γ σ) (k : Nat) (p : Pool α β γ σ) :
    RunningPool.Step α γ σ → List (Invocation α β γ)
  | .consume now place =>
    if place = k then
      match p.lanes[place]? with
      | none => []
      | some lane =>
        match lane.mailbox.turn with
        | .dispatch ⟨_, .request request, _⟩ =>
          [.process now request lane.table (p.requestOutcome h now place lane request)]
        | .dispatch ⟨_, .tick, _⟩ => [.onTick now lane.table (p.tickOutcome h now lane)]
        | .finish => [.onQuit now (h.onQuit lane.id now p.memory).1]
        | _ => []
    else []
  | _ => []

theorem Alike.invocations_consume (alike : Alike p k q j) (at_ : p.lanes[k]? = some lane)
    (secluded : h.Secluded lane.id) (now : Moment) :
    p.invocations h k (.consume now k) = q.invocations h j (.consume now j) := by
  dsimp only [invocations]
  rw [if_pos rfl, if_pos rfl, at_, alike.there at_]
  dsimp only
  cases lane.mailbox.turn with
  | dispatch envelope =>
    obtain ⟨serial, message, wantsReply⟩ := envelope
    cases message with
    | request request =>
      obtain ⟨asks, outcome, table, recites⟩ := secluded.process now request lane.table
      have told (p : Pool α β γ σ) (k : Nat) : p.requestOutcome h now k lane request = outcome :=
        congrArg Prod.fst ((recites p.memory).runs Pool.forward _).2
      dsimp only
      rw [told, told]
    | tick =>
      obtain ⟨outcome, table, told⟩ := secluded.onTick now lane.table
      have told (p : Pool α β γ σ) : p.tickOutcome h now lane = outcome := by
        obtain ⟨memory, eq⟩ := told p.memory
        rw [tickOutcome, eq]
      dsimp only
      rw [told, told]
  | finish =>
    obtain ⟨outcome, told⟩ := secluded.onQuit now
    dsimp only
    rw [told, told]
  | _ => rfl

end Pool

/-- A request that is offered to a lane, as a step of a caller. -/
def Offer.step {α γ σ : Type} (offer : Offer α) : RunningPool.Step α γ σ :=
  .submit offer.place offer.request offer.wantsReply

namespace RunningPool
variable {α β γ σ : Type} {h : Handler α β γ σ} {s t : RunningPool α β γ σ} {k : Nat}
  {lane : Lane α β γ} {step : Step α γ σ}

/-! ### The events of one lane -/

/-- The stops of the lane at a place in all calls of quit. -/
def stagesOf (k : Nat) (quits : List (List LaneStop)) : List StopStage :=
  quits.flatMap (Pool.stagesAt k)

/-- What a step means to the lane at a place, told to a pool whose first lane it is. A call of quit
that goes on concerns the lane until it has stopped. -/
def happenings (h : Handler α β γ σ) (k : Nat) (s : RunningPool α β γ σ) :
    Step α γ σ → List (Step α γ σ)
  | .retime place seconds => if place = k then [.retime 0 seconds] else []
  | .edit place change => if place = k then [.edit 0 change] else []
  | .setObject object value =>
    if (s.pool.owner object).1.toOption = some k then [.edit 0 (Table.binding object value)]
    else []
  | .removeObject object =>
    if (s.pool.owner object).1.toOption = some k then [.edit 0 (Table.unbinding object)] else []
  | .tick now place => if place = k then [.tick now 0] else []
  | .quit => if k ∈ s.pool.roster.entries.map Prod.snd then [.quit] else []
  | .resume call =>
    if (Pool.stagesAt k ((s.quits[call]?).getD [])).all (· = .finished) then [] else [.resume 0]
  | .abort => [.abort]
  | .consume now place =>
    if place = k then [.consume now 0]
    else (Offer.redirect k 0 (s.pool.prompted h now place)).map Offer.step
  | step => (Offer.redirect k 0 (s.pool.offers h step)).map Offer.step

/-- Growth by which the lane at a place is made, as growth by this lane alone. -/
def birth (k : Nat) (p : Pool α β γ σ) : Step α γ σ → List (Step α γ σ)
  | .grow count tick => if k < (p.grow count tick).2.lanes.length then [.grow 1 tick] else []
  | _ => []

/-- A lane's own events in a step. -/
def own (h : Handler α β γ σ) (k : Nat) (s : RunningPool α β γ σ) (step : Step α γ σ) :
    List (Step α γ σ) :=
  if k < s.pool.lanes.length then happenings h k s step else birth k s.pool step

/-- A lane's own events in a run. -/
def ownRun (h : Handler α β γ σ) (k : Nat) :
    List (Step α γ σ) → RunningPool α β γ σ → List (Step α γ σ)
  | [], _ => []
  | step :: steps, s => own h k s step ++ ownRun h k steps (s.apply h step)

/-- A pool without lanes, whose next lane gets the given id. -/
def awaiting (config : PoolConfig) (id : LaneId) (generator : Generator) (memory : σ) :
    RunningPool α β γ σ :=
  ⟨{ Pool.new config generator memory with laneCount := (id - 1).toNat }, []⟩

/-- What a run shows of the lane at a place: how it decides on submissions, the calls of the
handler for it, its events, and the lane itself with its replies and its table. -/
structure Course (α β γ : Type) where
  submissions : List (Submission α)
  invocations : List (Invocation α β γ)
  events : List (LaneEvent α β)
  lane : Option (Lane α β γ)

def course (h : Handler α β γ σ) (k : Nat) (steps : List (Step α γ σ))
    (s : RunningPool α β γ σ) : Course α β γ where
  submissions := along h (Pool.submissions h k) steps s
  invocations := along h (Pool.invocations h k) steps s
  events := (run h steps s).pool.laneEvents k
  lane := (run h steps s).pool.lanes[k]?

/-! ### One step -/

/-- The lane at a place is like the first lane of another pool, and the calls of quit have come
equally far with both. -/
structure Follows (k : Nat) (s t : RunningPool α β γ σ) : Prop where
  alike : Pool.Alike s.pool k t.pool 0
  stages : stagesOf k s.quits = stagesOf 0 t.quits
  called : t.quits.length = (stagesOf k s.quits).length
  once : (stagesOf k s.quits).length ≤ 1
  untold : s.pool.Live k → stagesOf k s.quits = []

/-- Some steps bring about for the first lane of one pool what a step brings about for the lane at
a place of another. -/
structure Repeats (h : Handler α β γ σ) (k : Nat) (s : RunningPool α β γ σ) (step : Step α γ σ)
    (t : RunningPool α β γ σ) (steps : List (Step α γ σ)) : Prop where
  follows : Follows k (s.apply h step) (run h steps t)
  submissions : along h (Pool.submissions h 0) steps t = s.pool.submissions h k step
  invocations : along h (Pool.invocations h 0) steps t = s.pool.invocations h k step

theorem apply_live_of (same : .grown ∉ step.changes) (live : (s.apply h step).pool.Live k) :
    s.pool.Live k := by
  obtain ⟨changes, rerouted, only⟩ := s.apply_reroutes (h := h) step
  exact rerouted.live (fun grown => same (only grown)) live

theorem submissions_eq (below : k < s.pool.lanes.length) (step : Step α γ σ) :
    s.pool.submissions h k step =
      Pool.heard k (s.pool.offers h step) (s.pool.during step) := if_pos below

/-- The calls of quit have come no further. -/
theorem Follows.still (follows : Follows k s t) {s' t' : RunningPool α β γ σ}
    (alike : Pool.Alike s'.pool k t'.pool 0)
    (quits : stagesOf k s'.quits = stagesOf k s.quits)
    (calls : t'.quits = t.quits) (live : s'.pool.Live k → s.pool.Live k) : Follows k s' t' where
  alike := alike
  stages := by rw [quits, calls, follows.stages]
  called := by rw [quits, calls, follows.called]
  once := by rw [quits]; exact follows.once
  untold alive := by rw [quits]; exact follows.untold (live alive)

namespace Follows

/-- A step that makes no difference to the lane is not its own. -/
theorem idle (follows : Follows k s t) (alike : Pool.Alike s.pool k (s.apply h step).pool k)
    (quits : stagesOf k (s.apply h step).quits = stagesOf k s.quits)
    (silent : s.pool.submissions h k step = [])
    (uncalled : s.pool.invocations h k step = []) : Repeats h k s step t [] where
  follows := follows.still (alike.symm.trans follows.alike) quits rfl
    fun ⟨id, listed⟩ => ⟨id, (alike.live id).mpr listed⟩
  submissions := silent.symm
  invocations := uncalled.symm

/-- One step of the same kind for both lanes. -/
theorem single (follows : Follows k s t) {step' : Step α γ σ}
    (alike : Pool.Alike (s.apply h step).pool k (t.apply h step').pool 0)
    (quits : (s.apply h step).quits = s.quits) (calls : (t.apply h step').quits = t.quits)
    (same : .grown ∉ step.changes)
    (decided : t.pool.submissions h 0 step' = s.pool.submissions h k step)
    (called : t.pool.invocations h 0 step' = s.pool.invocations h k step) :
    Repeats h k s step t [step'] where
  follows := follows.still alike (congrArg _ quits) calls (apply_live_of same)
  submissions := by rw [along_cons, along_nil, List.append_nil, decided]
  invocations := by rw [along_cons, along_nil, List.append_nil, called]

end Follows

/-- Offers to the first lane are made one after the other. -/
theorem run_offers (offers : List (Offer α)) (all : ∀ offer ∈ offers, offer.place = 0)
    (below : 0 < t.pool.lanes.length) :
    run h (offers.map Offer.step) t = { t with pool := Pool.offerAll offers t.pool } ∧
      along h (Pool.submissions h 0) (offers.map Offer.step) t = Pool.heard 0 offers t.pool ∧
      along h (Pool.invocations h 0) (offers.map Offer.step) t = [] := by
  induction offers generalizing t with
  | nil => exact ⟨rfl, rfl, rfl⟩
  | cons offer rest ih =>
    obtain ⟨here, later⟩ := List.forall_mem_cons.mp all
    have made : t.apply h offer.step = { t with
        pool := (t.pool.deliver offer.place (.request offer.request) offer.wantsReply).2 } :=
      congrArg (RunningPool.mk · t.quits) (t.pool.submit_snd ..)
    have still : 0 < (t.apply h offer.step).pool.lanes.length := by
      rw [made, (t.pool.deliver_admits offer.place offer.request offer.wantsReply).length]
      exact below
    obtain ⟨ran, decided, uncalled⟩ := ih later still
    rw [List.map_cons, run_cons, along_cons, along_cons, ran, decided, uncalled,
      submissions_eq below, made]
    refine ⟨rfl, ?_, rfl⟩
    simp only [Pool.offers, Offer.step, Pool.during, Pool.heard, here, if_true]
    rfl

theorem stagesOf_set {quits : List (List LaneStop)} {call : Nat} {stops : List LaneStop}
    (waits : quits[call]? = some stops) (k : Nat) : ∃ earlier later,
      stagesOf k quits = earlier ++ Pool.stagesAt k stops ++ later ∧
      ∀ stops', stagesOf k (quits.set call stops') =
        earlier ++ Pool.stagesAt k stops' ++ later := by
  obtain ⟨below, rfl⟩ := List.getElem?_eq_some_iff.mp waits
  have replaced (stops' : List LaneStop) : stagesOf k (quits.set call stops') =
      stagesOf k (quits.take call) ++ Pool.stagesAt k stops' ++
        stagesOf k (quits.drop (call + 1)) := by
    rw [List.set_eq_take_append_cons_drop, if_pos below]
    simp [stagesOf]
  refine ⟨_, _, ?_, replaced⟩
  rw [← replaced, List.set_getElem_self]

theorem submissions_of_none {p : Pool α β γ σ} (none : p.offers h step = []) :
    p.submissions h k step = [] := by
  unfold Pool.submissions
  rw [none]
  split <;> rfl

namespace Follows

/-- Offers to the lane are made to the other one as well. -/
theorem offered (follows : Follows k s t) (at_ : s.pool.lanes[k]? = some lane)
    {p : Pool α β γ σ} {offers : List (Offer α)} (before : Pool.Alike s.pool k p k)
    (after : Pool.Alike (Pool.offerAll offers p) k (s.apply h step).pool k)
    (quits : (s.apply h step).quits = s.quits) (same : .grown ∉ step.changes)
    (decided : s.pool.submissions h k step = Pool.heard k offers p)
    (uncalled : s.pool.invocations h k step = []) :
    Repeats h k s step t ((Offer.redirect k 0 offers).map Offer.step) := by
  have alike : Pool.Alike p k t.pool 0 := before.symm.trans follows.alike
  have below : k < p.lanes.length := (List.getElem?_eq_some_iff.mp (before.there at_)).1
  have there : 0 < t.pool.lanes.length :=
    (List.getElem?_eq_some_iff.mp (follows.alike.there at_)).1
  obtain ⟨ran, heard, none⟩ := run_offers (h := h) (Offer.redirect k 0 offers)
    (fun _ mem => Offer.mem_redirect mem) there
  constructor
  · rw [ran]
    exact follows.still (after.symm.trans (alike.offerAll offers)) (congrArg _ quits) rfl
      (apply_live_of same)
  · rw [heard, decided, alike.heard below offers]
  · rw [none, uncalled]

/-- The call of quit that takes a live lane begins to stop it. -/
theorem quit_live (follows : Follows k s t) (sound : s.pool.Sound)
    (at_ : s.pool.lanes[k]? = some lane) (live : s.pool.Live k) :
    Repeats h k s .quit t [.quit] := by
  have only (id : LaneId) : s.pool.roster.get? id = some k ↔ id = lane.id := by
    have named {id : LaneId} (listed : s.pool.roster.get? id = some k) : lane.id = id := by
      obtain ⟨lane', at', is⟩ := sound.lane listed
      obtain rfl := Option.some.inj (at_.symm.trans at')
      exact is
    constructor
    · intro listed
      exact (named listed).symm
    · rintro rfl
      obtain ⟨id, listed⟩ := live
      exact (named listed) ▸ listed
  have only' (id : LaneId) : t.pool.roster.get? id = some 0 ↔ id = lane.id :=
    (follows.alike.live id).symm.trans (only id)
  obtain ⟨alike, stages⟩ := follows.alike.beginQuit only
  obtain ⟨alike', stages'⟩ := (Pool.Alike.refl t.pool 0).beginQuit only'
  have untold := follows.untold live
  -- What a call of quit has taken is listed no more, so no earlier call has taken the lane.
  have noCalls : t.quits = [] := by
    rw [← List.length_eq_zero_iff, follows.called, untold]
    rfl
  have stopping : stagesOf k (s.apply h .quit).quits = Pool.stagesAt k s.pool.beginQuit.1 := by
    simp only [apply, stagesOf, List.flatMap_append, List.flatMap_singleton]
    exact (congrArg (· ++ _) untold).trans (List.nil_append _)
  have stopping' : (t.apply h .quit).quits = [t.pool.beginQuit.1] := by
    simp only [apply, noCalls, List.nil_append]
  rw [stages] at stopping
  refine ⟨?_, ?_, rfl⟩
  · refine ⟨alike.trans alike'.symm, ?_, ?_, ?_, ?_⟩
    · rw [run_cons, run_nil, stopping, stopping', stagesOf, List.flatMap_singleton, stages']
    · rw [run_cons, run_nil, stopping, stopping']
      rfl
    · rw [stopping]
      exact Nat.le_refl 1
    · rintro ⟨id, listed⟩
      have gone : (s.apply h .quit).pool.roster = .empty := s.pool.beginQuit_vacant.roster
      rw [gone] at listed
      simp at listed
  · rw [along_cons, along_nil, submissions_of_none rfl, submissions_of_none rfl]
    rfl

/-- A call of quit has the lane once, if it has it. -/
theorem stagesAt_cases (follows : Follows k s t) {call : Nat} {stops : List LaneStop}
    (waits : s.quits[call]? = some stops) :
    Pool.stagesAt k stops = [] ∨ ∃ stage, Pool.stagesAt k stops = [stage] := by
  obtain ⟨earlier, later, all, -⟩ := stagesOf_set waits k
  have few := follows.once
  rw [all, List.length_append, List.length_append] at few
  cases stages : Pool.stagesAt k stops with
  | nil => exact .inl rfl
  | cons stage rest =>
    have short : rest.length = 0 := by
      rw [stages, List.length_cons] at few
      omega
    exact .inr ⟨stage, by rw [List.length_eq_zero_iff.mp short]⟩

/-- The call of quit that takes other lanes only is not the lane's own. -/
theorem quit_dead (follows : Follows k s t) (dead : ¬ s.pool.Live k) :
    Repeats h k s .quit t [] := by
  obtain ⟨alike, none⟩ := Pool.beginQuit_alike_of_dead dead
  refine follows.idle alike ?_ (submissions_of_none rfl) rfl
  simp [apply, stagesOf, none]

/-- A call of quit goes on with the stop of the lane. -/
theorem resume (follows : Follows k s t) {call : Nat} {stops : List LaneStop}
    (waits : s.quits[call]? = some stops) {stage : StopStage}
    (once : Pool.stagesAt k stops = [stage]) :
    Repeats h k s (.resume call) t [.resume 0] := by
  obtain ⟨earlier, later, all, replaced⟩ := stagesOf_set waits k
  -- A lane is taken by one call only, so this stop is all there is of it, and the other pool,
  -- which has as many calls as the lane has stops, has one call with this stop in it.
  obtain ⟨rfl, rfl⟩ : earlier = [] ∧ later = [] := by
    have few := follows.once
    rw [all, once, List.length_append, List.length_append, List.length_singleton] at few
    exact ⟨List.length_eq_zero_iff.mp (by omega), List.length_eq_zero_iff.mp (by omega)⟩
  rw [once] at all
  have called := follows.called
  rw [all] at called
  obtain ⟨stops', only⟩ := List.length_eq_one_iff.mp called
  have once' : Pool.stagesAt 0 stops' = [stage] := by
    have same := follows.stages
    rw [all, only, stagesOf, List.flatMap_singleton] at same
    exact same.symm
  obtain ⟨alike, stages⟩ := follows.alike.advanceQuit once
  obtain ⟨alike', stages'⟩ := (Pool.Alike.refl t.pool 0).advanceQuit once'
  have gone : s.apply h (.resume call) = _ := apply_resume waits
  have gone' : t.apply h (.resume 0) =
      ⟨(t.pool.advanceQuit stops').2, [(t.pool.advanceQuit stops').1]⟩ := by
    rw [apply_resume (by rw [only]; rfl), only]
    rfl
  have stopping := replaced (s.pool.advanceQuit stops).1
  rw [stages] at stopping
  refine ⟨?_, ?_, rfl⟩
  · rw [run_cons, run_nil, gone, gone']
    refine ⟨alike.trans alike'.symm, ?_, ?_, ?_, ?_⟩
    · rw [stopping, stagesOf, List.flatMap_singleton, stages']
      rfl
    · rw [stopping]
      rfl
    · rw [stopping]
      exact Nat.le_refl 1
    · intro live
      have before : s.pool.Live k := by
        rw [← gone] at live
        exact apply_live_of (by simp [Step.changes]) live
      rw [follows.untold before] at all
      cases all
  · rw [along_cons, along_nil, submissions_of_none rfl, submissions_of_none rfl]
    rfl

/-- A call of quit that has not to stop the lane, or has stopped it already, goes on without it. -/
theorem resume_without (follows : Follows k s t) {call : Nat} {stops : List LaneStop}
    (waits : s.quits[call]? = some stops)
    (past : Pool.stagesAt k stops = [] ∨ Pool.stagesAt k stops = [.finished]) :
    Repeats h k s (.resume call) t [] := by
  obtain ⟨alike, same⟩ : Pool.Alike s.pool k (s.pool.advanceQuit stops).2 k ∧
      Pool.stagesAt k (s.pool.advanceQuit stops).1 = Pool.stagesAt k stops := by
    rcases past with aside | finished
    · obtain ⟨alike, none⟩ := Pool.advanceQuit_alike_of_aside aside s.pool
      exact ⟨alike, none.trans aside.symm⟩
    · obtain ⟨alike, stages⟩ := (Pool.Alike.refl s.pool k).advanceQuit finished
      exact ⟨alike.symm, stages.trans finished.symm⟩
  obtain ⟨earlier, later, all, replaced⟩ := stagesOf_set waits k
  have gone : s.apply h (.resume call) = _ := apply_resume waits
  refine follows.idle ?_ ?_ (submissions_of_none rfl) rfl
  · rw [gone]
    exact alike
  · rw [gone, all, ← same]
    exact replaced _

theorem resume_missing (follows : Follows k s t) {call : Nat} (missing : s.quits[call]? = none) :
    Repeats h k s (.resume call) t [] := by
  have same : s.apply h (.resume call) = s := by simp [apply, missing]
  refine follows.idle ?_ (by rw [same]) (submissions_of_none rfl) rfl
  rw [same]
  exact .refl _ k

/-- A change of the lane's table is one of the other's. -/
theorem edited (follows : Follows k s t) {change : Table γ → Table γ} {mine : Prop}
    [Decidable mine]
    (alike : Pool.Alike (if mine then s.pool.setTable k (change (s.pool.tableAt k)) else s.pool) k
      (s.apply h step).pool k)
    (quits : (s.apply h step).quits = s.quits) (same : .grown ∉ step.changes)
    (silent : s.pool.offers h step = []) (uncalled : s.pool.invocations h k step = []) :
    Repeats h k s step t (if mine then [.edit 0 change] else []) := by
  split
  · next here =>
    rw [if_pos here] at alike
    refine follows.single (alike.symm.trans (follows.alike.setTable change)) quits rfl same ?_
      uncalled.symm
    rw [submissions_of_none rfl, submissions_of_none silent]
  · next aside =>
    rw [if_neg aside] at alike
    exact follows.idle alike (congrArg _ quits) (submissions_of_none silent) uncalled

/-- Whatever a step is, the lane's own events in it repeat what it brings about for the lane. -/
theorem repeats (follows : Follows k s t) (sound : s.pool.Sound)
    (at_ : s.pool.lanes[k]? = some lane) (secluded : h.Secluded lane.id) (step : Step α γ σ) :
    Repeats h k s step t (own h k s step) := by
  have below : k < s.pool.lanes.length := (List.getElem?_eq_some_iff.mp at_).1
  rw [own, if_pos below]
  cases step with
  | grow count tick =>
    exact follows.idle (sound.grow_alike at_ count tick) rfl (submissions_of_none rfl) rfl
  | target object affinity =>
    exact follows.idle (.of_same (s.pool.target_same object affinity) k) rfl
      (submissions_of_none rfl) rfl
  | getObject object =>
    exact follows.idle (.of_same (s.pool.owner_same object) k) rfl (submissions_of_none rfl) rfl
  | remember change =>
    exact follows.idle ((Pool.Alike.refl s.pool k).remembers s.pool.memory _) rfl
      (submissions_of_none rfl) rfl
  | sendEach request objects wantsReply =>
    exact follows.offered at_ (.refl _ k) (s.pool.sendEach_offered request objects wantsReply k)
      rfl (by simp [Step.changes]) (submissions_eq below _) rfl
  | sendTo id request wantsReply =>
    exact follows.offered at_ (.refl _ k)
      (.of_eq (s.pool.sendTo_offered id request wantsReply) k) rfl (by simp [Step.changes])
      (submissions_eq below _) rfl
  | cast request =>
    exact follows.offered at_ (.refl _ k) (s.pool.cast_offered request k) rfl
      (by simp [Step.changes]) (submissions_eq below _) rfl
  | submit place request wantsReply =>
    exact follows.offered at_ (.refl _ k) (.of_eq (s.pool.submit_snd place request wantsReply) k)
      rfl (by simp [Step.changes]) (submissions_eq below _) rfl
  | setObject object value =>
    exact follows.edited (s.pool.setObject_alike object value k) rfl (by simp [Step.changes]) rfl
      rfl
  | removeObject object =>
    exact follows.edited (s.pool.removeObject_alike object k) rfl (by simp [Step.changes]) rfl rfl
  | edit place change =>
    refine follows.edited ?_ rfl (by simp [Step.changes]) rfl rfl
    split
    · next here =>
      subst here
      exact .refl _ place
    · next aside => exact (Pool.Touches.updateLane _ _).alike (Ne.symm aside)
  | retime place seconds =>
    dsimp only [happenings]
    split
    · next here =>
      subst here
      exact follows.single (follows.alike.retime seconds) rfl rfl (by simp [Step.changes])
        (by rw [submissions_of_none rfl, submissions_of_none rfl]) rfl
    · next aside =>
      exact follows.idle ((s.pool.retime_touches place seconds).alike (Ne.symm aside)) rfl
        (submissions_of_none rfl) rfl
  | tick now place =>
    dsimp only [happenings]
    split
    · next here =>
      subst here
      exact follows.single (follows.alike.tick now) rfl rfl (by simp [Step.changes])
        (by rw [submissions_of_none rfl, submissions_of_none rfl]) rfl
    · next aside =>
      exact follows.idle ((Pool.tick_touches now place s.pool).alike (Ne.symm aside)) rfl
        (submissions_of_none rfl) rfl
  | consume now place =>
    dsimp only [happenings]
    split
    · next here =>
      subst here
      exact follows.single (follows.alike.consume at_ secluded now) rfl rfl
        (by simp [Step.changes]) (follows.alike.submissions_consume at_ secluded now).symm
        (follows.alike.invocations_consume at_ secluded now).symm
    · next aside =>
      exact follows.offered at_ (Pool.taking_alike (Ne.symm aside) s.pool)
        (Pool.consume_offered (Ne.symm aside) now s.pool) rfl (by simp [Step.changes])
        (submissions_eq below _) (if_neg aside)
  | quit =>
    dsimp only [happenings]
    split
    · next mine =>
      obtain ⟨entry, listed, rfl⟩ := List.mem_map.mp mine
      exact follows.quit_live sound at_ ⟨entry.1, OrderedMap.get?_eq_some_iff.mpr listed⟩
    · next aside =>
      refine follows.quit_dead ?_
      rintro ⟨id, listed⟩
      exact aside (List.mem_map_of_mem (OrderedMap.get?_eq_some_iff.mp listed))
  | resume call =>
    dsimp only [happenings]
    cases waits : s.quits[call]? with
    | none => exact follows.resume_missing waits
    | some stops =>
      rw [Option.getD_some]
      rcases follows.stagesAt_cases waits with none | ⟨stage, once⟩
      · rw [none]
        exact follows.resume_without waits (.inl none)
      · rw [once]
        by_cases finished : stage = .finished
        · subst finished
          exact follows.resume_without waits (.inr once)
        · simp only [List.all_cons, finished]
          exact follows.resume waits once
  | abort =>
    have alike : Pool.Alike s.pool.abort k t.pool.abort 0 :=
      (follows.alike.abort at_).trans
        ((Pool.Alike.refl t.pool 0).abort (follows.alike.there at_)).symm
    exact follows.single alike rfl rfl (by simp [Step.changes])
      (by rw [submissions_of_none rfl, submissions_of_none rfl]) rfl

end Follows

/-! ### The first event -/

/-- The growth that makes a lane is told to the pool that awaits it. -/
theorem birth_follows (accounted : s.Accounted) (absent : s.pool.lanes[k]? = none)
    (silent : s.pool.laneEvents k = []) {count : Nat} {tick : Option Duration}
    (there : (s.pool.grow count tick).2.lanes[k]? = some lane) (generator : Generator)
    (memory : σ) :
    Follows k (s.apply h (.grow count tick))
      ((awaiting s.pool.config lane.id generator memory).apply h (.grow 1 tick)) := by
  obtain ⟨cause, -, eq⟩ | ⟨granted, -, grown⟩ := s.pool.grow_cases count tick
  · rw [eq, absent] at there
    cases there
  obtain before | ⟨i, below, rfl, made⟩ := (Pool.grow_lanes granted tick).mp there
  · rw [absent] at before
    cases before
  -- The pool that awaits the lane has counted up to its id, so its first lane is this very lane,
  -- and it is not refused, for the count with one more lane is within that with all of them.
  let t := awaiting (α := α) (β := β) (γ := γ) s.pool.config lane.id generator memory
  have number : t.pool.laneCount = s.pool.laneCount + i := by
    have id : lane.id = ((s.pool.laneCount + i + 1 : Nat) : Int) := by rw [made]; rfl
    simp only [t, awaiting, id]
    omega
  obtain ⟨-, room, few⟩ := Pool.growthRefusal_eq_none_iff.mp granted
  have granted' : t.pool.growthRefusal 1 = none :=
    Pool.growthRefusal_eq_none_iff.mpr ⟨Nat.one_pos, room, by rw [number]; omega⟩
  have grown' : Pool.Grown t.pool 1 (t.pool.grow 1 tick).2 := by
    obtain ⟨cause, refused, -⟩ | ⟨-, -, grown'⟩ := t.pool.grow_cases 1 tick
    · rw [granted'] at refused
      cases refused
    · exact grown'
  have there' : (t.pool.grow 1 tick).2.lanes[0]? = some lane := by
    refine (Pool.grow_lanes granted' tick).mpr (.inr ⟨0, Nat.one_pos, rfl, ?_⟩)
    rw [made, number]
    rfl
  have unlisted (id : LaneId) : s.pool.roster.get? id ≠ some (s.pool.lanes.length + i) := by
    intro listed
    obtain ⟨lane', at_, -⟩ := accounted.sound.lane listed
    rw [absent] at at_
    cases at_
  have none : stagesOf (s.pool.lanes.length + i) s.quits = [] := by
    refine List.flatMap_eq_nil_iff.mpr fun stops mem => Pool.stagesAt_eq_nil_iff.mpr ?_
    intro stop on here
    obtain ⟨lane', at_, -⟩ := accounted.told stops mem stop on
    rw [here, absent] at at_
    cases at_
  refine ⟨⟨there.trans there'.symm, ?_, ?_⟩, ?_, ?_, ?_, ?_⟩
  · exact ((s.pool.grow_laneEvents count tick _).trans silent).trans
      (t.pool.grow_laneEvents 1 tick 0).symm
  · intro id
    have here := grown.listed below (unlisted id)
    have vacant : t.pool.roster.get? id ≠ some (t.pool.lanes.length + 0) := by
      simp [t, awaiting, Pool.new]
    have away := grown'.listed Nat.one_pos vacant
    rw [number] at away
    exact here.trans away.symm
  · exact none
  · exact congrArg List.length none.symm
  · exact Nat.le_trans (Nat.le_of_eq (congrArg List.length none)) (Nat.zero_le 1)
  · intro _
    exact none

/-! ### Whole runs -/

theorem course_append (h : Handler α β γ σ) (k : Nat) (steps more : List (Step α γ σ))
    (s : RunningPool α β γ σ) :
    course h k (steps ++ more) s =
      { course h k more (run h steps s) with
        submissions := along h (Pool.submissions h k) steps s ++
          (course h k more (run h steps s)).submissions
        invocations := along h (Pool.invocations h k) steps s ++
          (course h k more (run h steps s)).invocations } := by
  simp only [course, along_append, run_append]

theorem course_cons (h : Handler α β γ σ) (k : Nat) (step : Step α γ σ)
    (steps : List (Step α γ σ)) (s : RunningPool α β γ σ) :
    course h k (step :: steps) s =
      { course h k steps (s.apply h step) with
        submissions := s.pool.submissions h k step ++
          (course h k steps (s.apply h step)).submissions
        invocations := s.pool.invocations h k step ++
          (course h k steps (s.apply h step)).invocations } := by
  simp only [course, along_cons, run_cons]

/-- By induction on the run: each step is repeated by the lane's own events in it. -/
theorem Follows.course_eq (follows : Follows k s t) (sound : s.pool.Sound)
    (at_ : s.pool.lanes[k]? = some lane) (secluded : h.Secluded lane.id)
    (steps : List (Step α γ σ)) :
    course h 0 (ownRun h k steps s) t = course h k steps s := by
  induction steps generalizing s t lane with
  | nil => simp [course, along_nil, ownRun, follows.alike.events, follows.alike.lane]
  | cons step steps ih =>
    obtain ⟨lane', events, there, -, moves⟩ := (s.apply_evolves (h := h) step).lane at_
    have repeats := follows.repeats sound at_ secluded step
    have rest := ih repeats.follows (s.apply_sound step sound) there (moves.id ▸ secluded)
    rw [ownRun, course_append, course_cons, rest, repeats.submissions, repeats.invocations]

theorem invocations_of_absent (absent : s.pool.lanes[k]? = none) (step : Step α γ σ) :
    s.pool.invocations h k step = [] := by
  cases step with
  | consume now place =>
    dsimp only [Pool.invocations]
    split
    · next here =>
      subst here
      simp [absent]
    · rfl
  | _ => rfl

/-- Before the lane is there, nothing of a run is its own. -/
theorem course_awaiting (accounted : s.Accounted) (absent : s.pool.lanes[k]? = none)
    (silent : s.pool.laneEvents k = []) {steps : List (Step α γ σ)}
    (at_ : (run h steps s).pool.lanes[k]? = some lane) (secluded : h.Secluded lane.id)
    (generator : Generator) (memory : σ) :
    course h 0 (ownRun h k steps s) (awaiting s.pool.config lane.id generator memory) =
      course h k steps s := by
  induction steps generalizing s with
  | nil =>
    rw [run_nil, absent] at at_
    cases at_
  | cons step steps ih =>
    have evolves := s.apply_evolves (h := h) step
    have beyond : ¬ k < s.pool.lanes.length := by
      intro below
      exact absurd (List.getElem?_eq_none_iff.mp absent) (by omega)
    have unheard : s.pool.submissions h k step = [] := if_neg beyond
    have uncalled : s.pool.invocations h k step = [] := invocations_of_absent absent step
    rw [course_cons, unheard, uncalled, ownRun, own, if_neg beyond]
    -- Until the lane is there, the awaiting pool stays as it is, and with the growth that makes the
    -- lane the two become alike.
    cases there : (s.apply h step).pool.lanes[k]? with
    | none =>
      have none : birth k s.pool step = [] := by
        cases step with
        | grow count tick =>
          refine if_neg fun below => ?_
          exact absurd (List.getElem?_eq_none_iff.mp there) (Nat.not_le_of_lt below)
        | _ => rfl
      obtain ⟨-, same⟩ | ⟨id, tick, lane', events, there', -⟩ := evolves.absent absent
      · rw [none, ← evolves.config]
        exact ih (accounted.apply step) there (same.trans silent) at_
      · rw [there'] at there
        cases there
    | some first =>
      obtain ⟨lane', events, last, -, moves⟩ := (run_evolves (h := h) steps _).lane there
      obtain rfl : lane' = lane := Option.some.inj (last.symm.trans at_)
      cases step with
      | grow count tick =>
        have born : birth k s.pool (.grow count tick : Step α γ σ) = [.grow 1 tick] :=
          if_pos (List.getElem?_eq_some_iff.mp there).1
        have follows := birth_follows (h := h) accounted absent silent there generator memory
        rw [moves.id] at secluded ⊢
        rw [born, List.singleton_append, course_cons, submissions_of_none rfl,
          follows.course_eq (s.apply_sound _ accounted.sound) there secluded steps]
        rfl
      | _ =>
        obtain ⟨was, events, at_', -⟩ := apply_origin (h := h) (by simp [Grows]) there
        rw [absent] at at_'
        cases at_'

/-- Lanes are isolated from each other, as long as the handler's calls for a lane depend on nothing
but the lane. How a lane decides on the submissions to it, the calls of the handler for it, its
events, its replies and its table are those of a pool in which its own events happen and nothing
else. So they are the same in any other run with the same own events of such a lane, whatever
happens to other lanes, to the routes, and to what the handler remembers. -/
theorem lanes_are_isolated (h : Handler α β γ σ) (config : PoolConfig) (generator : Generator)
    (memory : σ) (steps : List (Step α γ σ)) {k : Nat} {lane : Lane α β γ}
    (at_ : (run h steps (start config generator memory)).pool.lanes[k]? = some lane)
    (secluded : h.Secluded lane.id) :
    let s := start config generator memory
    (∀ generator' memory',
      course h 0 (ownRun h k steps s) (awaiting config lane.id generator' memory') =
        course h k steps s) ∧
    ∀ generator' memory' steps' k' lane',
      let s' := start config generator' memory'
      (run h steps' s').pool.lanes[k']? = some lane' → lane'.id = lane.id →
      ownRun h k' steps' s' = ownRun h k steps s →
      course h k' steps' s' = course h k steps s := by
  intro s
  have alone (generator memory) {steps : List (Step α γ σ)} {k : Nat} {lane' : Lane α β γ}
      (there : (run h steps (start config generator memory)).pool.lanes[k]? = some lane')
      (same : lane'.id = lane.id) (generator' : Generator) (memory' : σ) :
      course h 0 (ownRun h k steps (start config generator memory))
        (awaiting config lane.id generator' memory') =
      course h k steps (start config generator memory) := by
    rw [← same] at secluded ⊢
    exact course_awaiting (start_accounted config generator memory) (by simp [start, Pool.new]) rfl
      there secluded generator' memory'
  have here := alone generator memory at_ rfl
  refine ⟨here, ?_⟩
  intro generator' memory' steps' k' lane' s' there same own
  calc course h k' steps' s'
    _ = course h 0 (ownRun h k' steps' s') (awaiting config lane.id generator memory) :=
      (alone generator' memory' there same generator memory).symm
    _ = course h 0 (ownRun h k steps s) (awaiting config lane.id generator memory) := by rw [own]
    _ = course h k steps s := here generator memory

/-- Counts its calls. It panics at the request 0, has the request 7 sent to the second lane and
fails for the request 1, and binds all others. -/
def fickle : Handler Nat Nat Nat Nat where
  process _ _ request table memory :=
    match request with
    | 0 => .done (.panicked .other, table, memory + 1)
    | 1 => .ask ⟨2, 7⟩ (fun _ => .done (.failed .noWorkers, table, memory + 1))
    | _ => .done (.returned request, table.insert request request, memory + 1)

theorem fickle_secluded (id : LaneId) : fickle.Secluded id where
  process now request table := by
    match request with
    | 0 => exact ⟨[], .panicked .other, table, fun memory => .done _⟩
    | 1 => exact ⟨[⟨2, 7⟩], .failed .noWorkers, table, fun memory => .ask fun _ => .done _⟩
    | n + 2 =>
      exact ⟨[], .returned (n + 2), table.insert (n + 2 : Nat) (n + 2), fun memory => .done _⟩
  onTick _ table := ⟨.returned (), table, fun memory => ⟨memory, rfl⟩⟩
  onQuit _ := ⟨.returned (), fun _ => rfl⟩

/-- A pool whose lanes have room for two. -/
def smallPool : RunningPool Nat Nat Nat Nat := start ⟨2, defaultTickPeriod⟩ (.seeded 0) 0

/-- The first of two lanes fills up, panics, fails, sends to the second and is not drained. -/
def unrulyRun : List (Step Nat Nat Nat) :=
  [.grow 2 none, .submit 0 0 true, .submit 1 5 true, .submit 0 1 true, .submit 0 9 false,
    .consume 0 0, .consume 0 1, .consume 0 0, .consume 0 0, .consume 0 1, .submit 0 8 false, .quit,
    .consume 0 1, .consume 0 1, .consume 0 1, .resume 0]

/-- Nothing happens to the first of two lanes. -/
def quietRun : List (Step Nat Nat Nat) :=
  [.grow 2 none, .submit 1 5 true, .consume 0 1, .submit 1 7 false, .consume 0 1, .quit,
    .consume 0 1, .consume 0 1, .consume 0 1, .resume 0]

/-- The own events of the second lane in both runs. -/
def sharedEvents : List (Step Nat Nat Nat) :=
  [.grow 1 none, .submit 0 5 true, .consume 0 0, .submit 0 7 false, .consume 0 0, .quit,
    .consume 0 0, .consume 0 0, .consume 0 0, .resume 0]

theorem unrulyRun_shows_quietRun :
    (run fickle unrulyRun smallPool).pool.memory ≠ (run fickle quietRun smallPool).pool.memory ∧
      ownRun fickle 1 unrulyRun smallPool = sharedEvents ∧
      ownRun fickle 1 quietRun smallPool = sharedEvents ∧
      course fickle 1 unrulyRun smallPool = course fickle 1 quietRun smallPool := by
  obtain ⟨lane, at_, id⟩ : ∃ lane, (run fickle quietRun smallPool).pool.lanes[1]? = some lane ∧
      lane.id = 2 := Option.map_eq_some_iff.mp (by decide +kernel)
  obtain ⟨lane', there, id'⟩ : ∃ lane,
      (run fickle unrulyRun smallPool).pool.lanes[1]? = some lane ∧ lane.id = 2 :=
    Option.map_eq_some_iff.mp (by decide +kernel)
  have unruly : ownRun fickle 1 unrulyRun smallPool = sharedEvents := by rfl
  have quiet : ownRun fickle 1 quietRun smallPool = sharedEvents := by rfl
  obtain ⟨-, same⟩ := lanes_are_isolated fickle ⟨2, defaultTickPeriod⟩ (.seeded 0) 0 quietRun at_
    (fickle_secluded lane.id)
  exact ⟨by decide +kernel, unruly, quiet,
    same (.seeded 0) 0 unrulyRun 1 lane' there (id'.trans id.symm) (unruly.trans quiet.symm)⟩

end RunningPool
end Lanes
