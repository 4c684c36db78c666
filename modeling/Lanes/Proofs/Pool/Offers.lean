import Lanes.Proofs.Pool.Distribution
import Lanes.Proofs.Pool.Likeness
import Lanes.Proofs.Pool.Population

/-!
# Offers to lanes

Every way to send a request comes down to offering it to lanes, one after the other. A lane hears
the offers to itself only and decides on each by its own state, so what becomes of them does not
depend on what else is offered in between.
-/
namespace Lanes

/-- A request for the lane at a place. -/
structure Offer (α : Type) where
  place : Nat
  request : α
  wantsReply : Bool

/-- An offer on which a lane has decided: it is accepted under a number, or refused. -/
structure Submission (α : Type) where
  request : α
  wantsReply : Bool
  result : Except Error Nat

/-- The offers to one lane, as offers to the lane at another place. -/
def Offer.redirect {α : Type} (k j : Nat) (offers : List (Offer α)) : List (Offer α) :=
  (offers.filter (·.place = k)).map ({ · with place := j })

theorem Offer.redirect_cons {α : Type} (k j : Nat) (offer : Offer α) (offers : List (Offer α)) :
    redirect k j (offer :: offers) =
      if offer.place = k then { offer with place := j } :: redirect k j offers
      else redirect k j offers := by
  unfold redirect
  rw [List.filter_cons]
  split <;> simp_all

theorem Offer.mem_redirect {α : Type} {k j : Nat} {offers : List (Offer α)} {offer : Offer α}
    (mem : offer ∈ redirect k j offers) : offer.place = j := by
  obtain ⟨_, _, rfl⟩ := List.mem_map.mp mem
  rfl

namespace Pool
variable {α β γ σ : Type} {h : Handler α β γ σ} {p q : Pool α β γ σ} {k j : Nat}
  {lane : Lane α β γ}

/-- Offers requests to lanes in order. -/
def offerAll (offers : List (Offer α)) (p : Pool α β γ σ) : Pool α β γ σ :=
  offers.foldl
    (fun p offer => (p.deliver offer.place (.request offer.request) offer.wantsReply).2) p

/-- What the lane at a place hears of the offers, and how it decides. -/
def heard (k : Nat) : List (Offer α) → Pool α β γ σ → List (Submission α)
  | [], _ => []
  | offer :: rest, p =>
    let delivered := p.deliver offer.place (.request offer.request) offer.wantsReply
    if offer.place = k then
      ⟨offer.request, offer.wantsReply, delivered.1⟩ :: heard k rest delivered.2
    else heard k rest delivered.2

theorem Alike.offerAll (alike : Alike p k q j) (offers : List (Offer α)) :
    Alike (offerAll offers p) k (offerAll (Offer.redirect k j offers) q) j := by
  induction offers generalizing p q with
  | nil => exact alike
  | cons offer rest ih =>
    rw [Offer.redirect_cons]
    split
    · next here =>
      subst here
      exact ih (alike.deliver _ _)
    · next aside =>
      exact ih (((deliver_touches ..).alike (Ne.symm aside)).symm.trans alike)

/-- By induction on the offers: one to another lane is not heard and leaves the lane as it is. -/
theorem Alike.heard (alike : Alike p k q j) (below : k < p.lanes.length)
    (offers : List (Offer α)) :
    heard k offers p = heard j (Offer.redirect k j offers) q := by
  induction offers generalizing p q with
  | nil => rfl
  | cons offer rest ih =>
    have still : k < (p.deliver offer.place (.request offer.request)
        offer.wantsReply).2.lanes.length := by
      rw [(p.deliver_admits offer.place offer.request offer.wantsReply).length]
      exact below
    rw [Offer.redirect_cons]
    by_cases here : offer.place = k
    · subst here
      have same := alike.deliver_fst (List.getElem?_eq_getElem below) (.request offer.request)
        offer.wantsReply
      have others := ih (alike.deliver (.request offer.request) offer.wantsReply) still
      simp only [Pool.heard, if_true, same, others]
    · simp only [Pool.heard, if_neg here]
      exact ih (((deliver_touches ..).alike (Ne.symm here)).symm.trans alike) still

/-- Two lanes that are alike and are offered the same decide alike. -/
theorem Alike.heard_of_same (alike : Alike p k q j) (below : k < p.lanes.length)
    {offers offers' : List (Offer α)}
    (same : Offer.redirect k j offers = Offer.redirect j j offers') :
    Pool.heard k offers p = Pool.heard j offers' q := by
  have below' : j < q.lanes.length :=
    (List.getElem?_eq_some_iff.mp (alike.there (List.getElem?_eq_getElem below))).1
  rw [alike.heard below offers, (Alike.refl q j).heard below' offers', same]

theorem Alike.offerAll_same (alike : Alike p k q k) (offers : List (Offer α)) :
    Alike (Pool.offerAll offers p) k (Pool.offerAll offers q) k :=
  (alike.offerAll offers).trans ((Alike.refl q k).offerAll offers).symm

/-! ### The offers of a step -/

/-- What a request for a live lane offers. -/
def directed (p : Pool α β γ σ) (id : LaneId) (request : α) (wantsReply : Bool) :
    List (Offer α) :=
  match p.roster.get? id with
  | some place => [⟨place, request, wantsReply⟩]
  | none => []

/-- What is offered to targets that were found. -/
def resolved (request : α) (wantsReply : Bool) (targets : List (ObjectId × Except Error Nat)) :
    List (Offer α) :=
  targets.filterMap (fun target =>
    match target.2 with
    | .ok place => some ⟨place, request, wantsReply⟩
    | .error _ => none)

/-- What a request on behalf of objects offers. -/
def spread (p : Pool α β γ σ) (request : α) (objects : List ObjectId) (wantsReply : Bool) :
    List (Offer α) :=
  if objects.isEmpty ∨ p.size = 0 then [] else resolved request wantsReply (p.targets objects).1

/-- What a request for all live lanes offers. -/
def broadcast (p : Pool α β γ σ) (request : α) : List (Offer α) :=
  p.roster.entries.map (fun entry => ⟨entry.2, request, false⟩)

/-- What a handler that asks for these pushes offers. -/
def addressed (roster : OrderedMap LaneId Nat) (asks : List (Forward α)) : List (Offer α) :=
  asks.filterMap (fun question =>
    (roster.get? question.lane).map (fun place => ⟨place, question.request, false⟩))

/-- The message that the consumer of the lane at a place takes next, and its lane. -/
def next? (p : Pool α β γ σ) (place : Nat) :
    Option (Lane α β γ × Envelope (LaneMessage α)) :=
  match p.lanes[place]? with
  | none => none
  | some lane =>
    match lane.mailbox.turn with
    | .dispatch envelope => some (lane, envelope)
    | _ => none

/-- The pool when a consumer has taken its next message. -/
def taking (p : Pool α β γ σ) (place : Nat) : Pool α β γ σ :=
  match p.next? place with
  | some (_, envelope) => p.updateLane place (·.take envelope.payload)
  | none => p

/-- What the handler's call for this message offers. -/
def prompted (h : Handler α β γ σ) (now : Moment) (place : Nat) (p : Pool α β γ σ) :
    List (Offer α) :=
  match p.next? place with
  | some (lane, envelope) =>
    addressed p.roster (questions h now lane.id lane.table envelope.payload (p.taking place))
  | none => []

/-- What a step offers to lanes, in order. -/
def offers (h : Handler α β γ σ) (p : Pool α β γ σ) :
    RunningPool.Step α γ σ → List (Offer α)
  | .submit place request wantsReply => [⟨place, request, wantsReply⟩]
  | .sendTo id request wantsReply => p.directed id request wantsReply
  | .sendEach request objects wantsReply => p.spread request objects wantsReply
  | .cast request => p.broadcast request
  | .consume now place => p.prompted h now place
  | _ => []

/-- The pool in which a step makes its offers. -/
def during (p : Pool α β γ σ) : RunningPool.Step α γ σ → Pool α β γ σ
  | .consume _ place => p.taking place
  | _ => p

/-- The submissions to the lane at a place in a step. -/
def submissions (h : Handler α β γ σ) (k : Nat) (p : Pool α β γ σ)
    (step : RunningPool.Step α γ σ) : List (Submission α) :=
  if k < p.lanes.length then heard k (p.offers h step) (p.during step) else []

theorem sendTo_offered (p : Pool α β γ σ) (id : LaneId) (request : α) (wantsReply : Bool) :
    (p.sendTo id request wantsReply).2 = offerAll (p.directed id request wantsReply) p := by
  unfold sendTo place? directed
  cases p.roster.get? id with
  | none => rfl
  | some place => exact p.submit_snd place request wantsReply

theorem submitAll_offered (request : α) (wantsReply : Bool)
    (targets : List (ObjectId × Except Error Nat)) (p : Pool α β γ σ) :
    (submitAll request wantsReply targets p).2 =
      offerAll (resolved request wantsReply targets) p := by
  induction targets generalizing p with
  | nil => rfl
  | cons target rest ih =>
    obtain ⟨object, found⟩ := target
    cases found with
    | error cause => exact ih p
    | ok place =>
      refine (ih _).trans ?_
      rw [submit_snd]
      rfl

theorem submit_fst (p : Pool α β γ σ) (place : Nat) (request : α) (wantsReply : Bool) :
    (p.submit place request wantsReply).1 =
      .of place wantsReply (p.deliver place (.request request) wantsReply).1 := by
  unfold submit
  cases told : (p.deliver place (.request request) wantsReply).1 <;> simp [told, Receipt.of]

/-- What a lane decides is what the callers are told. -/
theorem receiptsAt_submitAll (request : α) (wantsReply : Bool) (k : Nat)
    (routed : List (ObjectId × Nat)) (p : Pool α β γ σ) :
    receiptsAt k routed (submitAll request wantsReply (found routed) p).1 =
      (heard k (resolved request wantsReply (found routed)) p).map
        (fun decided => .of k wantsReply decided.result) := by
  induction routed generalizing p with
  | nil => rfl
  | cons entry rest ih =>
    obtain ⟨object, place⟩ := entry
    have later := ih (p.submit place request wantsReply).2
    rw [submit_snd] at later
    by_cases here : place = k
    · subst here
      simp only [receiptsAt, found, List.map_cons, submitAll, submit_fst, submit_snd, resolved,
        List.filterMap_cons, heard, if_true, List.zip_cons_cons, List.filter_cons, decide_true]
      exact congrArg _ later
    · simp only [receiptsAt, found, List.map_cons, submitAll, submit_fst, submit_snd, resolved,
        List.filterMap_cons, heard, here, if_false, List.zip_cons_cons, List.filter_cons,
        decide_false]
      exact later

theorem sendEach_offered (p : Pool α β γ σ) (request : α) (objects : List ObjectId)
    (wantsReply : Bool) (k : Nat) :
    Alike (offerAll (p.spread request objects wantsReply) p) k
      (p.sendEach request objects wantsReply).2 k := by
  unfold sendEach spread
  by_cases none : objects.isEmpty
  · simp only [none, if_true, true_or]
    exact .refl p k
  · by_cases vacant : p.size = 0
    · simp only [none, vacant, if_true, or_true]
      exact .refl p k
    · simp only [none, vacant, or_false]
      rw [submitAll_offered]
      exact (Alike.of_same (targets_same objects p) k).offerAll_same _

theorem cast_offered (p : Pool α β γ σ) (request : α) (k : Nat) :
    Alike (offerAll (p.broadcast request) p) k (p.cast request).2 k := by
  have folded (entries : List (LaneId × Nat)) {p : Pool α β γ σ} {counted : Nat × Pool α β γ σ}
      (alike : Alike p k counted.2 k) :
      Alike (offerAll (entries.map (fun entry => ⟨entry.2, request, false⟩)) p) k
        (entries.foldl (castTo request) counted).2 k := by
    induction entries generalizing p counted with
    | nil => exact alike
    | cons entry rest ih =>
      have pushed := alike.offerAll_same [⟨entry.2, request, false⟩]
      refine ih (pushed.trans ?_)
      unfold castTo
      dsimp only
      split
      · exact .refl _ k
      · exact .note _ rfl
  unfold cast
  split
  · next vacant =>
    have none : p.broadcast request = [] := by
      rw [broadcast, List.isEmpty_iff.mp vacant, List.map_nil]
    rw [none]
    exact .refl p k
  · exact folded p.roster.entries (.refl p k)

/-- What a handler asks for, it offers. -/
theorem foldl_forward (asks : List (Forward α)) (p : Pool α β γ σ) :
    asks.foldl (fun p question => (forward question p).2) p =
      offerAll (addressed p.roster asks) p := by
  induction asks generalizing p with
  | nil => rfl
  | cons question rest ih =>
    have same := (forward_admits question p).routes.roster
    rw [List.foldl_cons, ih, same]
    unfold forward place? addressed
    rw [List.filterMap_cons]
    cases p.roster.get? question.lane <;> rfl

/-- The consumer of another lane makes no difference to this one but by what the handler's call
offers. -/
theorem consume_offered {place : Nat} (apart : k ≠ place) (now : Moment) (p : Pool α β γ σ) :
    Alike (offerAll (p.prompted h now place) (p.taking place)) k (p.consume h now place) k := by
  cases at_ : p.lanes[place]? with
  | none =>
    simp only [consume, prompted, taking, next?, at_]
    exact .refl p k
  | some lane =>
    cases turn : lane.mailbox.turn with
    | dispatch envelope =>
      simp only [consume, prompted, taking, next?, at_, turn, dispatch, handle_snd, foldl_forward]
      let offered := offerAll (addressed p.roster (questions h now lane.id lane.table
        envelope.payload (p.updateLane place (·.take envelope.payload))))
        (p.updateLane place (·.take envelope.payload))
      have remembering := (Alike.refl offered k).remembers offered.memory
      exact ((remembering _).trans ((Touches.updateLane _ _).alike apart)).trans
        ((Touches.noteMailbox _ lane.id _).alike apart)
    | finish =>
      simp only [consume, prompted, taking, next?, at_, turn, finish]
      have remembering := (Alike.refl p k).remembers p.memory
      exact ((remembering _).trans ((Touches.noteMailbox _ lane.id _).alike apart)).trans
        ((enter_touches _ place lane.id _ _).alike apart)
    | wait =>
      simp only [consume, prompted, taking, next?, at_, turn]
      exact .refl p k
    | _ =>
      simp only [consume, prompted, taking, next?, at_, turn]
      exact (p.enter_touches place lane.id _ _).alike apart

theorem taking_alike {place : Nat} (apart : k ≠ place) (p : Pool α β γ σ) :
    Alike p k (p.taking place) k := by
  unfold taking
  split
  · exact (Touches.updateLane p _).alike apart
  · exact .refl p k

/-! ### The lane's own consumer -/

theorem Alike.next? (alike : Alike p k q j) : p.next? k = q.next? j := by
  unfold Pool.next?
  rw [alike.lane]

theorem Alike.taking (alike : Alike p k q j) : Alike (p.taking k) k (q.taking j) j := by
  unfold Pool.taking
  rw [alike.next?]
  split
  · exact alike.updateLane _
  · exact alike

theorem next?_lane {envelope : Envelope (LaneMessage α)}
    (next : p.next? k = some (lane, envelope)) : p.lanes[k]? = some lane := by
  unfold next? at next
  split at next
  · cases next
  · next lane' at_ =>
    split at next
    · rw [at_, (Prod.mk.inj (Option.some.inj next)).1]
    · cases next

/-- What a handler asks of the lane itself, it asks under the ids of the lane. -/
theorem redirect_addressed {roster roster' : OrderedMap LaneId Nat}
    (live : ∀ id, roster.get? id = some k ↔ roster'.get? id = some j) (asks : List (Forward α)) :
    Offer.redirect k j (addressed roster asks) = Offer.redirect j j (addressed roster' asks) := by
  induction asks with
  | nil => rfl
  | cons question rest ih =>
    have one (roster : OrderedMap LaneId Nat) (k : Nat) :
        Offer.redirect k j (addressed roster (question :: rest)) =
          if roster.get? question.lane = some k then
            ⟨j, question.request, false⟩ :: Offer.redirect k j (addressed roster rest)
          else Offer.redirect k j (addressed roster rest) := by
      unfold addressed
      rw [List.filterMap_cons]
      cases roster.get? question.lane with
      | none => simp
      | some place => simp [Offer.redirect_cons]
    rw [one, one, ih]
    simp only [live]

theorem Alike.prompted (alike : Alike p k q j) (at_ : p.lanes[k]? = some lane)
    (secluded : h.Secluded lane.id) (now : Moment) :
    Offer.redirect k j (p.prompted h now k) = Offer.redirect j j (q.prompted h now j) := by
  unfold Pool.prompted
  rw [← alike.next?]
  cases next : p.next? k with
  | none => rfl
  | some taken =>
    obtain ⟨lane', envelope⟩ := taken
    obtain rfl : lane = lane' := Option.some.inj (at_.symm.trans (next?_lane next))
    obtain ⟨asked, -, -⟩ := handle_same secluded now lane.table envelope.payload (p.taking k)
      (q.taking j)
    dsimp only
    rw [asked]
    exact redirect_addressed alike.live _

/-- A lane decides on what its own handler offers it as on everything else. -/
theorem Alike.submissions_consume (alike : Alike p k q j) (at_ : p.lanes[k]? = some lane)
    (secluded : h.Secluded lane.id) (now : Moment) :
    p.submissions h k (.consume now k) = q.submissions h j (.consume now j) := by
  have below : k < p.lanes.length := (List.getElem?_eq_some_iff.mp at_).1
  have below' : j < q.lanes.length := (List.getElem?_eq_some_iff.mp (alike.there at_)).1
  have still : k < (p.taking k).lanes.length := by
    unfold Pool.taking
    split <;> simpa [Pool.updateLane] using below
  unfold submissions
  rw [if_pos below, if_pos below']
  exact alike.taking.heard_of_same still (alike.prompted at_ secluded now)

end Pool
end Lanes
