import Lanes.Proofs.Mailbox.Copies
import Lanes.Proofs.Pool.Replies
import Lanes.Proofs.Pool.Targets
import Lanes.Proofs.Pool.Ticks

/-!
# Requests on behalf of many objects

A request on behalf of several objects is submitted once for each of them. All objects are routed
before anything is submitted, and everything is submitted before a lane runs; so a lane finds its
share of the copies behind what waits already, in the order of the objects, as many as it has room
for. Later each object is answered by what became of the last copy for it.
-/
namespace Lanes

/-- The lane after so many copies of a request were submitted to it. -/
def Lane.offered {α β γ : Type} (lane : Lane α β γ) (request : α) (wantsReply : Bool)
    (count : Nat) : Lane α β γ :=
  { lane with mailbox := lane.mailbox.offered (.request request) wantsReply count }

/-- What the lane shows of this. -/
def Lane.offeredEvents {α β γ : Type} (lane : Lane α β γ) (request : α) (wantsReply : Bool)
    (count : Nat) : List (LaneEvent α β) :=
  (lane.mailbox.admitted (.request request) wantsReply count).map (fun e => .mailbox (.accepted e))

/-! ### Submissions one after the other -/

/-- What the sender of a copy is given. -/
def Receipt.of (place : Nat) (wantsReply : Bool) : Except Error Nat → Receipt
  | .error cause => .refused cause
  | .ok serial => if wantsReply then .awaiting place serial else .accepted

theorem Receipt.of_eq_awaiting {place k serial : Nat} {wantsReply : Bool}
    {result : Except Error Nat} (is : Receipt.of place wantsReply result = .awaiting k serial) :
    wantsReply = true ∧ place = k ∧ result = .ok serial := by
  cases result with
  | error cause => cases is
  | ok number =>
    cases wantsReply with
    | false => cases is
    | true =>
      obtain ⟨rfl, rfl⟩ := Receipt.awaiting.inj is
      exact ⟨rfl, rfl, rfl⟩

namespace Pool
variable {α β γ σ : Type} {p : Pool α β γ σ} {k : Nat} {lane : Lane α β γ}

theorem submit_offer (at_ : p.lanes[k]? = some lane) (request : α) (wantsReply : Bool) :
    (p.submit k request wantsReply).1 = .of k wantsReply (lane.mailbox.offer 0) ∧
      (p.submit k request wantsReply).2.lanes[k]? = some (lane.offered request wantsReply 1) ∧
      (p.submit k request wantsReply).2.laneEvents k =
        p.laneEvents k ++ lane.offeredEvents request wantsReply 1 := by
  unfold submit deliver
  simp only [at_, Mailbox.accept?_eq]
  cases told : lane.mailbox.offer 0 with
  | error cause =>
    have full : lane.mailbox.room = 0 := by
      by_contra some
      have ok := Mailbox.offer_eq_ok_iff.mpr ⟨Nat.pos_of_ne_zero some, rfl⟩
      rw [told] at ok
      cases ok
    refine ⟨rfl, ?_, ?_⟩
    · simp [Except.map, at_, Lane.offered, Mailbox.offered_of_full full]
    · simp [Except.map, Lane.offeredEvents, Mailbox.admitted_of_full full]
  | ok serial =>
    obtain ⟨fits, rfl⟩ := Mailbox.offer_eq_ok_iff.mp told
    have one : min 1 lane.mailbox.room = 1 := by omega
    refine ⟨rfl, by simp [Except.map, at_, Lane.offered], ?_⟩
    simp [Except.map, Lane.offeredEvents, Mailbox.admitted, one, copies_succ]

theorem submitAll_objects (request : α) (wantsReply : Bool)
    (targets : List (ObjectId × Except Error Nat)) (p : Pool α β γ σ) :
    (submitAll request wantsReply targets p).1.map Prod.fst = targets.map Prod.fst := by
  induction targets generalizing p with
  | nil => rfl
  | cons entry rest ih =>
    obtain ⟨object, found⟩ := entry
    cases found with
    | error cause => simp [submitAll, ih]
    | ok place => simp [submitAll, ih]

/-- Objects that were routed, as targets of a submission. -/
def found (routed : List (ObjectId × Nat)) : List (ObjectId × Except Error Nat) :=
  routed.map (fun entry => (entry.1, .ok entry.2))

/-- How many of the objects were routed to the lane at a place. -/
def shareOf (k : Nat) (routed : List (ObjectId × Nat)) : Nat := routed.countP (·.2 = k)

/-- What is held for the objects that were routed to the lane at a place, in order. -/
def receiptsAt (k : Nat) (routed : List (ObjectId × Nat)) (receipts : List (ObjectId × Receipt)) :
    List Receipt :=
  ((receipts.zip routed).filter (·.2.2 = k)).map (·.1.2)

/-- By induction on the objects: a submission to another lane leaves this one alone, and after one
to this lane the others go on as the next copies. -/
theorem submitAll_offers (at_ : p.lanes[k]? = some lane) (request : α) (wantsReply : Bool)
    (routed : List (ObjectId × Nat)) :
    (submitAll request wantsReply (found routed) p).2.lanes[k]? =
        some (lane.offered request wantsReply (shareOf k routed)) ∧
      (submitAll request wantsReply (found routed) p).2.laneEvents k =
        p.laneEvents k ++ lane.offeredEvents request wantsReply (shareOf k routed) ∧
      receiptsAt k routed (submitAll request wantsReply (found routed) p).1 =
        (List.range (shareOf k routed)).map
          (fun i => .of k wantsReply (lane.mailbox.offer i)) := by
  induction routed generalizing p lane with
  | nil =>
    exact ⟨by simp [found, submitAll, shareOf, Lane.offered, at_],
      by simp [found, submitAll, shareOf, Lane.offeredEvents], rfl⟩
  | cons entry rest ih =>
    obtain ⟨object, place⟩ := entry
    by_cases here : place = k
    · subst here
      obtain ⟨first, there, shown⟩ := submit_offer at_ request wantsReply
      obtain ⟨filled, later, told⟩ := ih there
      have share : shareOf place ((object, place) :: rest) = shareOf place rest + 1 := by
        simp [shareOf]
      rw [share]
      refine ⟨filled.trans ?_, later.trans ?_, ?_⟩
      · simp [Lane.offered, Mailbox.offered_offered]
      · rw [shown, List.append_assoc, Lane.offeredEvents, Lane.offeredEvents, ← List.map_append]
        exact congrArg (_ ++ List.map _ ·) (Mailbox.admitted_offered _)
      · let others := submitAll request wantsReply (found rest)
          (p.submit place request wantsReply).2
        have head : receiptsAt place ((object, place) :: rest)
            (submitAll request wantsReply (found ((object, place) :: rest)) p).1 =
            (p.submit place request wantsReply).1 :: receiptsAt place rest others.1 := by
          simp [receiptsAt, found, submitAll, others]
        rw [head, first, told, List.range_succ_eq_map]
        simp [Lane.offered, Mailbox.offer_offered, Function.comp_def]
    · have aside : (p.submit place request wantsReply).2.lanes[k]? = some lane := by
        rw [submit_snd, (p.deliver_touches place _ wantsReply).lanes k (Ne.symm here), at_]
      have unseen : (p.submit place request wantsReply).2.laneEvents k = p.laneEvents k := by
        rw [submit_snd, (p.deliver_touches place _ wantsReply).laneEvents k (Ne.symm here)]
      have share : shareOf k ((object, place) :: rest) = shareOf k rest := by
        simp [shareOf, here]
      let others := submitAll request wantsReply (found rest)
        (p.submit place request wantsReply).2
      have head : receiptsAt k ((object, place) :: rest)
          (submitAll request wantsReply (found ((object, place) :: rest)) p).1 =
          receiptsAt k rest others.1 := by
        simp [receiptsAt, found, submitAll, here, others]
      rw [share, head, ← unseen]
      exact ih aside

theorem mem_receiptsAt {routed : List (ObjectId × Nat)} {receipts : List (ObjectId × Receipt)}
    (keys : receipts.map Prod.fst = routed.map Prod.fst) {entry : ObjectId × Receipt}
    (mem : entry ∈ receipts) :
    ∃ place, (entry.1, place) ∈ routed ∧ entry.2 ∈ receiptsAt place routed receipts := by
  induction receipts generalizing routed with
  | nil => cases mem
  | cons first rest ih =>
    cases routed with
    | nil => cases keys
    | cons target routed =>
      obtain ⟨same, keys⟩ := List.cons.inj keys
      rcases List.mem_cons.mp mem with rfl | later
      · exact ⟨target.2, by rw [same]; exact List.mem_cons_self .., by simp [receiptsAt]⟩
      · obtain ⟨place, there, told⟩ := ih keys later
        refine ⟨place, List.mem_cons_of_mem _ there, ?_⟩
        unfold receiptsAt at told ⊢
        rw [List.zip_cons_cons, List.filter_cons]
        split
        · exact List.mem_cons_of_mem _ told
        · exact told

/-! ### All objects at once -/

/-- A pool that has lanes finds one for each object, in turn. -/
theorem Sound.targets_land {p : Pool α β γ σ} (sound : p.Sound) (stocked : p.laneCount ≠ 0)
    (objects : List ObjectId) :
    ∃ routed, routed.map Prod.fst = objects ∧ (p.targets objects).1 = found routed ∧
      ∀ earlier object place later, routed = earlier ++ (object, place) :: later →
        ∃ lane, (p.targets (earlier.map Prod.fst)).2.Lands object true place lane := by
  induction objects generalizing p with
  | nil => exact ⟨[], rfl, rfl, by simp⟩
  | cons object rest ih =>
    obtain ⟨place, lane, lands⟩ := sound.lands stocked object true
    obtain ⟨routes, generator, same⟩ := p.target_same object true
    have count : (p.target object true).2.laneCount = p.laneCount := by rw [same]
    obtain ⟨routed, objects, targets, inTurn⟩ :=
      ih ((p.target_reroutes object true).sound sound) (by rw [count]; exact stocked)
    refine ⟨(object, place) :: routed, by rw [List.map_cons, objects], ?_, ?_⟩
    · simp [Pool.targets, found, lands.answer, targets]
    · intro earlier other place' later split
      cases earlier with
      | nil =>
        obtain ⟨⟨rfl, rfl⟩, -⟩ : (object = other ∧ place = place') ∧ routed = later := by
          simpa using split
        exact ⟨lane, lands⟩
      | cons first earlier =>
        obtain ⟨rfl, behind⟩ := List.cons.inj split
        exact inTurn earlier other place' later behind

/-- What becomes of a request on behalf of some objects. -/
structure Distributes (p : Pool α β γ σ) (request : α) (objects : List ObjectId)
    (wantsReply : Bool) (routed : List (ObjectId × Nat)) (receipts : List (ObjectId × Receipt))
    (p' : Pool α β γ σ) : Prop where
  covered : routed.map Prod.fst = objects
  listed : receipts.map Prod.fst = objects
  /-- Each object is routed in the pool that routing those before it has left. -/
  inTurn : ∀ earlier object place later, routed = earlier ++ (object, place) :: later →
    ∃ lane, (p.targets (earlier.map Prod.fst)).2.Lands object true place lane
  pinned : ∀ object place, (object, place) ∈ routed → 0 < object → p'.Pinned object place
  routing : RoutesAs (p.targets objects).2 p'
  memory : p'.memory = p.memory
  /-- Nothing happens to a lane but that it accepts its copies, as many as it has room for. -/
  filled : ∀ k lane, p.lanes[k]? = some lane →
    p'.lanes[k]? = some (lane.offered request wantsReply (shareOf k routed)) ∧
      p'.laneEvents k = p.laneEvents k ++ lane.offeredEvents request wantsReply (shareOf k routed)
  told : ∀ k lane, p.lanes[k]? = some lane →
    receiptsAt k routed receipts = (List.range (shareOf k routed)).map
      (fun i => .of k wantsReply (lane.mailbox.offer i))

theorem Sound.distributes {p : Pool α β γ σ} (sound : p.Sound) (stocked : p.size ≠ 0)
    (request : α) {objects : List ObjectId} (some : objects ≠ []) (wantsReply : Bool) :
    ∃ routed receipts, (p.sendEach request objects wantsReply).1 = .ok receipts ∧
      p.Distributes request objects wantsReply routed receipts
        (p.sendEach request objects wantsReply).2 := by
  obtain ⟨routed, same, targets, inTurn⟩ :=
    sound.targets_land (sound.size_eq ▸ stocked) objects
  let submitted := submitAll request wantsReply (found routed) (p.targets objects).2
  have sent : p.sendEach request objects wantsReply = (.ok submitted.1, submitted.2) := by
    simp [sendEach, some, stocked, targets, submitted]
  have admits : Admits (· = request) (p.targets objects).2 submitted.2 := submitAll_admits ..
  obtain ⟨routes, generator, resolved⟩ := targets_same objects p
  have offers {k lane} (at_ : p.lanes[k]? = .some lane) :=
    have still : (p.targets objects).2.lanes[k]? = .some lane := by rw [resolved, at_]
    submitAll_offers still request wantsReply routed
  refine ⟨routed, submitted.1, by rw [sent], ?_⟩
  rw [sent]
  constructor
  case covered => exact same
  case listed =>
    rw [submitAll_objects, ← same]
    simp [found]
  case inTurn => exact inTurn
  case pinned =>
    intro object place mem pos
    have target : (object, .ok place) ∈ (p.targets objects).1 := by
      rw [targets]
      exact List.mem_map_of_mem (f := fun entry => (entry.1, Except.ok entry.2)) mem
    rcases sound.targets_pin pos target with none | ⟨place', is, id, route, listed⟩
    · cases none
    obtain rfl : place = place' := Except.ok.inj is
    exact ⟨id, by rw [admits.routes.routes, route], by rw [admits.routes.roster, listed]⟩
  case routing => exact admits.routes
  case memory => rw [admits.memory, resolved]
  case filled =>
    intro k lane at_
    have before : (p.targets objects).2.laneEvents k = p.laneEvents k := by
      rw [resolved]
      rfl
    obtain ⟨there, shown, -⟩ := offers at_
    exact ⟨there, by rw [shown, before]⟩
  case told =>
    intro k lane at_
    exact (offers at_).2.2

namespace Distributes
variable {p p' : Pool α β γ σ} {request : α} {objects : List ObjectId} {wantsReply : Bool}
  {routed : List (ObjectId × Nat)} {receipts : List (ObjectId × Receipt)}

/-- Each receipt is that of one copy, offered to the lane to which the object was routed. -/
theorem copy (sent : p.Distributes request objects wantsReply routed receipts p')
    {entry : ObjectId × Receipt} (mem : entry ∈ receipts) :
    ∃ k lane number, (entry.1, k) ∈ routed ∧ p.lanes[k]? = some lane ∧
      number < shareOf k routed ∧ entry.2 = .of k wantsReply (lane.mailbox.offer number) := by
  obtain ⟨k, there, told⟩ := mem_receiptsAt (sent.listed.trans sent.covered.symm) mem
  obtain ⟨earlier, later, split⟩ := List.append_of_mem there
  obtain ⟨lane, lands⟩ := sent.inTurn earlier _ _ later split
  obtain ⟨routes, generator, same⟩ := targets_same (earlier.map Prod.fst) p
  have at_ : p.lanes[k]? = some lane := by
    rw [← lands.there, same]
  rw [sent.told k lane at_, List.mem_map] at told
  obtain ⟨number, below, is⟩ := told
  exact ⟨k, lane, number, there, at_, List.mem_range.mp below, is.symm⟩

/-- Whoever waits for a reply has a copy in the buffer of a lane whose consumer is at work. -/
theorem awaiting (sent : p.Distributes request objects wantsReply routed receipts p')
    {object : ObjectId} {k serial : Nat} (mem : (object, .awaiting k serial) ∈ receipts) :
    ∃ lane, (object, k) ∈ routed ∧ p'.lanes[k]? = some lane ∧
      (⟨serial, .request request, true⟩ : Envelope (LaneMessage α)) ∈ lane.mailbox.buffer ∧
      (⟨serial, .request request, true⟩ : Envelope (LaneMessage α)) ∈
        Mailbox.acceptances (LaneEvent.inMailbox (p'.laneEvents k)) ∧
      lane.mailbox.phase.ended = false := by
  obtain ⟨place, lane, number, there, at_, below, is⟩ := sent.copy mem
  obtain ⟨rfl, rfl, ok⟩ := Receipt.of_eq_awaiting is.symm
  obtain ⟨filled, shown⟩ := sent.filled place lane at_
  obtain ⟨taken, running⟩ : _ ∈ lane.mailbox.admitted (.request request) true _ ∧ _ :=
    Mailbox.mem_admitted ok below
  refine ⟨_, there, filled, List.mem_append_right _ taken, ?_, running⟩
  rw [shown, LaneEvent.inMailbox_append, Mailbox.acceptances_append]
  refine List.mem_append_right _ ?_
  simpa [Lane.offeredEvents] using taken

end Distributes

/-! ### The replies together -/

/-- The last entry of a list of entries for a key that it lists. -/
theorem exists_last_entry {υ : Type} {object : ObjectId} {entries : List (ObjectId × υ)}
    (mem : object ∈ entries.map Prod.fst) :
    ∃ earlier value later, entries = earlier ++ (object, value) :: later ∧
      object ∉ later.map Prod.fst := by
  induction entries with
  | nil => cases mem
  | cons entry rest ih =>
    by_cases later : object ∈ rest.map Prod.fst
    · obtain ⟨earlier, value, last, rfl, absent⟩ := ih later
      exact ⟨entry :: earlier, value, last, rfl, absent⟩
    · have here : object = entry.1 := by simpa [later] using mem
      exact ⟨[], entry.2, rest, by rw [here, List.nil_append], later⟩

/-- Inserting entries one after the other leaves the last one for each key. -/
theorem get?_foldl_insert {υ : Type} {object : ObjectId} (entries : List (ObjectId × υ))
    (m : OrderedMap ObjectId υ) (absent : object ∉ entries.map Prod.fst) :
    (entries.foldl (fun m entry => m.insert entry.1 entry.2) m).get? object = m.get? object := by
  induction entries generalizing m with
  | nil => rfl
  | cons entry rest ih =>
    obtain ⟨here, later⟩ : ¬ object = entry.1 ∧ object ∉ rest.map Prod.fst := by
      simpa using absent
    rw [List.foldl_cons, ih _ later, OrderedMap.get?_insert, if_neg (Ne.symm here)]

theorem mapM_eq_some_iff {ι υ : Type} {f : ι → Option υ} {list : List ι} {results : List υ} :
    list.mapM f = some results ↔ list.map f = results.map some := by
  induction list generalizing results with
  | nil => cases results <;> simp
  | cons x rest ih =>
    cases here : f x with
    | none => cases results <;> simp [List.mapM_cons, here]
    | some y =>
      have found : (x :: rest).mapM f = (rest.mapM f).map (y :: ·) := by
        simp [List.mapM_cons, here, Option.map_eq_bind]
      cases results <;> simp [found, here, ih, Option.map_eq_some_iff, and_comm]

section Outcomes
variable {p : Pool α β γ σ} {receipts : List (ObjectId × Receipt)}
  {replies : OrderedMap ObjectId (Except Error (Option β))}

/-- The reply to each of some copies, with the object for which the copy is. -/
def Replied (p : Pool α β γ σ) (receipts : List (ObjectId × Receipt))
    (entries : List (ObjectId × Except Error (Option β))) : Prop :=
  receipts.map (fun r => (p.outcome? r.2).map (fun reply => (r.1, reply))) = entries.map some

theorem outcomes?_eq_some_iff : p.outcomes? receipts = some replies ↔
    ∃ entries, p.Replied receipts entries ∧
      entries.foldl (fun m entry => m.insert entry.1 entry.2) .empty = replies := by
  simp only [outcomes?, Option.map_eq_some_iff, mapM_eq_some_iff, Replied]

theorem Replied.keys {entries : List (ObjectId × Except Error (Option β))}
    (each : p.Replied receipts entries) : entries.map Prod.fst = receipts.map Prod.fst := by
  induction receipts generalizing entries with
  | nil =>
    have none : entries.map some = [] := each.symm
    rw [List.map_eq_nil_iff.mp none]
    rfl
  | cons first rest ih =>
    cases entries with
    | nil => cases each
    | cons entry entries =>
      obtain ⟨here, later⟩ := List.cons.inj each
      obtain ⟨reply, -, rfl⟩ := Option.map_eq_some_iff.mp here
      rw [List.map_cons, List.map_cons, ih later]

/-- The replies are there when each of them is. -/
theorem outcomes?_isSome (ready : ∀ entry ∈ receipts, (p.outcome? entry.2).isSome) :
    (p.outcomes? receipts).isSome := by
  have all : ∃ entries, p.Replied receipts entries := by
    induction receipts with
    | nil => exact ⟨[], rfl⟩
    | cons entry rest ih =>
      obtain ⟨here, later⟩ := List.forall_mem_cons.mp ready
      obtain ⟨reply, is⟩ := Option.isSome_iff_exists.mp here
      obtain ⟨entries, others⟩ := ih later
      exact ⟨(entry.1, reply) :: entries, by
        rw [Replied, List.map_cons, is, others]
        rfl⟩
  obtain ⟨entries, each⟩ := all
  rw [outcomes?_eq_some_iff.mpr ⟨entries, each, rfl⟩]
  rfl

/-- An object is answered by what became of the last copy for it. -/
theorem get?_outcomes (is : p.outcomes? receipts = some replies)
    {earlier later : List (ObjectId × Receipt)} {object : ObjectId} {receipt : Receipt}
    (split : receipts = earlier ++ (object, receipt) :: later)
    (last : object ∉ later.map Prod.fst) :
    ∃ reply, p.outcome? receipt = some reply ∧ replies.get? object = some reply := by
  obtain ⟨entries, each, rfl⟩ := outcomes?_eq_some_iff.mp is
  rw [Replied, split, List.map_append, List.map_cons, eq_comm, List.map_eq_append_iff] at each
  obtain ⟨before, rest, rfl, -, each⟩ := each
  obtain ⟨entry, behind, rfl, here, others⟩ := List.map_eq_cons_iff.mp each
  obtain ⟨reply, told, rfl⟩ := Option.map_eq_some_iff.mp here.symm
  have absent : object ∉ behind.map Prod.fst := by
    have labels : p.Replied later behind := others.symm
    rw [labels.keys]
    exact last
  refine ⟨reply, told, ?_⟩
  rw [List.foldl_append, List.foldl_cons, get?_foldl_insert _ _ absent, OrderedMap.get?_insert,
    if_pos rfl]

theorem get?_outcomes_absent (is : p.outcomes? receipts = some replies) {object : ObjectId}
    (absent : object ∉ receipts.map Prod.fst) : replies.get? object = none := by
  obtain ⟨entries, each, rfl⟩ := outcomes?_eq_some_iff.mp is
  rw [← each.keys] at absent
  exact get?_foldl_insert _ _ absent

end Outcomes
end Pool

namespace RunningPool
variable {α β γ σ : Type} {h : Handler α β γ σ}

/-- What becomes known of a copy in a run. -/
inductive CopyAnswers (h : Handler α β γ σ) (s : RunningPool α β γ σ) (steps : List (Step α γ σ))
    (request : α) : Receipt → Except Error (Option β) → Prop
  | refused (cause : Error) : CopyAnswers h s steps request (.refused cause) (.error cause)
  | accepted : CopyAnswers h s steps request .accepted (.ok none)
  | replied {k serial : Nat} {answer : Except Error (Option β)}
      (answers : LaneAnswers h s steps k ⟨serial, .request request, true⟩ answer) :
      CopyAnswers h s steps request (.awaiting k serial) answer

/-- How a request on behalf of some objects is answered once some more steps were taken. -/
structure AnswersEach (h : Handler α β γ σ) (s : RunningPool α β γ σ) (steps : List (Step α γ σ))
    (request : α) (objects : List ObjectId) (wantsReply : Bool)
    (receipts : List (ObjectId × Receipt)) (more : List (Step α γ σ)) : Prop where
  /-- Replies are there as soon as the consumers of the lanes had the steps to get to the copies. -/
  ready : (∀ object k serial lane, wantsReply = true → (object, .awaiting k serial) ∈ receipts →
      ((run h steps s).pool.sendEach request objects wantsReply).2.lanes[k]? = some lane →
      lane.pending + 2 ≤ more.countP (Step.consumes k)) →
    ((run h (steps ++ .sendEach request objects wantsReply :: more) s).pool.outcomes?
      receipts).isSome
  keys : ∀ replies, (run h (steps ++ .sendEach request objects wantsReply :: more) s).pool.outcomes?
      receipts = some replies →
    replies.keys.Nodup ∧ ∀ object, object ∈ replies.keys ↔ object ∈ objects
  /-- An object is answered by what became of the last copy for it. -/
  answers : ∀ replies,
    (run h (steps ++ .sendEach request objects wantsReply :: more) s).pool.outcomes? receipts =
      some replies →
    ∀ earlier object receipt later, receipts = earlier ++ (object, receipt) :: later →
      object ∉ later.map Prod.fst →
      ∃ answer, replies.get? object = some answer ∧
        CopyAnswers h s (steps ++ .sendEach request objects wantsReply :: more) request receipt
          answer

section Answers
variable {config : PoolConfig} {generator : Generator} {memory : σ}
  {steps more : List (Step α γ σ)} {request : α} {objects : List ObjectId} {wantsReply : Bool}
  {routed : List (ObjectId × Nat)} {receipts : List (ObjectId × Receipt)}

/-- A copy that waits is answered when the consumer of its lane gets to it. -/
theorem outcome_of_turns
    (sent : (run h steps (start config generator memory)).pool.Distributes request objects
      wantsReply routed receipts
      ((run h steps (start config generator memory)).pool.sendEach request objects wantsReply).2)
    {object : ObjectId} {k serial : Nat} (mem : (object, .awaiting k serial) ∈ receipts)
    (enough : ∀ lane,
      ((run h steps (start config generator memory)).pool.sendEach request objects
        wantsReply).2.lanes[k]? = some lane → lane.pending + 2 ≤ more.countP (Step.consumes k)) :
    ((run h (steps ++ .sendEach request objects wantsReply :: more)
      (start config generator memory)).pool.outcome? (.awaiting k serial)).isSome := by
  let s := run h (steps ++ [.sendEach request objects wantsReply]) (start config generator memory)
  have after : s.pool = ((run h steps (start config generator memory)).pool.sendEach request
      objects wantsReply).2 := by simp only [s, run_append, run_cons, run_nil, apply, perform]
  have whole : run h (steps ++ .sendEach request objects wantsReply :: more)
      (start config generator memory) = run h more s := by
    simp only [s, run_append, run_cons, run_nil]
  obtain ⟨lane, -, at_, waits, -, running⟩ := sent.awaiting mem
  have enough := enough lane at_
  rw [← after] at at_
  obtain ⟨front, back, buffer⟩ := List.append_of_mem waits
  have reached : lane.mailbox.Waits ⟨serial, .request request, true⟩
      (more.countP (Step.consumes k)) := by
    refine .of_buffer running buffer ?_
    simp only [Lane.pending, Mailbox.size, buffer, List.length_append, List.length_cons] at enough
    omega
  obtain ⟨id, tick, moves⟩ := lane_moves_any at_
  obtain ⟨lane', events, there, -, turns⟩ := run_turns (h := h) more at_
  have answered := turns.answer moves.mailbox reached rfl
  rw [whole]
  simpa [Pool.outcome?, there] using answered

/-- A copy that was answered was answered by its own lane. -/
theorem copy_answers
    (sent : (run h steps (start config generator memory)).pool.Distributes request objects
      wantsReply routed receipts
      ((run h steps (start config generator memory)).pool.sendEach request objects wantsReply).2)
    {object : ObjectId} {receipt : Receipt} (mem : (object, receipt) ∈ receipts)
    {answer : Except Error (Option β)}
    (is : (run h (steps ++ .sendEach request objects wantsReply :: more)
      (start config generator memory)).pool.outcome? receipt = some answer) :
    CopyAnswers h (start config generator memory)
      (steps ++ .sendEach request objects wantsReply :: more) request receipt answer := by
  cases receipt with
  | refused cause =>
    obtain rfl : .error cause = answer := Option.some.inj is
    exact .refused cause
  | accepted =>
    obtain rfl : .ok none = answer := Option.some.inj is
    exact .accepted
  | awaiting k serial =>
    obtain ⟨lane, -, -, -, accepted, -⟩ := sent.awaiting mem
    have whole : run h (steps ++ .sendEach request objects wantsReply :: more)
        (start config generator memory) = run h more ((run h steps
          (start config generator memory)).apply h (.sendEach request objects wantsReply)) := by
      rw [run_append, run_cons]
    obtain ⟨events, grown⟩ := (run_evolves (h := h) more ((run h steps
      (start config generator memory)).apply h (.sendEach request objects wantsReply))).grows k
    refine .replied ((run_laneRepliesSoundly h config generator memory _ k).answered _ ?_ rfl _ is)
    rw [whole, grown, LaneEvent.inMailbox_append, Mailbox.acceptances_append]
    exact List.mem_append_left _ accepted

theorem answersEach
    (sent : (run h steps (start config generator memory)).pool.Distributes request objects
      wantsReply routed receipts
      ((run h steps (start config generator memory)).pool.sendEach request objects wantsReply).2)
    (more : List (Step α γ σ)) :
    AnswersEach h (start config generator memory) steps request objects wantsReply receipts
      more := by
  constructor
  case ready =>
    intro enough
    refine Pool.outcomes?_isSome ?_
    rintro ⟨object, receipt⟩ mem
    cases receipt with
    | refused cause => rfl
    | accepted => rfl
    | awaiting k serial =>
      obtain ⟨place, lane, number, -, -, -, is⟩ := sent.copy mem
      have wants := (Receipt.of_eq_awaiting is.symm).1
      exact outcome_of_turns sent mem fun lane => enough object k serial lane wants mem
  case keys =>
    intro replies is
    refine ⟨replies.nodup_keys, fun object => ?_⟩
    have listed : object ∈ replies.keys ↔ (replies.get? object).isSome := by
      simp [OrderedMap.keys, Option.isSome_iff_exists, OrderedMap.get?_eq_some_iff]
    rw [listed, ← sent.listed]
    constructor
    · intro some
      by_contra absent
      simp [Pool.get?_outcomes_absent is absent] at some
    · intro mem
      obtain ⟨earlier, receipt, later, split, last⟩ := Pool.exists_last_entry mem
      obtain ⟨reply, -, found⟩ := Pool.get?_outcomes is split last
      rw [found]
      rfl
  case answers =>
    intro replies is earlier object receipt later split last
    obtain ⟨reply, told, found⟩ := Pool.get?_outcomes is split last
    have mem : (object, receipt) ∈ receipts := by
      rw [split]
      exact List.mem_append_right _ (List.mem_cons_self ..)
    exact ⟨reply, found, copy_answers sent mem told⟩

end Answers

/-- A request on behalf of several objects, in whatever state a run has left the pool. Without
objects or without lanes it is refused and changes nothing. Otherwise the objects are routed in
order, with affinity, and each lane gets its share of the copies at once; whatever happens later,
each object is answered by what its lane made of the last copy for it. -/
theorem each_object_is_answered (h : Handler α β γ σ) (config : PoolConfig) (generator : Generator)
    (memory : σ) (steps : List (Step α γ σ)) (request : α) (objects : List ObjectId)
    (wantsReply : Bool) :
    let p := (run h steps (start config generator memory)).pool
    let sent := p.sendEach request objects wantsReply
    (objects = [] → sent =
      (.error (.invalidArgument "object id list must not be empty"), p)) ∧
    (objects ≠ [] → p.size = 0 → sent = (.error .noWorkers, p)) ∧
    (objects ≠ [] → p.size ≠ 0 → ∃ routed receipts, sent.1 = .ok receipts ∧
      p.Distributes request objects wantsReply routed receipts sent.2 ∧
      ∀ more, AnswersEach h (start config generator memory) steps request objects wantsReply
        receipts more) := by
  intro p sent
  refine ⟨fun none => ?_, fun some empty => ?_, fun some stocked => ?_⟩
  · simp [sent, Pool.sendEach, none]
  · simp [sent, Pool.sendEach, some, empty]
  · have sound : p.Sound := run_sound (.new config generator memory)
    obtain ⟨routed, receipts, ok, distributes⟩ := sound.distributes stocked request some wantsReply
    exact ⟨routed, receipts, ok, distributes, answersEach distributes⟩

end RunningPool
end Lanes
