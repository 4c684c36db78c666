import Lanes.Proofs.Mailbox.Moves

/-!
# Copies of one payload

Copies of a payload that are submitted to a mailbox one after the other, while its consumer does not
run, are accepted as long as there is room: the first ones get the next serial numbers and stand in
this order behind what was buffered, and the others are refused alike.
-/
namespace Lanes

/-- So many copies of a payload, numbered from a serial number on. -/
def copies {α : Type} (payload : α) (wantsReply : Bool) (first count : Nat) : List (Envelope α) :=
  (List.range count).map (fun i => ⟨first + i, payload, wantsReply⟩)

@[simp] theorem copies_zero {α : Type} (payload : α) (wantsReply : Bool) (first : Nat) :
    copies payload wantsReply first 0 = [] := rfl

theorem copies_succ {α : Type} (payload : α) (wantsReply : Bool) (first count : Nat) :
    copies payload wantsReply first (count + 1) =
      ⟨first, payload, wantsReply⟩ :: copies payload wantsReply (first + 1) count := by
  simp [copies, List.range_succ_eq_map, Function.comp_def, Nat.add_assoc, Nat.add_comm 1]

namespace Mailbox
variable {α β : Type} {m : Mailbox α β} {payload : α} {wantsReply : Bool}

/-- No payload is accepted, whatever the room. -/
def isShut (m : Mailbox α β) : Bool := m.closed || !m.phase.admits

/-- How many more payloads are accepted. -/
def room (m : Mailbox α β) : Nat := if m.isShut then 0 else m.capacity - m.size

/-- What becomes of the copy with a number, when copies of a payload are submitted: it is accepted
under a serial number if there is room for so many. -/
def offer (m : Mailbox α β) (number : Nat) : Except Error Nat :=
  if number < m.room then .ok (m.accepted + number)
  else .error (if m.isShut then .alreadyClosed else .queueFull m.capacity)

/-- What is accepted when so many copies of a payload are submitted. -/
def admitted (m : Mailbox α β) (payload : α) (wantsReply : Bool) (count : Nat) :
    List (Envelope α) :=
  copies payload wantsReply m.accepted (min count m.room)

/-- The mailbox after so many copies of a payload were submitted. -/
def offered (m : Mailbox α β) (payload : α) (wantsReply : Bool) (count : Nat) : Mailbox α β :=
  { m with
    buffer := m.buffer ++ m.admitted payload wantsReply count
    accepted := m.accepted + min count m.room }

@[simp] theorem admitted_zero : m.admitted payload wantsReply 0 = [] := by simp [admitted]

@[simp] theorem offered_zero : m.offered payload wantsReply 0 = m := by simp [offered]

theorem refusal_eq (m : Mailbox α β) : m.refusal =
    if m.isShut then some .alreadyClosed
    else if m.room = 0 then some (.queueFull m.capacity) else none := by
  unfold refusal room isShut
  cases m.closed <;> cases m.phase.admits <;> simp [Nat.sub_eq_zero_iff_le]

/-- Submitting a payload is offering the first copy of it. -/
theorem accept?_eq (m : Mailbox α β) (payload : α) (wantsReply : Bool) :
    m.accept? payload wantsReply = (m.offer 0).map
      (fun serial => (⟨serial, payload, wantsReply⟩, m.offered payload wantsReply 1)) := by
  unfold accept? offer
  rw [refusal_eq]
  cases shut : m.isShut with
  | true => simp [room, shut, Except.map]
  | false =>
    by_cases full : m.room = 0
    · simp [full, Except.map]
    · have one : min 1 m.room = 1 := by omega
      simp [full, Nat.pos_of_ne_zero full, Except.map, offered, admitted, one, copies_succ]

theorem isShut_offered (count : Nat) :
    (m.offered payload wantsReply count).isShut = m.isShut := rfl

theorem room_offered (count : Nat) :
    (m.offered payload wantsReply count).room = m.room - min count m.room := by
  have size : (m.offered payload wantsReply count).size = m.size + min count m.room := by
    simp [offered, admitted, Mailbox.size, copies]
  unfold room at size ⊢
  rw [isShut_offered, size]
  split
  · rw [Nat.min_zero]
  · simp only [offered]
    omega

/-- After the first copy the others go on as they would have. -/
theorem offer_offered (number : Nat) :
    (m.offered payload wantsReply 1).offer number = m.offer (number + 1) := by
  unfold offer
  rw [room_offered, isShut_offered]
  by_cases more : number + 1 < m.room
  · have one : min 1 m.room = 1 := by omega
    have before : number < m.room - 1 := by omega
    simp only [offered, one, more, before, if_true]
    congr 1
    omega
  · have none : ¬ number < m.room - min 1 m.room := by omega
    simp only [offered, more, none, if_false]

theorem admitted_offered (count : Nat) :
    m.admitted payload wantsReply 1 ++
        (m.offered payload wantsReply 1).admitted payload wantsReply count =
      m.admitted payload wantsReply (count + 1) := by
  unfold admitted
  rw [room_offered]
  by_cases full : m.room = 0
  · simp [full]
  · have one : min 1 m.room = 1 := by omega
    have split : min (count + 1) m.room = min count (m.room - 1) + 1 := by omega
    simp [offered, one, split, copies_succ]

theorem offered_offered (count : Nat) :
    (m.offered payload wantsReply 1).offered payload wantsReply count =
      m.offered payload wantsReply (count + 1) := by
  have number : min 1 m.room + min count (m.room - min 1 m.room) = min (count + 1) m.room := by
    omega
  rw [offered, room_offered]
  simp only [offered, ← admitted_offered count, List.append_assoc, ← number, Nat.add_assoc]

theorem admitted_of_full (full : m.room = 0) (count : Nat) :
    m.admitted payload wantsReply count = [] := by
  simp [admitted, full]

theorem offered_of_full (full : m.room = 0) (count : Nat) :
    m.offered payload wantsReply count = m := by
  simp [offered, admitted, full]

theorem offer_eq_ok_iff {number serial : Nat} :
    m.offer number = .ok serial ↔ number < m.room ∧ serial = m.accepted + number := by
  unfold offer
  split
  case isTrue fits => simp [fits, eq_comm]
  case isFalse full => simp [full]

/-- A copy is accepted only while the consumer is still at work. -/
theorem mem_admitted {number serial count : Nat} (ok : m.offer number = .ok serial)
    (below : number < count) :
    ⟨serial, payload, wantsReply⟩ ∈ m.admitted payload wantsReply count ∧
      (m.offered payload wantsReply count).phase.ended = false := by
  obtain ⟨fits, rfl⟩ := offer_eq_ok_iff.mp ok
  constructor
  · have listed : number ∈ List.range (min count m.room) := by
      rw [List.mem_range]
      omega
    exact List.mem_map_of_mem listed
  · have admits : m.phase.admits = true := by
      cases shut : m.phase.admits with
      | true => rfl
      | false => simp [room, isShut, shut] at fits
    change m.phase.ended = false
    cases hp : m.phase <;> simp_all [ConsumerPhase.admits, ConsumerPhase.ended]

end Mailbox
end Lanes
