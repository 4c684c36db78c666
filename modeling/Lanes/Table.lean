import Lanes.Error
import Lanes.OrderedMap

/-!
# Tables of bound objects

Each lane has a table of the objects bound to it, by id. Binding and unbinding through the table's
own operations refuse ids that are not positive; a handler may also work on the map itself.
-/
namespace Lanes

/-- Names an object; ids up to zero mean that there is none. -/
abbrev ObjectId := Int

/-- Numbers a lane of a pool from one on. -/
abbrev LaneId := Int

/-- Objects by id. -/
abbrev Table (γ : Type) := OrderedMap ObjectId γ

namespace Table
variable {γ : Type}

/-- Binds an object, in place of the one bound before. -/
def bind (t : Table γ) (id : ObjectId) (object : γ) : Except Error (Table γ) :=
  if id ≤ 0 then .error (.objectNotPositive id) else .ok (t.insert id object)

/-- Unbinds an object and gives it back, if there was one. -/
def unbind (t : Table γ) (id : ObjectId) : Except Error (Option γ × Table γ) :=
  if id ≤ 0 then .error (.objectNotPositive id) else .ok (t.get? id, t.erase id)

/-- The object bound to an id. -/
def lookup (t : Table γ) (id : ObjectId) : Except Error γ :=
  if id ≤ 0 then .error (.objectNotPositive id)
  else
    match t.get? id with
    | some object => .ok object
    | none => .error (.noSuchObject id)

/-! ### What goes from a table -/

/-- The entries that another table has lost. -/
def lost (t t' : Table γ) : List (ObjectId × γ) :=
  t.entries.filter (fun entry => !t'.contains entry.1)

theorem lost_self (t : Table γ) : t.lost t = [] := by
  refine List.filter_eq_nil_iff.mpr fun entry mem => ?_
  have bound : t.get? entry.1 = some entry.2 := OrderedMap.get?_eq_some_iff.mpr mem
  simp [OrderedMap.contains, bound]

theorem lost_insert (t : Table γ) (id : ObjectId) (object : γ) :
    t.lost (t.insert id object) = [] := by
  refine List.filter_eq_nil_iff.mpr fun entry mem => ?_
  have bound : t.get? entry.1 = some entry.2 := OrderedMap.get?_eq_some_iff.mpr mem
  simp only [OrderedMap.contains, OrderedMap.get?_insert]
  split <;> simp [bound]

theorem lost_filter (t : Table γ) (keep : ObjectId → γ → Bool) :
    t.lost (t.filter keep) = t.entries.filter (fun entry => !keep entry.1 entry.2) := by
  refine List.filter_congr fun entry mem => ?_
  have bound : t.get? entry.1 = some entry.2 := OrderedMap.get?_eq_some_iff.mpr mem
  rw [OrderedMap.contains, OrderedMap.get?_filter, bound]
  cases kept : keep entry.1 entry.2 <;> simp [Option.filter, kept]

/-- What a filter takes out and what it leaves are together all that there was. -/
theorem size_filter_add_lost (t : Table γ) (keep : ObjectId → γ → Bool) :
    OrderedMap.size (t.filter keep) + (t.lost (t.filter keep)).length = t.size := by
  rw [lost_filter, OrderedMap.size, OrderedMap.filter, OrderedMap.size,
    List.length_eq_countP_add_countP (fun entry => keep entry.1 entry.2) (l := t.entries)]
  simp [List.countP_eq_length_filter]

theorem filter_key {list : List (ObjectId × γ)} (distinct : (list.map Prod.fst).Nodup)
    {id : ObjectId} {object : γ} (mem : (id, object) ∈ list) :
    list.filter (fun entry => entry.1 = id) = [(id, object)] := by
  induction list with
  | nil => cases mem
  | cons entry rest ih =>
    obtain ⟨new, others⟩ := List.nodup_cons.mp distinct
    by_cases here : entry.1 = id
    · subst here
      have absent (object : γ) : (entry.1, object) ∉ rest := fun there =>
        new (List.mem_map.mpr ⟨_, there, rfl⟩)
      have first : (entry.1, object) = entry :=
        (List.mem_cons.mp mem).resolve_right (absent object)
      have none : rest.filter (fun other => other.1 = entry.1) = [] := by
        refine List.filter_eq_nil_iff.mpr fun other there same => ?_
        exact new (List.mem_map.mpr ⟨other, there, of_decide_eq_true same⟩)
      simp [first, none]
    · have later : (id, object) ∈ rest := by
        rcases List.mem_cons.mp mem with rfl | later
        · exact absurd rfl here
        · exact later
      simp [here, ih others later]

theorem erase_of_unbound {t : Table γ} {id : ObjectId} (unbound : t.get? id = none) :
    t.erase id = t := by
  refine OrderedMap.eq_of_get? fun key => ?_
  rw [OrderedMap.get?_erase]
  split
  · next same => rw [← same, unbound]
  · rfl

/-- Unbinding takes out the one entry for the id. -/
theorem lost_erase {t : Table γ} {id : ObjectId} {object : γ} (bound : t.get? id = some object) :
    t.lost (t.erase id) = [(id, object)] := by
  rw [OrderedMap.erase, lost_filter]
  simpa using filter_key t.nodup_keys (OrderedMap.get?_eq_some_iff.mp bound)

end Table
end Lanes
