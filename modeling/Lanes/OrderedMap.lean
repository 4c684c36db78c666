/-!
# Ordered maps

A map is its list of entries in strictly ascending order of keys, so two maps that answer every
look-up alike are equal. Look-up walks the list; insertion replaces an entry with the same key.
The order of the entries is the order in which answers list them.
-/
namespace Lanes

/-- A finite map, kept in ascending order of its keys. -/
structure OrderedMap (κ υ : Type) [LT κ] where
  entries : List (κ × υ)
  ascending : entries.Pairwise (fun a b => a.1 < b.1)

namespace OrderedMap
variable {κ υ : Type} [LT κ]

/-! ### Entry lists -/

/-- The value that an ascending list of entries holds for a key. -/
def find [DecidableEq κ] (key : κ) : List (κ × υ) → Option υ
  | [] => none
  | entry :: rest => if entry.1 = key then some entry.2 else find key rest

/-- Puts an entry in its place, in place of the one with the same key. -/
def place [DecidableLT κ] (key : κ) (value : υ) : List (κ × υ) → List (κ × υ)
  | [] => [(key, value)]
  | entry :: rest =>
    if key < entry.1 then (key, value) :: entry :: rest
    else if entry.1 < key then entry :: place key value rest
    else (key, value) :: rest

theorem mem_place [DecidableLT κ] {key : κ} {value : υ} {a : κ × υ} {list : List (κ × υ)}
    (h : a ∈ place key value list) : a = (key, value) ∨ a ∈ list := by
  induction list with
  | nil => simpa [place] using h
  | cons entry rest ih =>
    simp only [place] at h
    split at h
    · simpa using h
    · split at h
      · rcases List.mem_cons.mp h with rfl | h
        · exact Or.inr (List.mem_cons_self ..)
        · exact (ih h).imp_right (List.mem_cons_of_mem _)
      · rcases List.mem_cons.mp h with rfl | h
        · exact Or.inl rfl
        · exact Or.inr (List.mem_cons_of_mem _ h)

theorem ascending_place [DecidableLT κ] [LE κ] [Std.IsLinearOrder κ] [Std.LawfulOrderLT κ]
    (key : κ) (value : υ) {list : List (κ × υ)}
    (h : list.Pairwise (fun a b => a.1 < b.1)) :
    (place key value list).Pairwise (fun a b => a.1 < b.1) := by
  induction list with
  | nil => simp [place]
  | cons entry rest ih =>
    obtain ⟨head, tail⟩ := List.pairwise_cons.mp h
    simp only [place]
    split
    · next below =>
      refine List.pairwise_cons.mpr ⟨fun a ha => ?_, h⟩
      rcases List.mem_cons.mp ha with rfl | ha
      · exact below
      · exact Std.lt_trans below (head a ha)
    · next notBelow =>
      split
      · next above =>
        refine List.pairwise_cons.mpr ⟨fun a ha => ?_, ih tail⟩
        rcases mem_place ha with rfl | ha
        · exact above
        · exact head a ha
      · next notAbove =>
        have same : key = entry.1 := by
          rcases Std.lt_trichotomy key entry.1 with h | h | h
          · exact absurd h notBelow
          · exact h
          · exact absurd h notAbove
        refine List.pairwise_cons.mpr ⟨fun a ha => ?_, tail⟩
        exact same ▸ head a ha

/-! ### Operations -/

def empty : OrderedMap κ υ := ⟨[], List.Pairwise.nil⟩

def get? [DecidableEq κ] (m : OrderedMap κ υ) (key : κ) : Option υ :=
  find key m.entries

def contains [DecidableEq κ] (m : OrderedMap κ υ) (key : κ) : Bool :=
  (m.get? key).isSome

def insert [DecidableLT κ] [LE κ] [Std.IsLinearOrder κ] [Std.LawfulOrderLT κ]
    (m : OrderedMap κ υ) (key : κ) (value : υ) : OrderedMap κ υ :=
  ⟨place key value m.entries, ascending_place key value m.ascending⟩

/-- The map of the entries that pass a test. -/
def filter (m : OrderedMap κ υ) (keep : κ → υ → Bool) : OrderedMap κ υ :=
  ⟨m.entries.filter (fun entry => keep entry.1 entry.2), m.ascending.filter _⟩

def erase [DecidableEq κ] (m : OrderedMap κ υ) (key : κ) : OrderedMap κ υ :=
  m.filter (fun k _ => k ≠ key)

def size (m : OrderedMap κ υ) : Nat := m.entries.length

def isEmpty (m : OrderedMap κ υ) : Bool := m.entries.isEmpty

def keys (m : OrderedMap κ υ) : List κ := m.entries.map Prod.fst

/-! ### What look-up sees -/

@[simp] theorem get?_empty [DecidableEq κ] (key : κ) :
    (empty : OrderedMap κ υ).get? key = none := rfl

section Lookup
variable [DecidableEq κ] [DecidableLT κ] [LE κ] [Std.IsLinearOrder κ] [Std.LawfulOrderLT κ]

theorem find_place (key other : κ) (value : υ) (list : List (κ × υ)) :
    find other (place key value list) =
      if key = other then some value else find other list := by
  induction list with
  | nil => rfl
  | cons entry rest ih =>
    simp only [place]
    split
    · simp [find]
    · next notBelow =>
      split
      · next above =>
        by_cases h : key = other
        · subst h
          have : entry.1 ≠ key := Std.ne_of_lt above
          simp [find, this, ih]
        · simp [find, ih, h]
      · next notAbove =>
        have same : key = entry.1 := by
          rcases Std.lt_trichotomy key entry.1 with h | h | h
          · exact absurd h notBelow
          · exact h
          · exact absurd h notAbove
        by_cases h : key = other
        · simp [find, h]
        · simp [find, h, ← same]

theorem get?_insert (m : OrderedMap κ υ) (key other : κ) (value : υ) :
    (m.insert key value).get? other = if key = other then some value else m.get? other :=
  find_place key other value m.entries

end Lookup

section Members
variable [DecidableEq κ] [LE κ] [Std.LawfulOrderLT κ]

theorem find_eq_some_iff {key : κ} {value : υ} {list : List (κ × υ)}
    (ascending : list.Pairwise (fun a b => a.1 < b.1)) :
    find key list = some value ↔ (key, value) ∈ list := by
  induction list with
  | nil => simp [find]
  | cons entry rest ih =>
    obtain ⟨head, tail⟩ := List.pairwise_cons.mp ascending
    rw [find, List.mem_cons]
    by_cases same : entry.1 = key
    · subst same
      have absent : (entry.1, value) ∉ rest := by
        intro mem
        have below := head (entry.1, value) mem
        exact Std.lt_irrefl below
      simp [absent, Prod.ext_iff, eq_comm]
    · have apart : (key, value) ≠ entry := fun eq => same (by rw [← eq])
      simp [same, apart, ih tail]

theorem get?_eq_some_iff {m : OrderedMap κ υ} {key : κ} {value : υ} :
    m.get? key = some value ↔ (key, value) ∈ m.entries :=
  find_eq_some_iff m.ascending

omit [DecidableEq κ] in
theorem nodup_keys (m : OrderedMap κ υ) : m.keys.Nodup :=
  List.pairwise_map.mpr (m.ascending.imp Std.ne_of_lt)

/-- Maps that answer every look-up alike are equal. -/
theorem eq_of_get? {m m' : OrderedMap κ υ} (same : ∀ key, m.get? key = m'.get? key) : m = m' := by
  have nodup (m : OrderedMap κ υ) : m.entries.Nodup :=
    m.ascending.imp fun below is => Std.ne_of_lt below (congrArg Prod.fst is)
  have perm : m.entries.Perm m'.entries := by
    refine (List.perm_ext_iff_of_nodup (nodup m) (nodup m')).mpr fun entry => ?_
    rw [← get?_eq_some_iff, ← get?_eq_some_iff, same]
  have entries : m.entries = m'.entries :=
    perm.eq_of_pairwise (fun a b _ _ below above => absurd above (Std.not_gt_of_lt below))
      m.ascending m'.ascending
  cases m
  cases m'
  congr

theorem get?_filter (m : OrderedMap κ υ) (keep : κ → υ → Bool) (key : κ) :
    (m.filter keep).get? key = (m.get? key).filter (keep key) := by
  refine Option.ext fun value => ?_
  rw [get?_eq_some_iff, Option.filter_eq_some_iff, get?_eq_some_iff, filter, List.mem_filter]

variable [DecidableLT κ] [Std.IsLinearOrder κ]

theorem length_place (key : κ) (value : υ) {list : List (κ × υ)}
    (ascending : list.Pairwise (fun a b => a.1 < b.1)) :
    (place key value list).length =
      list.length + if (find key list).isSome then 0 else 1 := by
  induction list with
  | nil => rfl
  | cons entry rest ih =>
    obtain ⟨head, tail⟩ := List.pairwise_cons.mp ascending
    rw [place, find]
    split
    · next below =>
      have apart : entry.1 ≠ key := (Std.ne_of_lt below).symm
      have absent : find key rest = none := by
        cases found : find key rest with
        | none => rfl
        | some other =>
          have beyond := head _ ((find_eq_some_iff tail).mp found)
          exact absurd (Std.lt_trans below beyond) Std.lt_irrefl
      simp [apart, absent]
    · next notBelow =>
      split
      · next above =>
        have apart : entry.1 ≠ key := Std.ne_of_lt above
        simp only [List.length_cons, ih tail, apart, if_false]
        omega
      · next notAbove =>
        have same : entry.1 = key := by
          rcases Std.lt_trichotomy key entry.1 with below | same | above
          · exact absurd below notBelow
          · exact same.symm
          · exact absurd above notAbove
        simp [same]

theorem size_insert (m : OrderedMap κ υ) (key : κ) (value : υ) :
    (m.insert key value).size = m.size + if (m.get? key).isSome then 0 else 1 :=
  length_place key value m.ascending

end Members

section Removal
variable [DecidableEq κ]

omit [LT κ] in
theorem find_filter_ne (key other : κ) (list : List (κ × υ)) :
    find other (list.filter (fun entry => entry.1 ≠ key)) =
      if key = other then none else find other list := by
  induction list with
  | nil => simp [find]
  | cons entry rest ih =>
    by_cases h : entry.1 = key
    · by_cases k : key = other <;> simp_all [find]
    · by_cases k : key = other
      · subst k; simp_all [find]
      · by_cases e : entry.1 = other <;> simp_all [find]

theorem get?_erase (m : OrderedMap κ υ) (key other : κ) :
    (m.erase key).get? other = if key = other then none else m.get? other :=
  find_filter_ne key other m.entries

end Removal
end OrderedMap
end Lanes
