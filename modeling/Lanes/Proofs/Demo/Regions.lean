import Mathlib.Data.List.DropRight
import Lanes.Demo.Config
import Lanes.Simulation.Session
import Lanes.Proofs.Ring.Renewal

/-!
# Regions of a configuration

Settings are refused for their regions if no name is left of them or a name occurs twice. The ring
refuses empty names and names that it has. The two checks know nothing of each other, but what
passes the first passes the second: empty names are left out, and names are trimmed before they are
compared. Trimming them again changes nothing.
-/
namespace Lanes

/-! ### Trimming -/

namespace Blank

/-- A name without blanks at its ends that makes the text with blanks around it. -/
structure Trimmed (text name : String) : Prop where
  around : ∃ front back, text.toList = front ++ name.toList ++ back ∧
    (∀ c ∈ front, isBlank c = true) ∧ ∀ c ∈ back, isBlank c = true
  first : ∀ c ∈ name.toList.head?, ¬ isBlank c = true
  last : ∀ c ∈ name.toList.getLast?, ¬ isBlank c = true

theorem dropWhile_stop {front rest : List Char} (blank : ∀ c ∈ front, isBlank c = true)
    (stop : ∀ c ∈ rest.head?, ¬ isBlank c = true) : (front ++ rest).dropWhile isBlank = rest := by
  rw [List.dropWhile_append_of_pos blank]
  cases rest with
  | nil => rfl
  | cons c rest => exact List.dropWhile_cons_of_neg (stop c rfl)

theorem Trimmed.trim_eq {text name : String} (trimmed : Trimmed text name) : trim text = name := by
  obtain ⟨⟨front, back, split, before, behind⟩, first, last⟩ := trimmed
  have kept : trimList text.toList = name.toList := by
    rw [split, trimList]
    by_cases empty : name.toList = []
    · have all : ∀ c ∈ front ++ back, isBlank c = true := fun c mem =>
        (List.mem_append.mp mem).elim (before c) (behind c)
      rw [empty, List.append_nil, List.dropWhile_eq_nil_iff.mpr all]
      rfl
    · have head : (name.toList ++ back).head? = name.toList.head? :=
        List.head?_append_of_ne_nil _ empty
      rw [List.append_assoc, dropWhile_stop before (head ▸ first), List.reverse_append,
        dropWhile_stop (fun c mem => behind c (List.mem_reverse.mp mem))
          (List.head?_reverse ▸ last), List.reverse_reverse]
  rw [trim, kept, String.ofList_toList]

theorem trimmed_trim (text : String) : Trimmed text (trim text) := by
  have is : (trim text).toList = (text.toList.dropWhile isBlank).rdropWhile isBlank := by
    rw [trim, String.toList_ofList]
    rfl
  refine ⟨⟨text.toList.takeWhile isBlank, (text.toList.dropWhile isBlank).rtakeWhile isBlank, ?_,
    fun _ => List.mem_takeWhile_imp, fun _ => List.mem_rtakeWhile_imp⟩, ?_, ?_⟩
  · rw [is, List.append_assoc, List.rdropWhile_append_rtakeWhile, List.takeWhile_append_dropWhile]
  · intro c head
    rw [is] at head
    obtain ⟨more, split⟩ := List.rdropWhile_prefix isBlank (l := text.toList.dropWhile isBlank)
    have start : (text.toList.dropWhile isBlank).head? = some c := by
      rw [← split, List.head?_append, Option.mem_def.mp head, Option.some_or]
    have stops := List.head?_dropWhile_not isBlank text.toList
    rw [start] at stops
    simpa using stops
  · intro c last
    rw [is] at last
    obtain ⟨some, rfl⟩ := List.mem_getLast?_eq_getLast last
    exact List.rdropWhile_last_not isBlank _ some

/-- Trimming takes away all blanks at the ends, and nothing else. -/
theorem trimmed_iff {text name : String} : Trimmed text name ↔ trim text = name :=
  ⟨Trimmed.trim_eq, fun same => same ▸ trimmed_trim text⟩

theorem trim_trim (text : String) : trim (trim text) = trim text :=
  trimmed_iff.mp ⟨⟨[], [], by simp⟩, (trimmed_trim text).first, (trimmed_trim text).last⟩

end Blank

namespace Demo

/-- Nothing is wrong with some settings, except perhaps with their regions. -/
structure Settings.NumbersInRange (s : Settings) : Prop where
  lanes : s.lanes ≠ 0
  queueCapacity : s.queueCapacity ≠ 0
  sessions : 0 < s.sessions
  producers : s.producers ≠ 0
  closeRatio : s.closeRatio.inUnitInterval = true
  tickMs : s.tickMs ≠ 0

namespace Config

/-! ### Names -/

theorem forall₂_trimmed_iff {regions trimmed : List String} :
    List.Forall₂ Blank.Trimmed regions trimmed ↔ regions.map Blank.trim = trimmed := by
  rw [← List.forall₂_eq_eq_eq, List.forall₂_map_left_iff]
  exact ⟨.imp fun _ _ => Blank.trimmed_iff.mp, .imp fun _ _ => Blank.trimmed_iff.mpr⟩

theorem empty_not_mem_regionNames (regions : List String) : "" ∉ regionNames regions := by
  simp [regionNames]

/-- The names of names are the names themselves. -/
theorem regionNames_regionNames (regions : List String) :
    regionNames (regionNames regions) = regionNames regions := by
  have kept : ∀ name ∈ regionNames regions, Blank.trim name = name := by
    intro name mem
    obtain ⟨text, -, rfl⟩ := List.mem_map.mp (List.mem_of_mem_filter mem)
    exact Blank.trim_trim text
  have all : (regionNames regions).map Blank.trim = regionNames regions :=
    (List.map_congr_left kept).trans (List.map_id _)
  rw [regionNames, all, regionNames, List.filter_filter]
  simp

/-! ### Repetition -/

/-- A name that occurred before, where no other did so before it. -/
def RepeatsFirst (names : List String) (name : String) : Prop :=
  ∃ before after, names = before ++ name :: after ∧ before.Nodup ∧ name ∈ before

/-- What was seen are the names before those that are left, the latest first. -/
theorem firstRepeatedFrom?_eq_none_iff (names : List String) {seen : List String}
    (distinct : seen.Nodup) :
    firstRepeatedFrom? seen names = none ↔ (seen.reverse ++ names).Nodup := by
  induction names generalizing seen with
  | nil => simpa [firstRepeatedFrom?] using distinct
  | cons name rest ih =>
    rw [firstRepeatedFrom?]
    split
    · next again =>
      have twice : ¬ (seen.reverse ++ name :: rest).Nodup := fun distinct =>
        (List.nodup_append.mp distinct).2.2 name (List.mem_reverse.mpr again) name
          List.mem_cons_self rfl
      simpa using twice
    · next new =>
      rw [ih (List.nodup_cons.mpr ⟨new, distinct⟩), List.reverse_cons, List.append_assoc,
        List.singleton_append]

theorem firstRepeatedFrom?_eq_some {names seen : List String} {name : String}
    (distinct : seen.Nodup) (found : firstRepeatedFrom? seen names = some name) :
    RepeatsFirst (seen.reverse ++ names) name := by
  induction names generalizing seen with
  | nil => cases found
  | cons next rest ih =>
    rw [firstRepeatedFrom?] at found
    split at found
    · next again =>
      obtain rfl := Option.some.inj found
      exact ⟨seen.reverse, rest, rfl, List.nodup_reverse.mpr distinct, List.mem_reverse.mpr again⟩
    · next new =>
      have later := ih (List.nodup_cons.mpr ⟨new, distinct⟩) found
      rwa [List.reverse_cons, List.append_assoc, List.singleton_append] at later

theorem firstRepeated?_eq_none_iff {names : List String} :
    firstRepeated? names = none ↔ names.Nodup :=
  firstRepeatedFrom?_eq_none_iff names List.nodup_nil

theorem firstRepeated?_eq_some {names : List String} {name : String}
    (found : firstRepeated? names = some name) : RepeatsFirst names name :=
  firstRepeatedFrom?_eq_some List.nodup_nil found

/-! ### Faults -/

variable {s : Settings} {config : Config}

theorem no_fault_iff {P : Prop} [Decidable P] {fault : ConfigFault} {rest : Option ConfigFault} :
    (if P then some fault else rest) = none ↔ ¬ P ∧ rest = none := by
  split
  · next is => simp [is]
  · next not => simp [not]

theorem fault?_eq_none_iff : fault? s = none ↔
    s.NumbersInRange ∧ regionNames s.regions ≠ [] ∧ (regionNames s.regions).Nodup := by
  simp only [fault?, no_fault_iff, Option.map_eq_none_iff, firstRepeated?_eq_none_iff, Int.not_le,
    Bool.not_eq_true', Bool.not_eq_false, List.isEmpty_iff]
  constructor
  · rintro ⟨lanes, queueCapacity, sessions, producers, closeRatio, tickMs, regions⟩
    exact ⟨⟨lanes, queueCapacity, sessions, producers, closeRatio, tickMs⟩, regions⟩
  · rintro ⟨⟨lanes, queueCapacity, sessions, producers, closeRatio, tickMs⟩, regions⟩
    exact ⟨lanes, queueCapacity, sessions, producers, closeRatio, tickMs, regions⟩

theorem fault?_of_numbersInRange (fine : s.NumbersInRange) :
    fault? s = if (regionNames s.regions).isEmpty then some .noRegions
      else (firstRepeated? (regionNames s.regions)).map .repeatedRegion := by
  simp only [fault?, if_neg fine.lanes, if_neg fine.queueCapacity,
    if_neg (Int.not_le.mpr fine.sessions), if_neg fine.producers, fine.closeRatio,
    if_neg fine.tickMs, Bool.not_true, Bool.false_eq_true, if_false]

theorem ofSettings_of_fault {fault : ConfigFault} (found : fault? s = some fault) :
    ofSettings s = .error fault := by
  rw [ofSettings, found]

theorem ofSettings_of_unnamed (fine : s.NumbersInRange) (unnamed : regionNames s.regions = []) :
    ofSettings s = .error .noRegions := by
  refine ofSettings_of_fault ?_
  rw [fault?_of_numbersInRange fine, unnamed]
  rfl

theorem ofSettings_of_repeated (fine : s.NumbersInRange)
    (repeated : ¬ (regionNames s.regions).Nodup) :
    ∃ name, RepeatsFirst (regionNames s.regions) name ∧
      ofSettings s = .error (.repeatedRegion name) := by
  obtain ⟨name, found⟩ := Option.ne_none_iff_exists'.mp (mt firstRepeated?_eq_none_iff.mp repeated)
  refine ⟨name, firstRepeated?_eq_some found, ofSettings_of_fault ?_⟩
  have named : ¬ (regionNames s.regions).isEmpty = true := fun none =>
    repeated (List.isEmpty_iff.mp none ▸ List.nodup_nil)
  rw [fault?_of_numbersInRange fine, if_neg named, found]
  rfl

theorem exists_ofSettings_iff : (∃ config, ofSettings s = .ok config) ↔ fault? s = none := by
  unfold ofSettings
  split
  · next found => simp [found]
  · next none => simp [none]

/-- Settings may as well give the names that are made of their regions. -/
theorem ofSettings_regionNames (s : Settings) :
    ofSettings { s with regions := regionNames s.regions } = ofSettings s := by
  simp only [ofSettings, fault?, regionNames_regionNames]

theorem regions_of_ofSettings (made : ofSettings s = .ok config) :
    config.regions = regionNames s.regions := by
  unfold ofSettings at made
  split at made
  · cases made
  · obtain rfl := Except.ok.inj made
    rfl

/-! ### The ring -/

/-- Distinct regions with names make a ring, in their order. -/
theorem regionRing_eq (regions : List (String × Nat)) (named : "" ∉ regions.map Prod.fst)
    (distinct : (regions.map Prod.fst).Nodup) :
    Simulation.SessionPool.regionRing regions = .ok (.rebuilt Hash.crc32
      (regions.map fun region => (region.1, WeightedRing.granted region.2))) :=
  WeightedRing.foldlM_add Hash.crc32 [] named distinct

/-- The regions of a configuration are those of its settings put right, and make a ring. -/
structure FitsRing (s : Settings) (config : Config) : Prop where
  /-- The regions are those of the settings without blanks around them, and without what is empty
  then. -/
  regions : ∃ trimmed, List.Forall₂ Blank.Trimmed s.regions trimmed ∧
    config.regions = trimmed.filter (· ≠ "")
  /-- They can be added to a fresh ring one after the other, and are its nodes then. -/
  ring : ∃ ring, Simulation.SessionPool.regionRing (config.regions.map fun region => (region, 0)) =
    .ok ring ∧ ring.nodes = config.regions
  /-- Settings with these regions make the same configuration. -/
  again : ofSettings { s with regions := config.regions } = .ok config

theorem fitsRing_of_ofSettings (made : ofSettings s = .ok config) : FitsRing s config := by
  have same := regions_of_ofSettings made
  have faultless : fault? s = none := exists_ofSettings_iff.mp ⟨config, made⟩
  obtain ⟨-, -, distinct⟩ := fault?_eq_none_iff.mp faultless
  have names : (config.regions.map fun region => (region, 0)).map Prod.fst = config.regions := by
    simp [Function.comp_def]
  refine ⟨?_, ?_, ?_⟩
  · exact ⟨_, forall₂_trimmed_iff.mpr rfl, same⟩
  · refine ⟨_, regionRing_eq _ ?_ ?_, ?_⟩
    · rw [names, same]
      exact empty_not_mem_regionNames s.regions
    · rw [names, same]
      exact distinct
    · simp [WeightedRing.nodes, WeightedRing.rebuilt, Function.comp_def]
  · rw [same, ofSettings_regionNames, made]

/-- What becomes of some settings, as far as their regions decide it. -/
structure RegionsChecked (s : Settings) : Prop where
  accepted : (∃ config, ofSettings s = .ok config) ↔
    s.NumbersInRange ∧ regionNames s.regions ≠ [] ∧ (regionNames s.regions).Nodup
  fits : ∀ config, ofSettings s = .ok config → FitsRing s config
  unnamed : s.NumbersInRange → regionNames s.regions = [] → ofSettings s = .error .noRegions
  repeated : s.NumbersInRange → ¬ (regionNames s.regions).Nodup →
    ∃ name, RepeatsFirst (regionNames s.regions) name ∧
      ofSettings s = .error (.repeatedRegion name)

/-- Settings that are fine otherwise make a configuration just if their regions give names and no
name twice, and the regions of a configuration make a ring. -/
theorem regions_checked (s : Settings) : RegionsChecked s where
  accepted := exists_ofSettings_iff.trans fault?_eq_none_iff
  fits _ := fitsRing_of_ofSettings
  unnamed := ofSettings_of_unnamed
  repeated := ofSettings_of_repeated

/-- The defaults are fine, and a name that repeats only when it is trimmed is found. -/
example : fault? Choices.none.complete = none ∧
    fault? { Choices.none.complete with regions := ["eu", " us", " ", "ap", "us\t", "eu"] } =
      some (.repeatedRegion "us") := by
  decide

end Config
end Demo
end Lanes
