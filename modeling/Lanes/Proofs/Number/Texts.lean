import Mathlib.Data.List.DropRight
import Lanes.Duration

/-!
# Texts of numbers and durations

Different numbers have different texts, and so have different durations: the unit is what follows
the digits and the point, a fraction without its trailing zeros still tells all its digits, and the
whole number ends where the point stands.
-/
namespace Lanes

/-- A list splits in one way into items of some kind and a rest that begins with none of these. -/
theorem append_inj_of_stop {τ : Type} {P : τ → Prop} {a a' b b' : List τ} (all : ∀ x ∈ a, P x)
    (all' : ∀ x ∈ a', P x) (stop : ∀ x ∈ b.head?, ¬ P x) (stop' : ∀ x ∈ b'.head?, ¬ P x)
    (same : a ++ b = a' ++ b') : a = a' ∧ b = b' := by
  rcases List.append_eq_append_iff.mp same with ⟨more, rfl, split⟩ | ⟨more, rfl, split⟩
  · cases more with
    | nil => simpa using split
    | cons x rest => exact absurd (all' x (by simp)) (stop x (by simp [split]))
  · cases more with
    | nil => simpa using split.symm
    | cons x rest => exact absurd (all x (by simp)) (stop' x (by simp [split]))

namespace Decimal

/-! ### Numbers -/

@[simp] theorem toList_toString (n : Nat) : (toString n).toList = Nat.toDigits 10 n := by
  rw [Nat.toString_eq_ofList_toDigits, String.toList_ofList]

/-- A number is read back from its digits. -/
theorem eq_of_toString_eq {i j : Nat} (same : toString i = toString j) : i = j := by
  have digits := congrArg String.toList same
  rw [toList_toString, toList_toString] at digits
  rw [← Nat.ofDigitChars_ten_toDigits (n := i), digits, Nat.ofDigitChars_ten_toDigits]

theorem isDigit_of_mem_toString {n : Nat} {c : Char} (mem : c ∈ (toString n).toList) :
    c.isDigit = true := by
  rw [toList_toString] at mem
  exact Nat.isDigit_of_mem_toDigits (by decide) (by decide) mem

/-- An integer is written as a natural number, possibly behind a minus sign. -/
theorem toString_int (n : Int) :
    toString n = if 0 ≤ n then toString n.toNat else "-" ++ toString (-n).toNat := by
  rw [Int.toString_eq_repr, Int.repr_eq_if]
  rfl

theorem mem_toString_int {n : Int} {c : Char} (mem : c ∈ (toString n).toList) :
    c = '-' ∨ c.isDigit = true := by
  rw [toString_int] at mem
  split at mem
  · exact .inr (isDigit_of_mem_toString mem)
  · rw [String.toList_append, List.mem_append] at mem
    exact mem.imp (by simp) isDigit_of_mem_toString

theorem int_eq_of_toString_eq {m n : Int} (same : toString m = toString n) : m = n := by
  -- a text with a minus sign is not one of digits
  have apart (i j : Nat) : toString i ≠ "-" ++ toString j := by
    intro same
    have sign : '-' ∈ (toString i).toList := by simp [same]
    exact absurd (isDigit_of_mem_toString sign) (by decide)
  rw [toString_int m, toString_int n] at same
  split at same <;> split at same
  · have := eq_of_toString_eq same
    omega
  · exact absurd same (apart _ _)
  · exact absurd same.symm (apart _ _)
  · have := eq_of_toString_eq ((String.append_right_inj _).mp same)
    omega

/-! ### Fractions -/

theorem ofDigitChars_padded (width n : Nat) : Nat.ofDigitChars 10 (padded width n) 0 = n := by
  simp [padded, Nat.ofDigitChars_append]

theorem length_padded {width n : Nat} (pos : 0 < width) (small : n < tenTo width) :
    (padded width n).length = width := by
  have short : (Nat.toDigits 10 n).length ≤ width :=
    (Nat.length_toDigits_le_iff (by decide) pos).mpr small
  simp [padded]
  omega

theorem isDigit_of_mem_padded {width n : Nat} {c : Char} (mem : c ∈ padded width n) :
    c.isDigit = true := by
  rcases List.mem_append.mp mem with zero | digit
  · rw [(List.mem_replicate.mp zero).2]
    rfl
  · exact isDigit_of_mem_toString digit

/-- Nothing but zeros is dropped. -/
theorem exists_trailing_zeros (digits : List Char) :
    ∃ count, digits = dropTrailingZeros digits ++ List.replicate count '0' := by
  have zeros : digits.rtakeWhile (· = '0') =
      List.replicate (digits.rtakeWhile (· = '0')).length '0' := by
    refine List.eq_replicate_of_mem fun c mem => ?_
    simpa using List.mem_rtakeWhile_imp mem
  refine ⟨(digits.rtakeWhile (· = '0')).length, ?_⟩
  rw [← zeros]
  exact List.rdropWhile_append_rtakeWhile.symm

theorem eq_of_dropTrailingZeros_eq {digits digits' : List Char}
    (same : dropTrailingZeros digits = dropTrailingZeros digits')
    (length : digits.length = digits'.length) : digits = digits' := by
  obtain ⟨count, split⟩ := exists_trailing_zeros digits
  obtain ⟨count', split'⟩ := exists_trailing_zeros digits'
  have counts : count = count' := by
    rw [split, split', same, List.length_append, List.length_append, List.length_replicate,
      List.length_replicate] at length
    exact Nat.add_left_cancel length
  rw [split, split', same, counts]

theorem toList_fraction (width n : Nat) : (fraction width n).toList =
    if n = 0 then [] else '.' :: dropTrailingZeros (padded width n) := by
  unfold fraction
  split <;> simp

theorem head?_fraction {width n : Nat} {c : Char} (head : c ∈ (fraction width n).toList.head?) :
    c = '.' := by
  rw [toList_fraction] at head
  split at head
  · simp at head
  · simpa using head.symm

theorem mem_fraction {width n : Nat} {c : Char} (mem : c ∈ (fraction width n).toList) :
    c = '.' ∨ c.isDigit = true := by
  rw [toList_fraction] at mem
  split at mem
  · simp at mem
  · obtain ⟨count, split⟩ := exists_trailing_zeros (padded width n)
    refine (List.mem_cons.mp mem).imp_right fun digit => ?_
    have whole : c ∈ padded width n := split ▸ List.mem_append_left _ digit
    exact isDigit_of_mem_padded whole

/-- A fraction tells all of its digits. -/
theorem fraction_inj {width m n : Nat} (small : m < tenTo width) (small' : n < tenTo width)
    (same : fraction width m = fraction width n) : m = n := by
  have lists := congrArg String.toList same
  rw [toList_fraction, toList_fraction] at lists
  by_cases zero : m = 0 <;> by_cases zero' : n = 0
  · rw [zero, zero']
  · simp [zero, zero'] at lists
  · simp [zero, zero'] at lists
  · rw [if_neg zero, if_neg zero'] at lists
    have pos : 0 < width := by
      refine Nat.pos_of_ne_zero fun none => ?_
      rw [none] at small
      exact zero (Nat.lt_one_iff.mp small)
    have digits := eq_of_dropTrailingZeros_eq (List.cons.inj lists).2
      ((length_padded pos small).trans (length_padded pos small').symm)
    rw [← ofDigitChars_padded width m, digits, ofDigitChars_padded]

end Decimal

/-! ### Durations -/

namespace Duration

/-- The decimal places and the name of the unit in which a duration is written. -/
def scale (d : Duration) : Nat × String :=
  if perSecond ≤ d.nanos then (9, "s")
  else if perMilli ≤ d.nanos then (6, "ms")
  else if perMicro ≤ d.nanos then (3, "µs")
  else (0, "ns")

theorem text_eq (d : Duration) : d.text = textIn d.scale.1 d.scale.2 d.nanos := by
  unfold text scale
  split
  · rfl
  · split
    · rfl
    · split <;> rfl

theorem scale_mem (d : Duration) : d.scale ∈ [(9, "s"), (6, "ms"), (3, "µs"), (0, "ns")] := by
  unfold scale
  split
  · simp
  · split
    · simp
    · split <;> simp

/-- The digits and the point of the text. -/
def number (d : Duration) : List Char :=
  (toString (d.nanos / Decimal.tenTo d.scale.1)).toList ++
    (Decimal.fraction d.scale.1 (d.nanos % Decimal.tenTo d.scale.1)).toList

theorem toList_text (d : Duration) : d.text.toList = d.number ++ d.scale.2.toList := by
  rw [text_eq, textIn, String.toList_append, String.toList_append, number]

theorem mem_number {d : Duration} {c : Char} (mem : c ∈ d.number) :
    c = '.' ∨ c.isDigit = true := by
  rcases List.mem_append.mp mem with whole | part
  · exact .inr (Decimal.isDigit_of_mem_toString whole)
  · exact Decimal.mem_fraction part

theorem head?_unit {d : Duration} {c : Char} (head : c ∈ d.scale.2.toList.head?) :
    ¬ (c = '.' ∨ c.isDigit = true) := by
  have cases := d.scale_mem
  simp only [List.mem_cons, List.not_mem_nil, or_false] at cases
  rcases cases with is | is | is | is <;> rw [is] at head <;> obtain rfl := Option.some.inj head <;>
    decide

theorem scale_inj {d d' : Duration} (unit : d.scale.2 = d'.scale.2) : d.scale = d'.scale := by
  have each : ∀ s ∈ [(9, "s"), (6, "ms"), (3, "µs"), (0, "ns")],
      ∀ s' ∈ [(9, "s"), (6, "ms"), (3, "µs"), (0, "ns")], s.2 = s'.2 → s = s' := by decide
  exact each d.scale d.scale_mem d'.scale d'.scale_mem unit

theorem eq_of_text_eq {d d' : Duration} (same : d.text = d'.text) : d = d' := by
  have lists := congrArg String.toList same
  rw [toList_text, toList_text] at lists
  obtain ⟨numbers, units⟩ := append_inj_of_stop (fun _ => mem_number) (fun _ => mem_number)
    (fun _ => head?_unit) (fun _ => head?_unit) lists
  have scales : d.scale = d'.scale := scale_inj (String.toList_inj.mp units)
  unfold number at numbers
  rw [← scales] at numbers
  -- the whole number ends where the point stands
  have point {places n : Nat} : ∀ c ∈ (Decimal.fraction places n).toList.head?,
      ¬ c.isDigit = true := by
    intro c head
    rw [Decimal.head?_fraction head]
    decide
  obtain ⟨whole, part⟩ := append_inj_of_stop (fun _ => Decimal.isDigit_of_mem_toString)
    (fun _ => Decimal.isDigit_of_mem_toString) point point numbers
  have unit : 0 < Decimal.tenTo d.scale.1 := Nat.pow_pos (by decide)
  have quotient := Decimal.eq_of_toString_eq (String.toList_inj.mp whole)
  have remainder := Decimal.fraction_inj (Nat.mod_lt _ unit) (Nat.mod_lt _ unit)
    (String.toList_inj.mp part)
  have nanos : d.nanos = d'.nanos := by
    rw [← Nat.div_add_mod d.nanos (Decimal.tenTo d.scale.1), quotient, remainder,
      Nat.div_add_mod]
  cases d
  cases d'
  exact congrArg mk nanos

theorem blank_not_mem_text (d : Duration) : ' ' ∉ d.text.toList := by
  rw [toList_text, List.mem_append, not_or]
  constructor
  · intro blank
    exact absurd (mem_number blank) (by decide)
  · have cases := d.scale_mem
    simp only [List.mem_cons, List.not_mem_nil, or_false] at cases
    rcases cases with is | is | is | is <;> rw [is] <;> decide

end Duration
end Lanes
