import Mathlib.Tactic.Ring
import Lanes.Proofs.Number.Texts
import Lanes.Proofs.Ring.Reference

/-!
# Numerals on a ring

The bytes that write an integer of 64 bits hash to this integer modulo `2 ^ 32`, and all other bytes
to their CRC-32. What is meant by writing does not depend on how the bytes are read: there are
digits, each of which counts by its place, and there may be one sign before them. The texts of
integers write them. So a replica whose label is a numeral lies at its number.
-/
namespace Lanes
namespace Hash

/-! ### Numerals -/

/-- The bytes of the digits. -/
def IsDigit (byte : UInt8) : Prop := '0'.toNat ≤ byte.toNat ∧ byte.toNat ≤ '9'.toNat

/-- The number that digits write: each counts by its place, which is the number of those behind. -/
def placeValue : Bytes → Nat
  | [] => 0
  | digit :: rest => (digit.toNat - '0'.toNat) * 10 ^ rest.length + placeValue rest

/-- Bytes write an integer as one or more digits, possibly behind one sign. -/
inductive Writes : Bytes → Int → Prop where
  | unsigned {digits : Bytes} (some : digits ≠ []) (all : ∀ d ∈ digits, IsDigit d) :
    Writes digits (placeValue digits)
  | positive {digits : Bytes} (some : digits ≠ []) (all : ∀ d ∈ digits, IsDigit d) :
    Writes ('+'.toUInt8 :: digits) (placeValue digits)
  | negative {digits : Bytes} (some : digits ≠ []) (all : ∀ d ∈ digits, IsDigit d) :
    Writes ('-'.toUInt8 :: digits) (-(placeValue digits : Int))

/-! ### Reading digits -/

/-- The characters with the numbers of the bytes. -/
def characters (bytes : Bytes) : List Char := bytes.map (fun byte => Char.ofNat byte.toNat)

theorem toNat_character (byte : UInt8) : (Char.ofNat byte.toNat).toNat = byte.toNat := by
  have small : byte.toNat < 256 := byte.toNat_lt
  have valid : byte.toNat.isValidChar := .inl (by omega)
  rw [Char.ofNat, dif_pos valid]
  rfl

theorem character_inj {a b : UInt8} (same : Char.ofNat a.toNat = Char.ofNat b.toNat) : a = b := by
  have numbers := congrArg Char.toNat same
  rw [toNat_character, toNat_character] at numbers
  exact UInt8.toNat_inj.mp numbers

theorem isDigit_iff {byte : UInt8} :
    IsDigit byte ↔ '0' ≤ Char.ofNat byte.toNat ∧ Char.ofNat byte.toNat ≤ '9' := by
  rw [Char.le_def, Char.le_def, UInt32.le_iff_toNat_le, UInt32.le_iff_toNat_le, Char.toNat_val,
    Char.toNat_val, Char.toNat_val, toNat_character, IsDigit]

theorem digit?_of_isDigit {byte : UInt8} (digit : IsDigit byte) :
    Decimal.digit? (Char.ofNat byte.toNat) = some (byte.toNat - '0'.toNat) := by
  rw [Decimal.digit?, if_pos (isDigit_iff.mp digit), toNat_character]

theorem digit?_of_not_isDigit {byte : UInt8} (other : ¬ IsDigit byte) :
    Decimal.digit? (Char.ofNat byte.toNat) = none :=
  if_neg (mt isDigit_iff.mpr other)

/-- What was read before the digits moves up by as many places as there are digits. -/
theorem digitsFrom?_eq_some_iff {digits : Bytes} {value n : Nat} :
    Decimal.digitsFrom? value (characters digits) = some n ↔
      (∀ d ∈ digits, IsDigit d) ∧ value * 10 ^ digits.length + placeValue digits = n := by
  induction digits generalizing value with
  | nil => simp [characters, Decimal.digitsFrom?, placeValue]
  | cons digit rest ih =>
    rw [characters, List.map_cons, Decimal.digitsFrom?, ← characters, List.forall_mem_cons]
    by_cases first : IsDigit digit
    · have places : (10 * value + (digit.toNat - '0'.toNat)) * 10 ^ rest.length + placeValue rest =
          value * 10 ^ (digit :: rest).length + placeValue (digit :: rest) := by
        rw [placeValue, List.length_cons]
        ring
      rw [digit?_of_isDigit first]
      simp only [ih, places, first, true_and]
    · rw [digit?_of_not_isDigit first]
      simp [first]

theorem digits?_eq_some_iff {digits : Bytes} {n : Nat} :
    Decimal.digits? (characters digits) = some n ↔
      digits ≠ [] ∧ (∀ d ∈ digits, IsDigit d) ∧ placeValue digits = n := by
  cases digits with
  | nil => simp [characters, Decimal.digits?]
  | cons digit rest =>
    have start : Decimal.digits? (characters (digit :: rest)) =
      Decimal.digitsFrom? 0 (characters (digit :: rest)) := rfl
    rw [start, digitsFrom?_eq_some_iff]
    simp

/-! ### Reading signs -/

theorem integer?_minus (rest : Bytes) :
    Decimal.integer? (characters ('-'.toUInt8 :: rest)) =
      (Decimal.digits? (characters rest)).map (fun n : Nat => -(n : Int)) := by
  change (Decimal.digits? (characters rest) >>= fun n : Nat => pure (n : Int)).map (- ·) = _
  cases Decimal.digits? (characters rest) <;> rfl

theorem integer?_plus (rest : Bytes) :
    Decimal.integer? (characters ('+'.toUInt8 :: rest)) =
      (Decimal.digits? (characters rest)).map Int.ofNat :=
  rfl

theorem integer?_unsigned {bytes : Bytes} (minus : '-'.toUInt8 ∉ bytes.head?)
    (plus : '+'.toUInt8 ∉ bytes.head?) :
    Decimal.integer? (characters bytes) =
      (Decimal.digits? (characters bytes)).map Int.ofNat := by
  cases bytes with
  | nil => rfl
  | cons byte rest =>
    have noMinus : ∀ more, characters (byte :: rest) = '-' :: more → False := by
      intro more same
      exact minus (congrArg some (character_inj (b := '-'.toUInt8) (List.cons.inj same).1))
    have noPlus : ∀ more, characters (byte :: rest) = '+' :: more → False := by
      intro more same
      exact plus (congrArg some (character_inj (b := '+'.toUInt8) (List.cons.inj same).1))
    rw [Decimal.integer?.eq_2 _ noMinus, Decimal.natural?.eq_2 _ noPlus]

theorem sign_not_mem_head? {digits : Bytes} (all : ∀ d ∈ digits, IsDigit d) :
    '-'.toUInt8 ∉ digits.head? ∧ '+'.toUInt8 ∉ digits.head? := by
  constructor
  · intro sign
    exact absurd (all _ (List.mem_of_mem_head? sign)).1 (by decide)
  · intro sign
    exact absurd (all _ (List.mem_of_mem_head? sign)).1 (by decide)

/-- Reading finds the integer that is written, and fails if there is none. -/
theorem integer?_eq_some_iff {bytes : Bytes} {v : Int} :
    Decimal.integer? (characters bytes) = some v ↔ Writes bytes v := by
  constructor
  · intro read
    by_cases minus : '-'.toUInt8 ∈ bytes.head?
    · obtain ⟨rest, rfl⟩ := List.head?_eq_some_iff.mp minus
      obtain ⟨n, digits, rfl⟩ := Option.map_eq_some_iff.mp (integer?_minus rest ▸ read)
      obtain ⟨some, all, rfl⟩ := digits?_eq_some_iff.mp digits
      exact .negative some all
    by_cases plus : '+'.toUInt8 ∈ bytes.head?
    · obtain ⟨rest, rfl⟩ := List.head?_eq_some_iff.mp plus
      obtain ⟨n, digits, rfl⟩ := Option.map_eq_some_iff.mp (integer?_plus rest ▸ read)
      obtain ⟨some, all, rfl⟩ := digits?_eq_some_iff.mp digits
      exact .positive some all
    · obtain ⟨n, digits, rfl⟩ := Option.map_eq_some_iff.mp (integer?_unsigned minus plus ▸ read)
      obtain ⟨some, all, rfl⟩ := digits?_eq_some_iff.mp digits
      exact .unsigned some all
  · rintro (⟨some, all⟩ | ⟨some, all⟩ | ⟨some, all⟩)
    · obtain ⟨minus, plus⟩ := sign_not_mem_head? all
      rw [integer?_unsigned minus plus, digits?_eq_some_iff.mpr ⟨some, all, rfl⟩]
      rfl
    · rw [integer?_plus, digits?_eq_some_iff.mpr ⟨some, all, rfl⟩]
      rfl
    · rw [integer?_minus, digits?_eq_some_iff.mpr ⟨some, all, rfl⟩]
      rfl

/-! ### Hashing -/

theorem exists_int64_iff {v : Int} :
    (∃ n : Int64, n.toInt = v) ↔ -0x8000000000000000 ≤ v ∧ v < 0x8000000000000000 := by
  constructor
  · rintro ⟨n, rfl⟩
    exact ⟨n.le_toInt, n.toInt_lt⟩
  · rintro ⟨least, greatest⟩
    exact ⟨.ofInt v, Int64.toInt_ofInt_of_le least greatest⟩

theorem int64?_eq_some_iff {bytes : Bytes} {v : Int} :
    int64? bytes = some v ↔ Writes bytes v ∧ ∃ n : Int64, n.toInt = v := by
  have whole : int64? bytes = (Decimal.integer? (characters bytes)).filter
      (fun n => -0x8000000000000000 ≤ n ∧ n < 0x8000000000000000) := rfl
  rw [whole, Option.filter_eq_some_iff, integer?_eq_some_iff, exists_int64_iff, decide_eq_true_iff]

theorem toNat_low32 (v : Int) : ((low32 v).toNat : Int) = v % 2 ^ 32 := by
  rw [low32, UInt32.toNat_ofNat']
  omega

theorem number_of_writes {bytes : Bytes} {n : Int64} (writes : Writes bytes n.toInt) :
    ((number bytes).toNat : Int) = n.toInt % 2 ^ 32 := by
  rw [number, int64?_eq_some_iff.mpr ⟨writes, n, rfl⟩]
  exact toNat_low32 n.toInt

theorem number_of_not_writes {bytes : Bytes} (none : ∀ n : Int64, ¬ Writes bytes n.toInt) :
    number bytes = crc32 bytes := by
  have unread : int64? bytes = .none := by
    refine Option.eq_none_iff_forall_ne_some.mpr fun v read => ?_
    obtain ⟨writes, n, rfl⟩ := int64?_eq_some_iff.mp read
    exact none n writes
  rw [number, unread]

/-! ### Texts of numbers -/

theorem ofText_append (a b : String) : Bytes.ofText (a ++ b) = .ofText a ++ .ofText b := by
  simp [Bytes.ofText]

theorem ofText_of_ascii {text : String} (ascii : ∀ c ∈ text.toList, c.toNat < 128) :
    Bytes.ofText text = text.toList.map Char.toUInt8 := by
  have encoded : Bytes.ofText text = text.toList.flatMap String.utf8EncodeChar := by
    rw [Bytes.ofText, String.toUTF8_eq_toByteArray, ← String.utf8Encode_toList, List.utf8Encode,
      List.toList_data_toByteArray]
  rw [encoded, List.map_eq_flatMap]
  refine List.flatMap_congr fun c mem => ?_
  have single : c.utf8Size = 1 :=
    Char.utf8Size_eq_one_iff.mpr (UInt32.le_iff_toNat_le.mpr (Nat.le_of_lt_succ (ascii c mem)))
  exact String.utf8EncodeChar_eq_singleton single

/-- A digit is a single byte, which has the number of the character. -/
theorem toUInt8_of_isDigit {c : Char} (digit : c.isDigit = true) :
    c.toNat < 128 ∧ c.toUInt8.toNat = c.toNat ∧ IsDigit c.toUInt8 := by
  obtain ⟨least, greatest⟩ := Char.isDigit_iff_toNat.mp digit
  have ascii : c.toNat < 128 := greatest.trans_lt (by decide)
  have same : c.toUInt8.toNat = c.toNat :=
    (UInt32.toNat_toUInt8 c.val).trans (Nat.mod_eq_of_lt (ascii.trans (by decide)))
  refine ⟨ascii, same, ?_⟩
  rw [IsDigit, same]
  exact ⟨least, greatest⟩

/-- By places digits come to the same as from left to right. -/
theorem placeValue_map_toUInt8 {digits : List Char} (all : ∀ c ∈ digits, c.isDigit = true) :
    placeValue (digits.map Char.toUInt8) = Nat.ofDigitChars 10 digits 0 := by
  induction digits with
  | nil => rfl
  | cons digit rest ih =>
    obtain ⟨first, others⟩ := List.forall_mem_cons.mp all
    have places : Nat.ofDigitChars 10 rest (10 * 0 + (digit.toNat - '0'.toNat)) =
        10 ^ rest.length * (10 * 0 + (digit.toNat - '0'.toNat)) + Nat.ofDigitChars 10 rest 0 :=
      Nat.ofDigitChars_eq_ofDigitChars_zero
    rw [List.map_cons, placeValue, ih others, (toUInt8_of_isDigit first).2.1, List.length_map,
      Nat.ofDigitChars_cons, places, Nat.mul_zero, Nat.zero_add, Nat.mul_comm]

theorem ofText_toString (n : Nat) :
    Bytes.ofText (toString n) = (toString n).toList.map Char.toUInt8 :=
  ofText_of_ascii fun _ mem => (toUInt8_of_isDigit (Decimal.isDigit_of_mem_toString mem)).1

theorem ofText_toString_ne_nil (n : Nat) : Bytes.ofText (toString n) ≠ [] := by
  rw [ofText_toString, Decimal.toList_toString]
  simp

theorem isDigit_of_mem_ofText {n : Nat} : ∀ d ∈ Bytes.ofText (toString n), IsDigit d := by
  rw [ofText_toString]
  intro d mem
  obtain ⟨c, written, rfl⟩ := List.mem_map.mp mem
  exact (toUInt8_of_isDigit (Decimal.isDigit_of_mem_toString written)).2.2

theorem placeValue_toString (n : Nat) : placeValue (.ofText (toString n)) = n := by
  rw [ofText_toString, placeValue_map_toUInt8 fun _ => Decimal.isDigit_of_mem_toString,
    Decimal.toList_toString, Nat.ofDigitChars_ten_toDigits]

theorem writes_toString (v : Int) : Writes (.ofText (toString v)) v := by
  rw [Decimal.toString_int]
  split
  · next nonneg =>
    have writes := Writes.unsigned (ofText_toString_ne_nil v.toNat) isDigit_of_mem_ofText
    rwa [placeValue_toString, Int.toNat_of_nonneg nonneg] at writes
  · next negative =>
    have writes := Writes.negative (ofText_toString_ne_nil (-v).toNat) isDigit_of_mem_ofText
    rw [placeValue_toString, Int.toNat_of_nonneg (by omega), Int.neg_neg] at writes
    rw [ofText_append]
    exact writes

end Hash

/-! ### Replicas -/

namespace UniformRing

/-- Replica `i` of a node lies at the hash of its label, which some node then owns. -/
theorem replica_placed (replicas : Nat) (hash : HashFunction) (batches : List (List String)) :
    let ring := batches.foldl add (new replicas hash)
    ∀ node ∈ ring.nodes, ∀ i < ring.replicas,
      (ring.positions node)[i]? = some (hash (.ofText (toString i ++ node))) ∧
      (ring.layout.get? (hash (.ofText (toString i ++ node)))).isSome := by
  intro ring node there i below
  have laid : ring = .ofNodes replicas hash batches.flatten.eraseDups :=
    foldl_add_new replicas hash batches
  have placed : (ring.positions node)[i]? = some (hash (.ofText (toString i ++ node))) := by
    rw [positions, List.getElem?_map, List.getElem?_range below, laid]
    rfl
  refine ⟨placed, ?_⟩
  rw [laid] at there placed ⊢
  have owner (p : UInt32) : (ofNodes replicas hash batches.flatten.eraseDups).layout.get? p =
      Layout.lastHolder batches.flatten.eraseDups (new replicas hash).positions p :=
    Layout.get?_laid ..
  rw [owner, Layout.lastHolder_isSome_iff]
  exact List.mem_flatMap.mpr ⟨node, there, List.mem_of_getElem? placed⟩

end UniformRing

namespace Hash

/-- Bytes that write an integer of 64 bits, among them its text, hash to it modulo `2 ^ 32`, and all
other bytes to their CRC-32. A replica whose label writes such an integer lies there. -/
theorem numerals_hash_to_themselves :
    (∀ (bytes : Bytes) (n : Int64), Writes bytes n.toInt →
      ((number bytes).toNat : Int) = n.toInt % 2 ^ 32) ∧
    (∀ bytes : Bytes, (∀ n : Int64, ¬ Writes bytes n.toInt) → number bytes = crc32 bytes) ∧
    (∀ n : Int64, ((number (.ofText (toString n.toInt))).toNat : Int) = n.toInt % 2 ^ 32) ∧
    ∀ (replicas : Nat) (batches : List (List String)),
      let ring := batches.foldl UniformRing.add (.new replicas number)
      ∀ node ∈ ring.nodes, ∀ i < ring.replicas, ∀ n : Int64,
        Writes (.ofText (toString i ++ node)) n.toInt →
        ∃ p, (ring.positions node)[i]? = some p ∧ (ring.layout.get? p).isSome ∧
          (p.toNat : Int) = n.toInt % 2 ^ 32 := by
  refine ⟨fun _ _ => number_of_writes, fun _ => number_of_not_writes,
    fun n => number_of_writes (writes_toString n.toInt), ?_⟩
  intro replicas batches ring node there i below n writes
  obtain ⟨placed, owned⟩ := UniformRing.replica_placed replicas number batches node there i below
  exact ⟨_, placed, owned, number_of_writes writes⟩

/-- Zeros in front do not count, the least integer of 64 bits is one, and there is none less. -/
example : number (.ofText "+0011") = 11 ∧ number (.ofText "-9223372036854775808") = 0 ∧
    int64? (.ofText "-9223372036854775809") = none ∧
    UniformRing.numeric.positions "7" = [7, 17, 27] := by
  decide +kernel

end Hash
end Lanes
