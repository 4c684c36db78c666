import Lanes.Proofs.Number.Texts
import Lanes.Session.Record

/-!
# Lines of an audit

A line of the audit tells everything about its record. The region stands in the middle and may be
any text, one that looks like the rest of a line too. But what follows it are words without blanks,
always as many, which are read off from the end of the line; and what precedes it are words without
blanks as well, which are read off from its beginning.
-/
namespace Lanes

/-! ### Words -/

/-- A text without blanks. -/
def IsWord (text : String) : Prop := ' ' ∉ text.toList

instance (text : String) : Decidable (IsWord text) :=
  inferInstanceAs (Decidable (' ' ∉ text.toList))

theorem isWord_nat (n : Nat) : IsWord (toString n) := by
  intro blank
  exact absurd (Decimal.isDigit_of_mem_toString blank) (by decide)

theorem isWord_int (n : Int) : IsWord (toString n) := by
  intro blank
  exact absurd (Decimal.mem_toString_int blank) (by decide)

/-- The word before the first blank is told from what follows it. -/
theorem first_word_inj {word word' rest rest' : String} (free : IsWord word) (free' : IsWord word')
    (same : word ++ " " ++ rest = word' ++ " " ++ rest') : word = word' ∧ rest = rest' := by
  have lists : word.toList ++ ' ' :: rest.toList = word'.toList ++ ' ' :: rest'.toList := by
    simpa using congrArg String.toList same
  obtain ⟨words, rests⟩ := append_inj_of_stop (P := (· ≠ ' '))
    (fun c mem => ne_of_mem_of_not_mem mem free) (fun c mem => ne_of_mem_of_not_mem mem free')
    (by simp) (by simp) lists
  exact ⟨String.toList_inj.mp words, String.toList_inj.mp (List.cons.inj rests).2⟩

/-- The word behind the last blank is told from what precedes it. -/
theorem last_word_inj {word word' rest rest' : String} (free : IsWord word) (free' : IsWord word')
    (same : rest ++ " " ++ word = rest' ++ " " ++ word') : rest = rest' ∧ word = word' := by
  have lists : word.toList.reverse ++ ' ' :: rest.toList.reverse =
      word'.toList.reverse ++ ' ' :: rest'.toList.reverse := by
    simpa using congrArg (fun text => text.toList.reverse) same
  obtain ⟨words, rests⟩ := append_inj_of_stop (P := (· ≠ ' '))
    (fun c mem => ne_of_mem_of_not_mem (List.mem_reverse.mp mem) free)
    (fun c mem => ne_of_mem_of_not_mem (List.mem_reverse.mp mem) free') (by simp) (by simp) lists
  exact ⟨String.toList_inj.mp (List.reverse_inj.mp (List.cons.inj rests).2),
    String.toList_inj.mp (List.reverse_inj.mp words)⟩

/-- A text with some words behind it, each after a blank. -/
def withWords (text : String) (words : List String) : String :=
  words.foldl (fun line word => line ++ " " ++ word) text

/-- As many words as are known to stand at the end of a line are read off from there. -/
theorem withWords_inj {words words' : List String} (free : ∀ word ∈ words, IsWord word)
    (free' : ∀ word ∈ words', IsWord word) (length : words.length = words'.length)
    {text text' : String} (same : withWords text words = withWords text' words') :
    text = text' ∧ words = words' := by
  induction words generalizing words' text text' with
  | nil =>
    obtain rfl := List.eq_nil_of_length_eq_zero length.symm
    exact ⟨same, rfl⟩
  | cons word rest ih =>
    cases words' with
    | nil => cases length
    | cons word' rest' =>
      obtain ⟨here, later⟩ := List.forall_mem_cons.mp free
      obtain ⟨here', later'⟩ := List.forall_mem_cons.mp free'
      obtain ⟨begun, rfl⟩ := ih later later' (Nat.succ.inj length) same
      obtain ⟨rfl, rfl⟩ := last_word_inj here here' begun
      exact ⟨rfl, rfl⟩

/-! ### Lines -/

namespace AuditRecord

/-- A session with its region, as a line begins. -/
def opening (session : ObjectId) (region : String) : String :=
  "session " ++ (toString session ++ " " ++ ("(" ++ region)) ++ ")"

theorem opening_inj {session session' : ObjectId} {region region' : String}
    (same : opening session region = opening session' region') :
    session = session' ∧ region = region' := by
  have inner := (String.append_right_inj _).mp ((String.append_left_inj _).mp same)
  obtain ⟨number, name⟩ := first_word_inj (isWord_int session) (isWord_int session') inner
  exact ⟨Decimal.int_eq_of_toString_eq number, (String.append_right_inj _).mp name⟩

def session : AuditRecord → ObjectId
  | closed _ session _ _ | expired _ session _ _ => session

def region : AuditRecord → String
  | closed _ _ region _ | expired _ _ region _ => region

/-- The words behind the region. -/
def closing : AuditRecord → List String
  | closed lane _ _ events =>
    ["closed", "on", "lane", toString lane, "after", toString events, "events"]
  | expired lane _ _ idle => ["expired", "on", "lane", toString lane, "after", idle.text, "idle"]

theorem text_closed (lane : LaneId) (session : ObjectId) (region : String) (events : Nat) :
    (closed lane session region events).text =
      "session " ++ toString session ++ " (" ++ region ++ ") closed on lane " ++ toString lane ++
        " after " ++ toString events ++ " events" := rfl

theorem text_expired (lane : LaneId) (session : ObjectId) (region : String) (idle : Duration) :
    (expired lane session region idle).text =
      "session " ++ toString session ++ " (" ++ region ++ ") expired on lane " ++ toString lane ++
        " after " ++ idle.text ++ " idle" := rfl

theorem text_eq (r : AuditRecord) : r.text = withWords (opening r.session r.region) r.closing := by
  rw [← String.toList_inj]
  cases r with
  | closed => simp [text_closed, withWords, opening, closing, session, region]
  | expired => simp [text_expired, withWords, opening, closing, session, region]

theorem isWord_of_mem_closing {r : AuditRecord} {word : String} (mem : word ∈ r.closing) :
    IsWord word := by
  cases r with
  | closed lane _ _ events =>
    simp only [closing, List.mem_cons, List.not_mem_nil, or_false] at mem
    rcases mem with rfl | rfl | rfl | rfl | rfl | rfl | rfl
    case inr.inr.inr.inl => exact isWord_int lane
    case inr.inr.inr.inr.inr.inl => exact isWord_nat events
    all_goals decide
  | expired lane _ _ idle =>
    simp only [closing, List.mem_cons, List.not_mem_nil, or_false] at mem
    rcases mem with rfl | rfl | rfl | rfl | rfl | rfl | rfl
    case inr.inr.inr.inl => exact isWord_int lane
    case inr.inr.inr.inr.inr.inl => exact idle.blank_not_mem_text
    all_goals decide

theorem length_closing (r : AuditRecord) : r.closing.length = 7 := by
  cases r <;> rfl

/-- Two records with the same line are the same record. -/
theorem line_tells_record (r r' : AuditRecord) : r.text = r'.text ↔ r = r' := by
  refine ⟨fun same => ?_, congrArg text⟩
  rw [text_eq, text_eq] at same
  obtain ⟨front, back⟩ := withWords_inj (fun _ => isWord_of_mem_closing)
    (fun _ => isWord_of_mem_closing) (r.length_closing.trans r'.length_closing.symm) same
  obtain ⟨sessions, regions⟩ := opening_inj front
  cases r with
  | closed lane id name events =>
    cases r' with
    | closed lane' id' name' events' =>
      simp only [closing, List.cons.injEq, true_and, and_true] at back
      obtain ⟨lanes, counts⟩ := back
      obtain rfl : id = id' := sessions
      obtain rfl : name = name' := regions
      rw [Decimal.int_eq_of_toString_eq lanes, Decimal.eq_of_toString_eq counts]
    | expired lane' id' name' idle' => simp [closing] at back
  | expired lane id name idle =>
    cases r' with
    | closed lane' id' name' events' => simp [closing] at back
    | expired lane' id' name' idle' =>
      simp only [closing, List.cons.injEq, true_and, and_true] at back
      obtain ⟨lanes, idles⟩ := back
      obtain rfl : id = id' := sessions
      obtain rfl : name = name' := regions
      rw [Decimal.int_eq_of_toString_eq lanes, Duration.eq_of_text_eq idles]

end AuditRecord
end Lanes
