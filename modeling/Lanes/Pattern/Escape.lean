import Lanes.Pattern.Basic
import Lanes.Text.Blank

/-!
# Layout and escapes of patterns

In free layout blanks do not count, nor does what stands behind a `#` up to the end of its line. A
backslash gives the character behind it another meaning: it names a character, a place or a kind
of characters, or makes a sign stand for itself.
-/
namespace Lanes.Pattern

/-! ### Layout -/

/-- What follows blanks and comments, from within a comment or from outside. -/
def skipLayout : Bool → List Char → List Char
  | _, [] => []
  | true, c :: rest => skipLayout (c ≠ '\n') rest
  | false, c :: rest =>
    if Blank.isBlank c then skipLayout false rest
    else if c = '#' then skipLayout true rest
    else c :: rest

/-- What follows that counts. -/
def skip (free : Bool) (cs : List Char) : List Char :=
  if free then skipLayout false cs else cs

/-- The character to come, which is only looked at. Of a comment the first character counts that is
no blank. -/
def upcoming? (free : Bool) (cs : List Char) : Option Char :=
  if free then
    match cs.dropWhile Blank.isBlank with
    | '#' :: comment => (comment.dropWhile Blank.isBlank).head?
    | behind => behind.head?
  else cs.head?

/-! ### Escapes -/

def hexDigit? (c : Char) : Option Nat :=
  if '0' ≤ c ∧ c ≤ '9' then some (c.toNat - '0'.toNat)
  else if 'a' ≤ c ∧ c ≤ 'f' then some (c.toNat - 'a'.toNat + 10)
  else if 'A' ≤ c ∧ c ≤ 'F' then some (c.toNat - 'A'.toNat + 10)
  else none

/-- Reads so many hexadecimal digits on behind a value. -/
def hexDigits? (free : Bool) : Nat → Nat → List Char → Option (Nat × List Char)
  | 0, value, cs => some (value, cs)
  | n + 1, value, cs =>
    match skip free cs with
    | [] => none
    | c :: rest =>
      match hexDigit? c with
      | none => none
      | some d => hexDigits? free n (16 * value + d) rest

/-- Reads the number of a character, which has so many digits. -/
def numbered? (free : Bool) (digits : Nat) (asByte : Bool) (cs : List Char) :
    Option (Atom × List Char) :=
  match hexDigits? free digits 0 cs with
  | none => none
  | some (n, rest) =>
    if n.isValidChar then some (.literal ⟨.ofNat n, asByte⟩, rest) else none

/-- The character that a letter behind a backslash names, or a sign that stands for itself. -/
def namedChar? : Char → Option Char
  | 'a' => some '\x07'
  | 'f' => some '\x0c'
  | 't' => some '\t'
  | 'n' => some '\n'
  | 'r' => some '\r'
  | 'v' => some '\x0b'
  | c => if c.toNat < 0x80 ∧ !c.isAlphanum then some c else none

/-- Reads what follows a backslash. -/
def escaped? (free : Bool) : List Char → Option (Atom × List Char)
  | [] => none
  | 'x' :: rest => numbered? free 2 true rest
  | 'u' :: rest => numbered? free 4 false rest
  | 'U' :: rest => numbered? free 8 false rest
  | c :: rest =>
    if c ∈ ['d', 's', 'w'] then some (.kind false, rest)
    else if c ∈ ['D', 'S', 'W'] then some (.kind true, rest)
    else if c ∈ ['A', 'z'] then some (.edge, rest)
    else if c ∈ ['b', 'B', '<', '>'] then some (.wordEdge, rest)
    else (namedChar? c).map (fun named => (.literal (.plain named), rest))

end Lanes.Pattern
