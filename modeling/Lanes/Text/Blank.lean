/-!
# Blanks

The characters with the Unicode property White_Space, and trimming of them.
-/
namespace Lanes.Blank

/-- The ranges of White_Space, both ends included. -/
def ranges : List (Nat × Nat) :=
  [(0x09, 0x0d), (0x20, 0x20), (0x85, 0x85), (0xa0, 0xa0), (0x1680, 0x1680), (0x2000, 0x200a),
    (0x2028, 0x2029), (0x202f, 0x202f), (0x205f, 0x205f), (0x3000, 0x3000)]

def isBlank (c : Char) : Bool :=
  ranges.any (fun range => range.1 ≤ c.toNat ∧ c.toNat ≤ range.2)

def trimList (cs : List Char) : List Char :=
  ((cs.dropWhile isBlank).reverse.dropWhile isBlank).reverse

/-- A text without the blanks at its ends. -/
def trim (text : String) : String :=
  String.ofList (trimList text.toList)

/-- The parts of a text between commas, one more than there are commas. -/
def splitComma : List Char → List (List Char)
  | [] => [[]]
  | ',' :: rest => [] :: splitComma rest
  | c :: rest =>
    match splitComma rest with
    | part :: parts => (c :: part) :: parts
    | [] => [[c]]

end Lanes.Blank
