/-!
# Offsets in bytes

Cutting texts at offsets that count the bytes of their UTF-8 form. An offset inside a character or
beyond the end cuts nothing.
-/
namespace Lanes.Offset

/-- What is left behind so many bytes. -/
def drop? : Nat → List Char → Option (List Char)
  | 0, cs => some cs
  | _ + 1, [] => none
  | n + 1, c :: rest => if c.utf8Size ≤ n + 1 then drop? (n + 1 - c.utf8Size) rest else none

/-- What so many bytes in front amount to. -/
def take? : Nat → List Char → Option (List Char)
  | 0, _ => some []
  | _ + 1, [] => none
  | n + 1, c :: rest =>
    if c.utf8Size ≤ n + 1 then (take? (n + 1 - c.utf8Size) rest).map (c :: ·) else none

/-- The text between two offsets. -/
def between? (start stop : Nat) (cs : List Char) : Option (List Char) :=
  (drop? start cs).bind (take? (stop - start))

end Lanes.Offset
