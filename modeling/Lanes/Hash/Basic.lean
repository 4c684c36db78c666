/-!
# Hash functions

A hash function sends a sequence of bytes to a position among the `2 ^ 32` on a ring.
-/
namespace Lanes

abbrev Bytes := List UInt8

/-- The bytes of a text in UTF-8. -/
def Bytes.ofText (text : String) : Bytes := text.toUTF8.data.toList

/-- Places bytes on a ring. -/
abbrev HashFunction := Bytes → UInt32

end Lanes
