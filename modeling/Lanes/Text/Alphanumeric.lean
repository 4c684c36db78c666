import Lanes.Text.Alphabetic
import Lanes.Text.Numeric

/-!
# Letters and numbers
-/
namespace Lanes.Alphanumeric

def isAlphanumeric (c : Char) : Bool :=
  Alphabetic.isAlphabetic c || Numeric.isNumeric c

end Lanes.Alphanumeric
