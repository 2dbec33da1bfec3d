import Reftest.Text.Alphabetic
import Reftest.Text.Numeric

namespace Reftest.Alphanumeric

def contains (c : Char) : Bool :=
  Alphabetic.contains c || Numeric.contains c

end Reftest.Alphanumeric
