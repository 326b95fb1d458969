import Throughput.Unicode.MarkData
import Throughput.Unicode.Ranges

/-!
# Combining marks
-/

namespace Throughput.Unicode

def markRanges : Ranges Bool :=
  .ofText (fun code => code = ['m']) markText

def isMark (c : Char) : Bool :=
  markRanges.get false c.toNat

end Throughput.Unicode
