/-
# Times that can be slept

A link sleeps for a time that is not negative, finite and below two to the sixty-fourth seconds.
Any other time is ignored.  Negative zero counts as zero.
-/
import LabControl.Quantity

namespace LabControl

/-- Whether a link sleeps for a time. -/
def isSleepable (seconds : Float) : Bool :=
  floatCount 0 ≤ seconds && seconds < floatCount UInt64.size

end LabControl
