/-
# The nearest breakpoint

Looking a value up in a rising list of breakpoints.  Values beyond either end go to that end.
Inside, the first neighbours that bracket the value decide: the lower one when the value is
strictly closer to it, otherwise the upper one, so a value half way between goes up.
-/
import LabControl.Quantity

namespace LabControl.Calibration

variable {ν : Type} [Scale ν]

/-- The position of the breakpoint nearest to `x`, counted from `lower`, when `x` is not below
`lower` and the breakpoints above it follow. -/
def nearestFrom (lower : ν) : List ν → ν → Nat
  | [], _ => 0
  | upper :: rest, x =>
    if Scale.lt x upper then
      if Scale.lt (x - lower) (upper - x) then 0 else 1
    else nearestFrom upper rest x + 1

/-- The position of the breakpoint nearest to `x`.  An empty list answers zero. -/
def nearestIndex : List ν → ν → Nat
  | [], _ => 0
  | first :: rest, x => if Scale.lt x first then 0 else nearestFrom first rest x

/-- A lookup among breakpoints above `lower` ends at one of them or at `lower`. -/
theorem nearestFrom_le (lower : ν) (rest : List ν) (x : ν) :
    nearestFrom lower rest x ≤ rest.length := by
  induction rest generalizing lower with
  | nil => simp [nearestFrom]
  | cons upper rest ih =>
    have := ih upper
    simp only [nearestFrom, List.length_cons]
    split
    · split <;> omega
    · omega

end LabControl.Calibration
