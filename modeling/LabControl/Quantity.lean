/-
# The numbers that are measured and set

Everything that calculates is written once, for any type of numbers with the operations it
needs.  `Scale` is enough to look a value up in a table: compare, subtract, cut to a whole
setting.  `Quantity` adds the arithmetic of ramps and estimates and the text that stands for a
number on the wire.  Doubles are the instance that runs; an exact type of numbers may take their
place where a statement is about exact arithmetic.
-/
import LabControl.Decimal.Printing
import LabControl.Decimal.Reading

namespace LabControl

/-- Numbers that can be compared and subtracted, and cut to whole settings. -/
class Scale (ν : Type) extends Sub ν where
  /-- Strictly less.  A value that is no number is neither less nor greater than any other. -/
  lt : ν → ν → Bool
  /-- A natural number as a value. -/
  count : Nat → ν
  /-- The whole part of a value, cut to the settings from zero to the limit.  A value that is no
  number is cut to zero. -/
  clamp : (limit : Nat) → ν → Fin (limit + 1)

/-- Numbers that can be calculated with, and that have a text on the wire. -/
class Quantity (ν : Type) extends Scale ν, Add ν, Mul ν, Div ν where
  /-- Whether a value equals zero. -/
  isZero : ν → Bool
  /-- The sine of `part` out of `parts` equal parts of a full turn. -/
  turnSine : (part parts : Nat) → ν
  /-- The text of a value with a fixed number of decimal places. -/
  fixed : (places : Nat) → ν → String
  /-- The value that a text without blanks around it stands for. -/
  read? : List Char → Option ν

export Quantity (isZero turnSine)

/-- A natural number as a double. -/
def floatCount (n : Nat) : Float := Decimal.nearest false n 1

/-- The double nearest to the half circumference of the unit circle. -/
def floatPi : Float := Float.ofBits 0x400921FB54442D18

instance : Scale Float where
  lt x y := decide (x < y)
  count := floatCount
  clamp limit x := ⟨min x.toUInt64.toNat limit, Nat.lt_succ_of_le (Nat.min_le_right _ _)⟩

instance : Quantity Float where
  isZero x := x == floatCount 0
  turnSine part parts := Float.sin (floatCount 2 * floatPi * floatCount part / floatCount parts)
  fixed := Decimal.fixed
  read? := Decimal.readFloat?

end LabControl
