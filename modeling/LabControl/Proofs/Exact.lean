/-
# Exact arithmetic

Statements about the arithmetic of ramps and of tables are made over the rationals, where nothing is
rounded.  The texts that stand for numbers on the wire take no part in it and are left open: any
`Wording` of the rationals will do.
-/
import LabControl.Quantity
import Mathlib.Algebra.Order.Ring.Rat

namespace LabControl

/-- How rationals are written and read on the wire, and the sine that procedures use. -/
class Wording where
  turnSine : (part parts : Nat) → ℚ
  fixed : (places : Nat) → ℚ → String
  read? : List Char → Option ℚ

instance : Scale ℚ where
  lt x y := decide (x < y)
  count n := n
  clamp limit x := ⟨min x.floor.toNat limit, Nat.lt_succ_of_le (Nat.min_le_right _ _)⟩

instance [Wording] : Quantity ℚ where
  isZero x := decide (x = 0)
  turnSine := Wording.turnSine
  fixed := Wording.fixed
  read? := Wording.read?

end LabControl
