/-
# Doubles without rounding

Statements about tables are made over the rationals with the three values that a double can have
beside them: two infinities and no number at all.  Comparison and difference follow the rules of
floating point.  What is no number is neither less nor greater than anything, and the difference of
an infinity and itself is no number.

All but the last have a place in one linear order, and comparison is comparison of places
(`lt_iff`), so the laws of an order need no account of the kinds of values.
-/
import LabControl.Quantity
import Mathlib.Algebra.Order.Ring.Rat
import Mathlib.Order.WithBot
import Mathlib.Tactic.Linarith

namespace LabControl

/-- A rational, an infinity, or no number. -/
inductive Extended where
  | finite (value : ℚ)
  | infinity
  | minusInfinity
  | notANumber
  deriving DecidableEq

namespace Extended

/-! ## 1. The rules of floating point -/

/-- Strictly less. -/
def lt : Extended → Extended → Bool
  | finite x, finite y => decide (x < y)
  | minusInfinity, finite _ | minusInfinity, infinity | finite _, infinity => true
  | _, _ => false

/-- The difference. -/
def sub : Extended → Extended → Extended
  | finite x, finite y => finite (x - y)
  | infinity, finite _ | infinity, minusInfinity | finite _, minusInfinity => infinity
  | minusInfinity, finite _ | minusInfinity, infinity | finite _, infinity => minusInfinity
  | _, _ => notANumber

/-- The whole part, cut to the settings from zero to the limit. -/
def setting (limit : Nat) : Extended → Nat
  | finite x => min x.floor.toNat limit
  | infinity => limit
  | minusInfinity | notANumber => 0

theorem setting_le (limit : Nat) (x : Extended) : x.setting limit ≤ limit := by
  cases x with
  | finite x => exact Nat.min_le_right _ _
  | infinity => exact le_refl _
  | minusInfinity | notANumber => exact Nat.zero_le _

instance : Scale Extended where
  sub := sub
  lt := lt
  count n := finite n
  clamp limit x := ⟨x.setting limit, Nat.lt_succ_of_le (x.setting_le limit)⟩

/-! ## 2. Order -/

/-- The place of a value in a linear order, if it is a number. -/
def place? : Extended → Option (WithBot (WithTop ℚ))
  | minusInfinity => some ⊥
  | finite x => some ((x : WithTop ℚ) : WithBot (WithTop ℚ))
  | infinity => some ⊤
  | notANumber => none

variable {x y z : Extended}

/-- **Comparison is comparison of places.** -/
theorem lt_iff : Scale.lt x y = true ↔ ∃ a b, x.place? = some a ∧ y.place? = some b ∧ a < b := by
  have htop (q : ℚ) : ((q : WithTop ℚ) : WithBot (WithTop ℚ)) < ⊤ :=
    WithBot.coe_lt_coe.mpr (WithTop.coe_lt_top q)
  cases x <;> cases y <;> simp [Scale.lt, lt, place?, htop]

theorem not_lt_self (x : Extended) : Scale.lt x x = false := by
  rw [← Bool.not_eq_true, lt_iff]
  rintro ⟨a, b, ha, hb, hab⟩
  obtain rfl : a = b := Option.some.inj (ha.symm.trans hb)
  exact lt_irrefl a hab

theorem lt_trans (h : Scale.lt x y = true) (h' : Scale.lt y z = true) : Scale.lt x z = true := by
  obtain ⟨a, b, ha, hb, hab⟩ := lt_iff.mp h
  obtain ⟨b', c, hb', hc, hbc⟩ := lt_iff.mp h'
  obtain rfl : b = b' := Option.some.inj (hb.symm.trans hb')
  exact lt_iff.mpr ⟨a, c, ha, hc, hab.trans hbc⟩

theorem not_lt_of_lt (h : Scale.lt x y = true) : Scale.lt y x = false := by
  by_contra hyx
  have hself := lt_trans h (Bool.eq_true_of_not_eq_false hyx)
  rw [not_lt_self] at hself
  cases hself

instance : IsTrans Extended fun x y => Scale.lt x y = true := ⟨fun _ _ _ => lt_trans⟩

/-- Nothing is below minus infinity. -/
theorem ne_minusInfinity_of_lt (h : Scale.lt x y = true) : y ≠ minusInfinity := by
  rintro rfl
  obtain ⟨a, b, -, hb, hab⟩ := lt_iff.mp h
  obtain rfl : ⊥ = b := Option.some.inj hb
  exact not_lt_bot hab

/-! ## 3. Distances -/

/-- **A value is strictly closer to itself than to any value above it**, unless it is minus
infinity, whose distance to itself is no number. -/
theorem closer_to_self (h : Scale.lt x y = true) (hx : x ≠ minusInfinity) :
    Scale.lt (x - x) (y - x) = true := by
  cases x with
  | finite x =>
    cases y with
    | finite y =>
      have hlt : x < y := of_decide_eq_true h
      have hcloser : x - x < y - x := by linarith
      exact decide_eq_true hcloser
    | infinity => rfl
    | minusInfinity | notANumber => cases h
  | minusInfinity => exact absurd rfl hx
  | infinity | notANumber => cases y <;> cases h

/-- Nothing is strictly closer to minus infinity than to another value. -/
theorem not_closer_to_minusInfinity (x y : Extended) :
    Scale.lt (x - minusInfinity) (y - x) = false := by
  cases x <;> cases y <;> rfl

end Extended

end LabControl
