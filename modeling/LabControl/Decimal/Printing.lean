/-
# Writing doubles

Three notations, all computed from the exact value of the double: a fixed number of decimal
places, a fixed number of digits with an exponent, and the fewest digits that still read back as
the same double.  In the first two a tie goes to the even digit.  The sign of a negative zero is
kept in all three.
-/
import LabControl.Decimal.Digits
import LabControl.Decimal.Binary64

namespace LabControl.Decimal

/-! ## 1. Fixed places -/

/-- The fraction `num / den` with `places` decimals, ties to even. -/
def fixedChars (places num den : Nat) : List Char :=
  let ds := digits (roundHalfEven (num * Nat.pow 10 places) den)
  let padded := List.replicate (places + 1 - ds.length) '0' ++ ds
  let cut := padded.length - places
  if places = 0 then padded else padded.take cut ++ '.' :: padded.drop cut

/-- The sign of a number, written before its digits when it is negative. -/
def withSign (negative : Bool) (cs : List Char) : String :=
  String.ofList (if negative then '-' :: cs else cs)

/-- A double with a fixed number of decimal places. -/
def fixed (places : Nat) (x : Float) : String :=
  match Binary64.ofFloat x with
  | .nan => "NaN"
  | .infinite negative => withSign negative ['i', 'n', 'f']
  | .finite negative mantissa exponent =>
    let (num, den) := timesPower 2 mantissa 1 exponent
    withSign negative (fixedChars places num den)

/-! ## 2. One digit, a point and an exponent -/

/-- The largest power of ten that is at most the positive fraction `num / den`. -/
def decimalExponent (num den : Nat) : Int :=
  if den ≤ num then ((digits (num / den)).length : Int) - 1
  else
    let inverse := (den + num - 1) / num
    Int.neg (digits (inverse - 1)).length

/-- The fraction `num / den` with one digit before the point, `places` after it, and a decimal
exponent without sign or padding, ties to even. -/
def scientificChars (places num den : Nat) : List Char :=
  let written (ds : List Char) (exponent : Int) : List Char :=
    ds.take 1 ++ (if places = 0 then [] else '.' :: ds.drop 1) ++ 'e' :: intChars exponent
  if num = 0 then written (List.replicate (places + 1) '0') 0 else
  let exponent := decimalExponent num den
  let (n, d) := timesPower 10 num den (places - exponent)
  let ds := digits (roundHalfEven n d)
  if ds.length = places + 1 then written ds exponent
  else written (ds.take (places + 1)) (exponent + 1)

/-- A double with one digit before the point, `places` after it, and an exponent. -/
def scientific (places : Nat) (x : Float) : String :=
  match Binary64.ofFloat x with
  | .nan => "NaN"
  | .infinite negative => withSign negative ['i', 'n', 'f']
  | .finite negative mantissa exponent =>
    let (num, den) := timesPower 2 mantissa 1 exponent
    withSign negative (scientificChars places num den)

/-! ## 3. The fewest digits that read back -/

/-- The reals that round to a double, in quarters of its last place: from `low` to `high`, the
ends included when `closed`. -/
structure Interval where
  low : Nat
  mid : Nat
  high : Nat
  /-- What one of the three numbers counts in: they are multiples of `1 / den`. -/
  den : Nat
  closed : Bool

/-- The reals that round to `mantissa · 2 ^ exponent`: half a place to each side, a quarter
below when the doubles lie twice as dense there.  The two ends round to the even mantissa. -/
def Interval.of (mantissa : Nat) (exponent : Int) : Interval :=
  let below := if Binary64.startsBinade mantissa exponent then 1 else 2
  let (num, den) := timesPower 2 1 1 (exponent - 2)
  { low := (4 * mantissa - below) * num, mid := 4 * mantissa * num,
    high := (4 * mantissa + 2) * num, den := den, closed := mantissa % 2 == 0 }

/-- Whether the fraction `num / den` rounds to the double. -/
def Interval.holds (i : Interval) (num den : Nat) : Bool :=
  let (p, low, high) := (num * i.den, i.low * den, i.high * den)
  if i.closed then low ≤ p && p ≤ high else low < p && p < high

/-- The multiple of `10 ^ exponent` that rounds to the double and is nearest to it, if there is
one; of two equally near ones the larger. -/
def Interval.onGrid (i : Interval) (exponent : Int) : Option Nat :=
  let (n, d) := timesPower 10 i.mid i.den (-exponent)
  let floor := n / d
  let inside (k : Nat) : Bool :=
    let (num, den) := timesPower 10 k 1 exponent
    i.holds num den
  let lower := inside floor
  let upper := inside (floor + 1)
  if upper && (!lower || d ≤ 2 * (n % d)) then some (floor + 1)
  else if lower then some floor
  else none

/-- The first grid, from the coarsest on, that has a number which rounds to the double: the
number and the exponent of its last digit.  The coarsest grid is the one whose first positive
number is the power of ten above the double; seventeen digits always suffice. -/
def Interval.shortest (i : Interval) : Nat × Int :=
  let top := decimalExponent i.mid i.den + 1
  let grids : List Int := (List.range 18).map fun k => top - Int.ofNat k
  (grids.findSome? fun exponent => (i.onGrid exponent).map fun n => (n, exponent)).getD (0, 0)

/-- `n · 10 ^ exponent` in positional notation, without a point when it is whole. -/
def positionalChars (n : Nat) (exponent : Int) : List Char :=
  if 0 ≤ exponent then digits n ++ List.replicate exponent.toNat '0'
  else
    let places := (-exponent).toNat
    let ds := digits n
    let padded := List.replicate (places + 1 - ds.length) '0' ++ ds
    let cut := padded.length - places
    padded.take cut ++ '.' :: padded.drop cut

/-- A double with the fewest digits that read back as the same double, always positional. -/
def shortest (x : Float) : String :=
  match Binary64.ofFloat x with
  | .nan => "NaN"
  | .infinite negative => withSign negative ['i', 'n', 'f']
  | .finite negative mantissa exponent =>
    if mantissa = 0 then withSign negative ['0'] else
    let (n, e) := (Interval.of mantissa exponent).shortest
    withSign negative (positionalChars n e)

end LabControl.Decimal
