/-
# Double-precision numbers as exact fractions

A finite double is a whole number times a power of two.  `Binary64.ofFloat` reads that off the
bits, and `nearest` goes the other way: from an exact fraction to the double that lies nearest
to it, ties to the even neighbour.  All text of numbers, in both directions, passes through
these two, so that no digit is ever decided in rounded arithmetic.
-/

namespace LabControl.Decimal

/-! ## 1. Rounding a quotient -/

/-- The whole number nearest to `num / den`; of two equally near ones the even one. -/
def roundHalfEven (num den : Nat) : Nat :=
  let quotient := num / den
  let rest := num % den
  if 2 * rest < den then quotient
  else if den < 2 * rest then quotient + 1
  else if quotient % 2 = 0 then quotient
  else quotient + 1

/-! ## 2. The parts of a double -/

/-- A double as what it stands for. -/
inductive Binary64 where
  /-- Not a number. -/
  | nan
  /-- Beyond every number, on one side. -/
  | infinite (negative : Bool)
  /-- `mantissa · 2 ^ exponent`, with a sign that zero has too. -/
  | finite (negative : Bool) (mantissa : Nat) (exponent : Int)
  deriving DecidableEq, Repr

/-- Two to the fifty-second: the place of the exponent in the bits of a double, and the leading
digit of its mantissa. -/
def exponentPlace : Nat := Nat.pow 2 52

/-- Two to the sixty-third: the place of the sign in the bits of a double. -/
def signPlace : Nat := Nat.pow 2 63

/-- Whether `mantissa · 2 ^ exponent` is the least of its binade, below which the doubles lie
twice as dense. -/
def Binary64.startsBinade (mantissa : Nat) (exponent : Int) : Bool :=
  mantissa == exponentPlace && decide (-1074 < exponent)

/-- The parts of a double, read off its bits: one of sign, eleven of exponent, fifty-two of
mantissa, with the leading one left out unless the exponent is the least. -/
def Binary64.ofFloat (x : Float) : Binary64 :=
  let bits : Nat := x.toBits.toNat
  let negative := bits / signPlace == 1
  let exponent : Nat := bits / exponentPlace % 2048
  let mantissa : Nat := bits % exponentPlace
  if exponent = 2047 then
    if mantissa = 0 then .infinite negative else .nan
  else if exponent = 0 then .finite negative mantissa (-1074)
  else .finite negative (exponentPlace + mantissa) ((exponent : Int) - 1075)

/-- `num / den · base ^ exponent` as a numerator and a denominator. -/
def timesPower (base num den : Nat) (exponent : Int) : Nat × Nat :=
  if exponent < 0 then (num, den * Nat.pow base (-exponent).toNat)
  else (num * Nat.pow base exponent.toNat, den)

/-! ## 3. The nearest double -/

/-- The bits of the infinite double without a sign: the largest exponent, and no mantissa. -/
def infiniteBits : Nat := 2047 * exponentPlace

/-- The bits of the double nearest to the positive fraction `num / den`.

The exponent is chosen so that the scaled fraction has fifty-three binary digits before the
point, but never below the least exponent, where fewer are left.  The bit pattern of a double
grows with its value by one for each step, also from one exponent to the next, so the rounded
scaled fraction is simply added to the exponent's place; what passes the largest double is
infinite. -/
def nearestBits (num den : Nat) : Nat :=
  if num = 0 then 0 else
  let low : Int := max (-1074) ((num.log2 : Int) - (den.log2 : Int) - 53)
  let (n, d) := timesPower 2 num den (-low)
  let exponent := if 2 * exponentPlace ≤ n / d then low + 1 else low
  let (n, d) := timesPower 2 num den (-exponent)
  min ((exponent + 1074).toNat * exponentPlace + roundHalfEven n d) infiniteBits

/-- The double of a sign and the other bits. -/
def ofSignAndBits (negative : Bool) (bits : Nat) : Float :=
  Float.ofBits (UInt64.ofNat (bits + if negative then signPlace else 0))

/-- The double nearest to the fraction `num / den` with the given sign. -/
def nearest (negative : Bool) (num den : Nat) : Float :=
  ofSignAndBits negative (nearestBits num den)

/-- The infinite double of the given sign. -/
def infinity (negative : Bool) : Float := ofSignAndBits negative infiniteBits

/-- The double that is not a number. -/
def notANumber : Float := Float.ofBits 0x7FF8000000000000

end LabControl.Decimal
