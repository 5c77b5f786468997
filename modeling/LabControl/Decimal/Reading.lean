/-
# Reading numbers

The two kinds of number that a text may hold: a double in decimal notation, and an integer of
sixty-four bits.  Nothing may stand before or after the number; blanks are cut off by the
caller.  A double is the one nearest to the number that is written.
-/
import LabControl.Decimal.Digits
import LabControl.Decimal.Binary64

namespace LabControl.Decimal

/-! ## 1. Doubles -/

/-- The sign that a number begins with, and the rest. -/
def readSign : List Char → Bool × List Char
  | '-' :: rest => (true, rest)
  | '+' :: rest => (false, rest)
  | cs => (false, cs)

/-- The exponent that ends a number: nothing at all, or `e` and an integer. -/
def readExponent? : List Char → Option Int
  | [] => some 0
  | c :: rest =>
    if c = 'e' ∨ c = 'E' then
      let (negative, ds) := readSign rest
      if !ds.isEmpty && ds.all isDigit then
        some (if negative then -(value ds : Int) else value ds)
      else none
    else none

/-- Digits with an optional point and an optional exponent, as `n · 10 ^ e`.  At least one
digit stands before or after the point. -/
def readMagnitude? (cs : List Char) : Option (Nat × Int) :=
  let whole := cs.takeWhile isDigit
  let rest := cs.dropWhile isDigit
  let (places, rest) := match rest with
    | '.' :: more => (more.takeWhile isDigit, more.dropWhile isDigit)
    | _ => ([], rest)
  if whole.isEmpty && places.isEmpty then none
  else (readExponent? rest).map fun e => (value (whole ++ places), e - places.length)

/-- The double nearest to `n · 10 ^ e`.  Exponents far outside the range of doubles are
answered without computing the power. -/
def ofDecimal (negative : Bool) (n : Nat) (e : Int) : Float :=
  let size : Int := (digits n).length
  if n = 0 then nearest negative 0 1
  else if 400 < e + size then infinity negative
  else if e + size < -400 then nearest negative 0 1
  else
    let (num, den) := timesPower 10 n 1 e
    nearest negative num den

/-- A double in decimal notation, with an optional sign; infinity and not-a-number may be
spelled in any case. -/
def readFloat? (cs : List Char) : Option Float :=
  let (negative, rest) := readSign cs
  let word := String.ofList (rest.map Char.toLower)
  if word = "inf" ∨ word = "infinity" then some (infinity negative)
  else if word = "nan" then some notANumber
  else (readMagnitude? rest).map fun (n, e) => ofDecimal negative n e

/-! ## 2. Integers -/

/-- An integer with an optional sign and nothing but digits, of any size. -/
def readInteger? (cs : List Char) : Option Int :=
  let (negative, ds) := readSign cs
  if !ds.isEmpty && ds.all isDigit then
    some (if negative then -(value ds : Int) else value ds)
  else none

/-- Whether an integer fits in sixty-four bits with a sign. -/
def fitsSigned64 (n : Int) : Bool := Int64.minValue.toInt ≤ n && n ≤ Int64.maxValue.toInt

/-- An integer that fits in sixty-four bits with a sign. -/
def readSigned64? (cs : List Char) : Option Int :=
  (readInteger? cs).filter fitsSigned64

/-- A natural number that fits in sixty-four bits; a plus sign may stand before it, a minus sign
may not. -/
def readUnsigned64? : List Char → Option Nat
  | '-' :: _ => none
  | cs => (readInteger? cs).bind fun n => if n < UInt64.size then some n.toNat else none

end LabControl.Decimal
