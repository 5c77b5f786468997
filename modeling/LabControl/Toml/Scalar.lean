/-
# Scalar values of TOML

Texts in four kinds of quotes, integers, floats, truth values and dates.  A date is checked, but
no setting is a date, so all that is kept of it is an empty table.
-/
import LabControl.Settings.Tree
import LabControl.Text.Escape

namespace LabControl.Toml

open Text Text.Reader
open Settings (Tree)
open Decimal (isDigit readSign value)

/-! ## 1. Characters and lines -/

/-- Whether a character may stand in comments and texts: all but the ASCII controls other than
the tab. -/
def isPlain (c : Char) : Bool := c == '\t' || (0x20 ≤ c.toNat && c.toNat != 0x7F)

/-- Whether a character separates the parts of a line. -/
def isGap (c : Char) : Bool := c == ' ' || c == '\t'

/-- What separates the parts of a line. -/
def gap : Reader Unit := discard (run isGap)

/-- A line break. -/
def lineBreak : Reader Unit := char '\n' <|> word ['\r', '\n']

/-- A comment, up to the end of its line. -/
def comment : Reader Unit := do
  char '#'
  discard (run isPlain)

/-- The end of the text. -/
def atEnd : Reader Unit := do
  if (← peek?).isSome then failure

/-- The end of a line after its contents. -/
def lineRest : Reader Unit := do
  gap
  discard (optional? comment)
  lineBreak <|> atEnd

/-! ## 2. Texts -/

/-- A character of a text that stands for itself. -/
def plainChar (quote : Char) : Reader Char :=
  satisfying fun c => isPlain c && c != quote && c != '\\'

/-- A text on one line in double quotes. -/
def basicText : Reader String := do
  char '"'
  let cs ← many (plainChar '"' <|> escape)
  char '"'
  pure (String.ofList cs)

/-- A text on one line in single quotes, where a backslash is a backslash. -/
def literalText : Reader String := do
  char '\x27'
  let cs ← run fun c => isPlain c && c != '\x27'
  char '\x27'
  pure (String.ofList cs)

/-- One or two quotes inside a text that ends with three. -/
def innerQuotes (quote : Char) : Reader (List Char) := do
  let quotes ← run₁ (· == quote)
  if quotes.length ≤ 2 then pure quotes else failure

/-- The three quotes at the end of a text, and one or two before them that belong to it. -/
def closingQuotes (quote : Char) : Reader (List Char) := do
  let quotes ← run (· == quote)
  if 3 ≤ quotes.length ∧ quotes.length ≤ 5 then pure (quotes.drop 3) else failure

/-- A backslash at the end of a line: the break and all blanks and breaks after it are left
out. -/
def continuedLine : Reader (List Char) := do
  char '\\'
  gap
  lineBreak
  discard (many (discard (satisfying isGap) <|> lineBreak))
  pure []

/-- A text over several lines between triple quotes, made of pieces.  A break directly after the
opening quotes is left out. -/
def longText (quote : Char) (piece : Reader (List Char)) : Reader String := do
  word [quote, quote, quote]
  discard (optional? lineBreak)
  let pieces ← many (piece <|> (do lineBreak; pure ['\n']) <|> innerQuotes quote)
  let last ← closingQuotes quote
  pure (String.ofList (pieces.flatten ++ last))

/-- A text over several lines in triple double quotes. -/
def longBasicText : Reader String :=
  longText '"' ((fun c => [c]) <$> plainChar '"' <|> continuedLine <|> (fun c => [c]) <$> escape)

/-- A text over several lines in triple single quotes. -/
def longLiteralText : Reader String :=
  longText '\x27' (run₁ fun c => isPlain c && c != '\x27')

/-- A text in quotes of any kind. -/
def text : Reader String := longBasicText <|> basicText <|> longLiteralText <|> literalText

/-! ## 3. Numbers -/

/-- Digits without the underscores between them, each of which stands between two digits. -/
def ungroup? (isDigit : Char → Bool) : List Char → Option (List Char)
  | [] => none
  | [c] => if isDigit c then some [c] else none
  | c :: '_' :: rest => if isDigit c then (c :: ·) <$> ungroup? isDigit rest else none
  | c :: rest => if isDigit c then (c :: ·) <$> ungroup? isDigit rest else none

/-- The digits before a point: a zero does not begin longer ones. -/
def wholeDigits? (cs : List Char) : Option (List Char) :=
  (ungroup? isDigit cs).filter fun ds => ds.length == 1 || ds.head? != some '0'

/-- The integer of digits in a base. -/
def basedInteger? (base : Nat) (cs : List Char) : Option Int :=
  (ungroup? (fun c => (digitIn? base c).isSome) cs).map fun ds => valueIn base ds

/-- An integer, in decimal notation with an optional sign, or in another base without one.  It
fits in sixty-four bits with a sign. -/
def integer? (cs : List Char) : Option Int :=
  let n? := match cs with
    | '0' :: 'x' :: ds => basedInteger? 16 ds
    | '0' :: 'o' :: ds => basedInteger? 8 ds
    | '0' :: 'b' :: ds => basedInteger? 2 ds
    | _ =>
      let (negative, ds) := readSign cs
      (wholeDigits? ds).map fun ds => if negative then -(value ds : Int) else value ds
  n?.filter Decimal.fitsSigned64

/-- The exponent of a float, with the letter before it. -/
def exponent? : List Char → Option Int
  | c :: rest =>
    if c = 'e' ∨ c = 'E' then
      let (negative, ds) := readSign rest
      (ungroup? isDigit ds).map fun ds => if negative then -(value ds : Int) else value ds
    else none
  | [] => none

/-- What a float has after the digits before the point: digits after a point, an exponent, or
both. -/
def fraction? : List Char → Option (List Char × Int)
  | '.' :: rest => do
    let inPlaces (c : Char) : Bool := isDigit c || c == '_'
    let places ← ungroup? isDigit (rest.takeWhile inPlaces)
    match rest.dropWhile inPlaces with
    | [] => pure (places, 0)
    | tail => pure (places, ← exponent? tail)
  | cs => (exponent? cs).map fun e => ([], e)

/-- A float.  One that is too large for a double is refused. -/
def float? (cs : List Char) : Option Float :=
  let (negative, rest) := readSign cs
  match rest with
  | ['i', 'n', 'f'] => some (Decimal.infinity negative)
  | ['n', 'a', 'n'] => some Decimal.notANumber
  | _ => do
    let inWhole (c : Char) : Bool := isDigit c || c == '_'
    let whole ← wholeDigits? (rest.takeWhile inWhole)
    let (places, e) ← fraction? (rest.dropWhile inWhole)
    let x := Decimal.ofDecimal negative (value (whole ++ places)) (e - places.length)
    if x == Decimal.infinity false then none else some x

/-- Whether a character ends a value without quotes. -/
def endsWord (c : Char) : Bool := [' ', '\t', '\r', '\n', ',', ']', '\x7d', '#'].contains c

/-- A value without quotes that is no date. -/
def bareValue : Reader Tree := do
  let cs ← run fun c => !endsWord c
  if cs = ['t', 'r', 'u', 'e'] then pure (.flag true)
  else if cs = ['f', 'a', 'l', 's', 'e'] then pure (.flag false)
  else
    match integer? cs, float? cs with
    | some n, _ => pure (.integer n)
    | none, some x => pure (.number x)
    | none, none => failure

/-! ## 4. Dates -/

/-- Two digits whose value lies between two bounds. -/
def twoDigits (least most : Nat) : Reader Nat := do
  let n := value (← exactly 2 isDigit)
  if least ≤ n ∧ n ≤ most then pure n else failure

/-- The number of days of a month. -/
def daysOf (year month : Nat) : Nat :=
  if month = 2 then
    if year % 4 = 0 ∧ (year % 100 ≠ 0 ∨ year % 400 = 0) then 29 else 28
  else if [4, 6, 9, 11].contains month then 30
  else 31

/-- A day of the calendar. -/
def day : Reader Unit := do
  let year := value (← exactly 4 isDigit)
  char '-'
  let month ← twoDigits 1 12
  char '-'
  discard (twoDigits 1 (daysOf year month))

/-- A time of day.  The last minute may have a leap second. -/
def time : Reader Unit := do
  discard (twoDigits 0 23)
  char ':'
  discard (twoDigits 0 59)
  char ':'
  discard (twoDigits 0 60)
  discard (optional? do
    char '.'
    run₁ isDigit)

/-- The distance of a time from universal time. -/
def offset : Reader Unit :=
  discard (satisfying fun c => c == 'Z' || c == 'z') <|> do
    discard (satisfying fun c => c == '+' || c == '-')
    discard (twoDigits 0 23)
    char ':'
    discard (twoDigits 0 59)

/-- A date: a day, a day with a time, or a time. -/
def date : Reader Tree := do
  (do
    day
    discard (optional? do
      discard (satisfying fun c => c == 'T' || c == 't' || c == ' ')
      time
      optional? offset)) <|> time
  pure (.table [])

/-- A value that holds no others. -/
def scalar : Reader Tree := Tree.text <$> text <|> date <|> bareValue

end LabControl.Toml
