/-
# Blank characters

A number on the wire may have blanks around it.  A blank is any character of the Unicode
class White_Space, which has twenty-five members; `trim` cuts them off at both ends of a text
and leaves the blanks inside alone.
-/

namespace LabControl.Text

/-- The members of White_Space: the controls from tab to carriage return, the space, the next
line control, the no-break spaces, and the typographic spaces and separators. -/
def isBlank (c : Char) : Bool :=
  let n := c.toNat
  (9 ≤ n && n ≤ 13) || n == 0x20 || n == 0x85 || n == 0xA0 || n == 0x1680 ||
    (0x2000 ≤ n && n ≤ 0x200A) || n == 0x2028 || n == 0x2029 || n == 0x202F ||
    n == 0x205F || n == 0x3000

/-- The characters without the blanks at the two ends. -/
def trimChars (cs : List Char) : List Char :=
  ((cs.dropWhile isBlank).reverse.dropWhile isBlank).reverse

/-- The text without the blanks at its two ends. -/
def trim (s : String) : String := String.ofList (trimChars s.toList)

/-- Letters of the Latin alphabet in lower case, every other character as it is. -/
def lowerAscii (s : String) : String := String.ofList (s.toList.map Char.toLower)

end LabControl.Text
