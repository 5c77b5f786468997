/-
# Overrides

Any setting can be overridden by a named value from outside the document.  The name says where
the value belongs: behind a fixed beginning, in any case, stand keys with dots or double
underscores between them.  The text of the value is read as a truth value, a number, a table, a
list or a text; a text that is none of these in full is taken as it stands.
-/
import LabControl.Settings.Tree
import LabControl.Text.Blank
import LabControl.Text.Escape
import LabControl.Text.Pieces

namespace LabControl.Settings

open Text Text.Reader

/-! ## 1. Values -/

namespace Override

/-- Whether a character may stand around values: the blanks of ASCII. -/
def isGap (c : Char) : Bool := [' ', '\t', '\n', '\x0c', '\r'].contains c

/-- Blanks around values. -/
def gap : Reader Unit := discard (run isGap)

/-- Whether a character ends a value without quotes. -/
def endsWord (c : Char) : Bool := [',', '\x7b', '\x7d', '[', ']'].contains c

/-- Whether a character may stand in a key without quotes. -/
def isKeyChar (c : Char) : Bool := c.isAlphanum || c == '_' || c == '-'

/-- Whether a character of a quoted text stands for itself. -/
def isPlain (c : Char) : Bool :=
  (c == '\t' || 0x20 ≤ c.toNat) && c != '\x7f' && c != '"' && c != '\\'

/-- The longest front of a text that takes no more than a number of bytes. -/
def frontWithin : (bytes : Nat) → List Char → List Char
  | _, [] => []
  | bytes, c :: rest =>
    if c.utf8Size ≤ bytes then c :: frontWithin (bytes - c.utf8Size) rest else []

/-- A text in double quotes.  Of a text with escapes, the part before the first one is kept only
as far as it takes no more bytes than it has characters, so that a part without wide characters
is kept whole. -/
def quoted : Reader String := do
  char '"'
  let plain ← run isPlain
  let later ← many (satisfying isPlain <|> escape)
  char '"'
  let front := if later.isEmpty then plain else frontWithin plain.length plain
  pure (String.ofList (front ++ later))

/-- A single character in single quotes. -/
def quotedChar : Reader String := do
  char '\x27'
  let c ← satisfying fun _ => true
  char '\x27'
  pure (String.ofList [c])

/-- A key of a table. -/
def key : Reader String := quoted <|> String.ofList <$> run₁ isKeyChar

/-- A value without quotes: a number with a point, an integer, or a text. -/
def word (cs : List Char) : Tree :=
  let cs := trimChars cs
  match (if cs.contains '.' then Decimal.readFloat? cs else none) with
  | some x => .number x
  | none =>
    match Decimal.readUnsigned64? cs, Decimal.readSigned64? cs with
    | some n, _ => .natural n
    | none, some n => .integer n
    | none, none => .text (String.ofList cs)

/-- Items between two brackets, with commas between them; a comma may follow the last one.  The
closing bracket is looked for only where an item could begin. -/
def bracketed {α : Type} (opening closing : Char) (item : Reader α) : Reader (List α) := do
  char opening
  let items ← many do
    if (← peek?) == some closing then failure
    let a ← item
    if (← peek?) != some closing then char ','
    pure a
  char closing
  pure items

/-- An entry of a table. -/
def entry (value : Reader Tree) : Reader (String × Tree) := do
  gap
  let name ← key
  gap
  char '='
  gap
  let tree ← value
  gap
  pure (name, tree)

/-- A value with no more than a number of levels of values in it. -/
def valueWithin : (levels : Nat) → Reader Tree
  | 0 => failure
  | levels + 1 => do
    gap
    let tree ← match ← peek? with
      | some '\x7b' => do
        let entries ← bracketed '\x7b' '\x7d' (entry (valueWithin levels))
        pure (.table (Entries.ofList entries))
      | some '[' => .list <$> bracketed '[' ']' (valueWithin levels)
      | some '"' => .text <$> quoted
      | some '\x27' => .text <$> quotedChar
      | _ =>
        (do Reader.word ['t', 'r', 'u', 'e']; pure (.flag true)) <|>
        (do Reader.word ['f', 'a', 'l', 's', 'e']; pure (.flag false)) <|>
        word <$> run fun c => !endsWord c
    gap
    pure tree

/-- The value of a text.  A text with `n` characters has at most `n` levels. -/
def value (text : String) : Tree :=
  let cs := text.toList
  (Reader.whole (valueWithin (cs.length + 1)) cs).getD (.text text)

/-! ## 2. Names -/

/-- The beginning of the names of overrides. -/
def nameStart : String := "DAQ_CONTROL_"

/-- A text with dots for double underscores, from the left. -/
def dotted : List Char → List Char
  | '_' :: '_' :: rest => '.' :: dotted rest
  | c :: rest => c :: dotted rest
  | [] => []

/-- The path of keys that a name stands for, if it is the name of an override.  Blanks around the
name are left out, and so are blanks after its beginning. -/
def path? (name : String) : Option (List String) :=
  let cs := trimChars name.toList
  let start := nameStart.toList
  if (cs.take start.length).map Char.toLower != start.map Char.toLower then none else
  let (first, later) := pieces '.' (dotted (trimChars (cs.drop start.length)))
  let keys := first :: later
  if keys.any List.isEmpty then none
  else some (keys.map fun key => String.ofList (key.map Char.toLower))

end Override

/-! ## 3. All overrides -/

/-- Named values, each name once, in the order in which the names first came up; the last value
of a name counts. -/
def distinctNames (overrides : List (String × String)) : List (String × String) :=
  overrides.foldl
    (fun known (name, value) =>
      if known.any (·.1 == name) then
        known.map fun other => if other.1 == name then (name, value) else other
      else known ++ [(name, value)])
    []

/-- The tree of overrides: each laid over those before it. -/
def overrideTree (overrides : List (String × String)) : Tree :=
  (distinctNames overrides).foldl
    (fun tree (name, value) =>
      match Override.path? name with
      | some path => tree.overlay (Tree.nested path (Override.value value))
      | none => tree)
    (.table [])

end LabControl.Settings
