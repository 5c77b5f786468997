/-
# TOML documents

The rest of the format: keys, arrays, inline tables, and the lines of a document, each of which
is empty, assigns a value to a key, or is a header.  `read?` reads a document as a tree.
-/
import LabControl.Toml.Scalar
import LabControl.Toml.Table

namespace LabControl.Toml

open Text Text.Reader
open Settings (Tree)

/-! ## 1. Keys and values -/

/-- A bound that the number of parts of a key, and the depth of values in values, stay below. -/
def depthBound : Nat := 80

/-- Whether a character may stand in a key without quotes. -/
def isKeyChar (c : Char) : Bool := c.isAlphanum || c == '_' || c == '-'

/-- One part of a key. -/
def keyPart : Reader String :=
  String.ofList <$> run₁ isKeyChar <|> basicText <|> literalText

/-- A key: parts with dots between them, as all but the last, and the last. -/
def key : Reader (List String × String) := do
  let parts ← separated₁ (char '.') do
    gap
    let part ← keyPart
    gap
    pure part
  match parts.getLast? with
  | some last => if parts.length < depthBound then pure (parts.dropLast, last) else failure
  | none => failure

/-- Blanks, line breaks and comments between the items of an array. -/
def spread : Reader Unit :=
  discard (many (discard (satisfying isGap) <|> lineBreak <|> (do comment; lineBreak)))

/-- An array.  A comma may follow the last item. -/
def array (item : Reader Tree) : Reader Tree := do
  char '['
  let items ← separated (char ',') do
    spread
    let tree ← item
    spread
    pure tree
  if !items.isEmpty then discard (optional? (char ','))
  spread
  char ']'
  pure (.list items)

/-- A key and its value. -/
def assignment (item : Reader Tree) : Reader ((List String × String) × Tree) := do
  let key ← key
  char '='
  gap
  let tree ← item
  pure (key, tree)

/-- A table on one line. -/
def inlineTable (item : Reader Tree) : Reader Tree := do
  char '\x7b'
  let assignments ← separated (char ',') do
    let assigned ← assignment item
    gap
    pure assigned
  gap
  char '\x7d'
  let items? := assignments.foldlM
    (fun items ((path, key), tree) => Items.assign path key tree items) []
  match items? with
  | some items => pure (.table (treesUnder items))
  | none => failure

/-- A value with no more than a number of levels of values in it. -/
def valueWithin : (levels : Nat) → Reader Tree
  | 0 => scalar
  | levels + 1 => scalar <|> array (valueWithin levels) <|> inlineTable (valueWithin levels)

/-- A value. -/
def anyValue : Reader Tree := valueWithin (depthBound - 1)

/-! ## 2. Lines -/

/-- What a line says. -/
inductive Line where
  /-- Nothing. -/
  | empty
  /-- A key of the current table has a value. -/
  | assignment (path : List String) (key : String) (tree : Tree)
  /-- The current table is from now on this one. -/
  | header (path : List String) (key : String)
  /-- The current table is from now on a further one of this array. -/
  | arrayHeader (path : List String) (key : String)

/-- A line without contents. -/
def emptyLine : Reader Line := do
  lineBreak <|> (do comment; lineBreak <|> atEnd)
  pure .empty

/-- A line that begins with a bracket. -/
def headerLine : Reader Line := do
  char '['
  let line ← (do
    char '['
    let (path, last) ← key
    word [']', ']']
    pure (.arrayHeader path last)) <|> (do
    let (path, last) ← key
    char ']'
    pure (.header path last))
  lineRest
  pure line

/-- A line that assigns a value. -/
def assignmentLine : Reader Line := do
  let ((path, last), tree) ← assignment anyValue
  lineRest
  pure (.assignment path last tree)

/-- The lines of a document.  A byte order mark may stand before them. -/
def lines : Reader (List Line) := do
  discard (optional? (char '\ufeff'))
  gap
  many do
    let line ← emptyLine <|> headerLine <|> assignmentLine
    gap
    pure line

/-! ## 3. Documents -/

/-- A document up to some line: all tables, and the path of the current one. -/
structure Draft where
  items : Items := []
  current : List String := []

/-- The document with one more line. -/
def Draft.add (d : Draft) : Line → Option Draft
  | .empty => some d
  | .assignment path key tree =>
    (d.items.atHeader d.current (Items.assign path key tree)).map fun items => { d with items }
  | .header path key =>
    (d.items.atHeader path (Items.openTable key)).map fun items =>
      { items, current := path ++ [key] }
  | .arrayHeader path key =>
    (d.items.atHeader path (Items.nextTable key)).map fun items =>
      { items, current := path ++ [key] }

/-- The tree of a document, if it is well formed. -/
def read? (document : String) : Option Tree := do
  let lines ← Reader.whole lines document.toList
  let draft ← lines.foldlM Draft.add {}
  pure (.table (treesUnder draft.items))

end LabControl.Toml
