/-
# Messages of the control language

Commands and replies have one grammar: a name, then fields, each behind a semicolon, and in each
field a key, a bar and a value.

    message   := name (';' field)*
    field     := key '|' value

Nothing is escaped.  A value may hold bars, since only the first bar of a field separates; a
semicolon anywhere begins a new field.  Reading is lenient: an argument that is missing, and a
field without a bar, have the empty value.
-/
import LabControl.Text.Blank
import LabControl.Text.Pieces
import LabControl.Quantity

namespace LabControl

/-! ## 1. Wire text -/

/-- The character before each field. -/
def fieldSeparator : Char := ';'

/-- The character between the key and the value of a field. -/
def keySeparator : Char := '|'

/-- One field with the separator before it. -/
def fieldChars (field : String × String) : List Char :=
  fieldSeparator :: field.1.toList ++ keySeparator :: field.2.toList

/-- The wire text of a name and its fields. -/
def encode (name : String) (fields : List (String × String)) : String :=
  String.ofList (name.toList ++ fields.flatMap fieldChars)

/-- The name of a message: all that stands before the first semicolon. -/
def decodeName (text : String) : String :=
  String.ofList (Text.pieces fieldSeparator text.toList).1

/-- The piece of a text at the position of a field, counted from zero.  The pieces are counted from
the name on, in words of sixty-four bits: what follows the greatest position is the name again. -/
def fieldPiece? (text : String) (index : Nat) : Option (List Char) :=
  let (name, later) := Text.pieces fieldSeparator text.toList
  later[index]?.or (if index + 1 = UInt64.size then some name else none)

/-- The value of the field at a position.  It is empty when there is no such field, and when the
field has no bar. -/
def decodeArg (text : String) (index : Nat) : String :=
  match (fieldPiece? text index).bind (Text.splitFirst keySeparator) with
  | some (_, value) => String.ofList value
  | none => ""

/-- A truth value on the wire. -/
def flagText (on : Bool) : String := if on then "1" else "0"

/-- A measured value on the wire: six decimal places. -/
def quantityText {ν : Type} [Quantity ν] (x : ν) : String := Quantity.fixed 6 x

/-! ## 2. Commands -/

/-- A command: a name and fields in order.  Keys may repeat. -/
structure Command where
  name : String
  fields : List (String × String) := []
  deriving DecidableEq, Repr

namespace Command

/-- Append a field with a verbatim value. -/
def arg (c : Command) (key value : String) : Command :=
  { c with fields := c.fields ++ [(key, value)] }

/-- Append an integer. -/
def int (c : Command) (key : String) (n : Int) : Command := c.arg key (Decimal.intText n)

/-- Append a measured value. -/
def quantity {ν : Type} [Quantity ν] (c : Command) (key : String) (x : ν) : Command :=
  c.arg key (quantityText x)

/-- Append a truth value. -/
def flag (c : Command) (key : String) (on : Bool) : Command := c.arg key (flagText on)

/-- The field that a piece between two semicolons holds.  Without a bar the whole piece is the
key. -/
def fieldOf (piece : List Char) : String × String :=
  match Text.splitFirst keySeparator piece with
  | some (key, value) => (String.ofList key, String.ofList value)
  | none => (String.ofList piece, "")

/-- The command that a wire text holds. -/
def parse (text : String) : Command :=
  let (name, later) := Text.pieces fieldSeparator text.toList
  { name := String.ofList name, fields := later.map fieldOf }

/-- The value of the field at a position, empty if there is none. -/
def value (c : Command) (index : Nat) : String := (c.fields[index]?.map Prod.snd).getD ""

/-- The wire text of a command. -/
def text (c : Command) : String := encode c.name c.fields

end Command

/-! ## 3. Replies -/

/-- A reply, kept as the wire text that arrived. -/
structure Reply where
  text : String := ""
  deriving DecidableEq, Repr

namespace Reply

/-- The name of the reply. -/
def name (r : Reply) : String := decodeName r.text

/-- The argument at a position, empty if there is none. -/
def arg (r : Reply) (index : Nat) : String := decodeArg r.text index

/-- The argument at a position as a number. -/
def quantity? {ν : Type} [Quantity ν] (r : Reply) (index : Nat) : Option ν :=
  Quantity.read? (Text.trimChars (r.arg index).toList)

/-- The argument at a position as an integer of sixty-four bits. -/
def int? (r : Reply) (index : Nat) : Option Int :=
  Decimal.readSigned64? (Text.trimChars (r.arg index).toList)

/-- The argument at a position as a truth value: only the digit one is true. -/
def flag (r : Reply) (index : Nat) : Bool := r.arg index == "1"

/-- Whether the reply answers a command of the given name. -/
def answers (r : Reply) (name : String) : Bool := r.name == name

/-- Whether the reply acknowledges a command: it has the command's name. -/
def acknowledges (r : Reply) (c : Command) : Bool := r.answers c.name

end Reply

end LabControl
