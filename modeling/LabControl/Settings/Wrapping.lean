/-
# Wrapped values

A document may write a value in a wrapper: a table with the value under a reserved key.  The
wrapper is read as that value, and what else it holds is of no account.  A second reserved key
holds a mark of where a value came from.  Documents do not mark values, so a table with that key
makes a document unreadable, also where nothing asks for the table.  Neither key is reserved in
the table of a whole document.
-/
import LabControl.Settings.Tree

namespace LabControl.Settings

/-- The key of the value in a wrapper. -/
def wrappedKey : String := "___figment_value_value"

/-- The key of the mark in a wrapper. -/
def markKey : String := "___figment_value_id"

namespace Entries

/-- What the table of these entries stands for: the wrapped value if there is one, else the
table. -/
def standFor? (entries : Entries) : Option Tree :=
  if (entries.lookup markKey).isSome then none
  else some ((entries.lookup wrappedKey).getD (.table entries))

end Entries

namespace Tree

mutual

/-- A tree with every wrapper in it read as the value that it wraps, if no table has a mark. -/
def unwrap? : Tree → Option Tree
  | null => some null
  | flag value => some (flag value)
  | integer value => some (integer value)
  | natural value => some (natural value)
  | number value => some (number value)
  | text value => some (text value)
  | list items => (unwrapItems? items).map list
  | table entries => (unwrapEntries? entries).bind Entries.standFor?

/-- The items of a list, each unwrapped. -/
def unwrapItems? : List Tree → Option (List Tree)
  | [] => some []
  | item :: rest => do
    let item ← unwrap? item
    let rest ← unwrapItems? rest
    pure (item :: rest)

/-- The entries of a table, each unwrapped. -/
def unwrapEntries? : List (String × Tree) → Option (List (String × Tree))
  | [] => some []
  | (key, value) :: rest => do
    let value ← unwrap? value
    let rest ← unwrapEntries? rest
    pure ((key, value) :: rest)

end

/-- The tree of a whole document, unwrapped: its table is no wrapper, whatever its keys. -/
def unwrapDocument? : Tree → Option Tree
  | table entries => (unwrapEntries? entries).map table
  | tree => unwrap? tree

end Tree

end LabControl.Settings
