/-
# Trees of settings

Settings come from sources of different formats, and each source is read into a tree.  A later
source is laid over an earlier one with `overlay`: tables are laid over each other key by key,
and everything else is replaced.
-/
import LabControl.Quantity

namespace LabControl.Settings

/-- The values that a source of settings may hold. -/
inductive Tree where
  /-- An explicit absence. -/
  | null
  | flag (value : Bool)
  | integer (value : Int)
  /-- An integer that its source reads as one without a sign. -/
  | natural (value : Nat)
  | number (value : Float)
  | text (value : String)
  | list (items : List Tree)
  /-- Values under keys.  No key occurs twice. -/
  | table (entries : List (String × Tree))

/-- The entries of a table. -/
abbrev Entries : Type := List (String × Tree)

namespace Entries

/-- The entries with a value under a key, in the place of the former value if there was one. -/
def put (key : String) (value : Tree) : Entries → Entries
  | [] => [(key, value)]
  | (other, former) :: rest =>
    if other = key then (key, value) :: rest else (other, former) :: put key value rest

/-- The entries of a list of pairs; of several pairs with one key the last one counts. -/
def ofList (pairs : List (String × Tree)) : Entries :=
  pairs.foldl (fun entries pair => entries.put pair.1 pair.2) []

end Entries

namespace Tree

mutual

/-- One tree laid over another: tables key by key, everything else replaced. -/
def overlay (base : Tree) : Tree → Tree
  | table upper =>
    match base with
    | table lower => table (overlayEntries lower upper)
    | _ => table upper
  | null => null
  | flag value => flag value
  | integer value => integer value
  | natural value => natural value
  | number value => number value
  | text value => text value
  | list items => list items

/-- The entries of one table laid over those of another. -/
def overlayEntries (lower : Entries) : List (String × Tree) → Entries
  | [] => lower
  | (key, value) :: rest =>
    let laid := match lower.lookup key with
      | some former => overlay former value
      | none => value
    overlayEntries (lower.put key laid) rest

end

/-- A tree under a path of keys: one table in another, the first key outermost. -/
def nested : List String → Tree → Tree
  | [], value => value
  | key :: path, value => table [(key, nested path value)]

/-! ## Values of a kind -/

/-- The truth value that a tree is. -/
def flag? : Tree → Option Bool
  | flag value => some value
  | _ => none

/-- The text that a tree is. -/
def text? : Tree → Option String
  | text value => some value
  | _ => none

/-- The natural number below a bound that a tree is. -/
def natural? (bound : Nat) : Tree → Option Nat
  | integer value => if 0 ≤ value ∧ value < bound then some value.toNat else none
  | natural value => if value < bound then some value else none
  | _ => none

/-- The number that a tree is.  An integer stands for the nearest double. -/
def number? : Tree → Option Float
  | integer value => some (Decimal.nearest (value < 0) value.natAbs 1)
  | natural value => some (floatCount value)
  | number value => some value
  | _ => none

/-- The items of the list that a tree is, each of one kind. -/
def list? {α : Type} (read : Tree → Option α) : Tree → Option (List α)
  | list items => items.mapM read
  | _ => none

end Tree

end LabControl.Settings
