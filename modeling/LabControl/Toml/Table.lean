/-
# Tables in the making

A TOML document builds its tables line by line, and what may still be added to a table depends
on how it came about.  A table that is only on the way to a deeper header is `implicit`, and one
header may still open it.  A table that dotted keys made is `dotted`, and only dotted keys add to
it.  Every other table is `explicit`.  No key is given two values.
-/
import LabControl.Settings.Tree

namespace LabControl.Toml

open Settings (Tree)

/-- How a table came about. -/
inductive Kind where
  /-- As a step on the way to a deeper header. -/
  | implicit
  /-- As a step in a dotted key. -/
  | dotted
  /-- By a header, or as the table of the whole document. -/
  | explicit
  deriving DecidableEq, Repr

/-- What stands under a key: a complete value, a table, or an array of tables of which the last
one grows. -/
inductive Item where
  | value (tree : Tree)
  | table (kind : Kind) (entries : List (String × Item))
  | tables (last : List (String × Item)) (earlier : List (List (String × Item)))

/-- The entries of a table in the making. -/
abbrev Items : Type := List (String × Item)

namespace Items

/-- The entries with an item under a key, in the place of the former one if there was one. -/
def put (key : String) (item : Item) : Items → Items
  | [] => [(key, item)]
  | (other, former) :: rest =>
    if other = key then (key, item) :: rest else (other, former) :: put key item rest

/-- Change the table at the end of a path, which is made where it is missing.  A path of dotted
keys does not enter explicit tables; no path enters a complete value. -/
def within (step : Kind) (change : Kind → Items → Option Items) :
    List String → Kind → Items → Option Items
  | [], kind, entries => change kind entries
  | key :: path, _, entries =>
    match entries.lookup key with
    | none => (within step change path step []).map fun inner => entries.put key (.table step inner)
    | some (.value _) => none
    | some (.table kind inner) =>
      if step = .dotted ∧ kind = .explicit then none
      else (within step change path kind inner).map fun inner => entries.put key (.table kind inner)
    | some (.tables last earlier) =>
      (within step change path .explicit last).map fun last =>
        entries.put key (.tables last earlier)

/-- Change the table at the end of a path of a header. -/
def atHeader (path : List String) (change : Items → Option Items) (entries : Items) :
    Option Items :=
  within .implicit (fun _ entries => change entries) path .explicit entries

/-- Give a key a value, given the keys of a dotted path before it.  The value goes into a dotted
table if and only if there are such keys. -/
def assign (path : List String) (key : String) (tree : Tree) (entries : Items) : Option Items :=
  within .dotted
    (fun kind entries =>
      if (kind = .dotted ↔ path = []) ∨ (entries.lookup key).isSome then none
      else some (entries.put key (.value tree)))
    path .explicit entries

/-- Open the table of a header. -/
def openTable (key : String) (entries : Items) : Option Items :=
  match entries.lookup key with
  | none => some (entries.put key (.table .explicit []))
  | some (.table .implicit inner) => some (entries.put key (.table .explicit inner))
  | some _ => none

/-- Begin the next table of an array of tables. -/
def nextTable (key : String) (entries : Items) : Option Items :=
  match entries.lookup key with
  | none => some (entries.put key (.tables [] []))
  | some (.tables last earlier) => some (entries.put key (.tables [] (last :: earlier)))
  | some _ => none

end Items

mutual

/-- The value that an item stands for. -/
def Item.tree : Item → Tree
  | .value tree => tree
  | .table _ entries => .table (treesUnder entries)
  | .tables last earlier => .list (tablesOf earlier ++ [.table (treesUnder last)])

/-- The values under the keys of a table. -/
def treesUnder : List (String × Item) → List (String × Tree)
  | [] => []
  | (key, item) :: rest => (key, item.tree) :: treesUnder rest

/-- The values of an array of tables, given the last one first. -/
def tablesOf : List (List (String × Item)) → List Tree
  | [] => []
  | entries :: rest => tablesOf rest ++ [.table (treesUnder entries)]

end

end LabControl.Toml
