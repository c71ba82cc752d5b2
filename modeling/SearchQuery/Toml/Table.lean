import SearchQuery.Document.Value
import SearchQuery.Toml.Fault

/-!
# Growing tables

A document is read into one table that grows entry by entry.  A path leads through tables, and into the last
element of a list of tables; tables that are missing on the way are made.
-/

set_option autoImplicit false

namespace SearchQuery.Toml

abbrev Entries := List (Text × Value)

namespace Entries

/-- Gives an entry that is there a new value, in its place. -/
def replace (key : Text) (value : Value) (entries : Entries) : Entries :=
  entries.map fun entry => if entry.1 = key then (key, value) else entry

/-- Changes the table at the end of a path, or fails if something other than a table is in the way.  Lists
are entered only if `enterLists` says so. -/
def change? (enterLists : Bool) (f : Entries → Option Entries) : Key → Entries → Option Entries
  | [], entries => f entries
  | key :: path, entries =>
    match entries.lookup key with
    | none => (change? enterLists f path []).map fun made => entries ++ [(key, .table made)]
    | some (.table inner) =>
      (change? enterLists f path inner).map fun changed => entries.replace key (.table changed)
    | some (.list items) =>
      match enterLists, items.getLast? with
      | true, some (.table inner) =>
        (change? enterLists f path inner).map fun changed =>
          entries.replace key (.list (items.dropLast ++ [.table changed]))
      | _, _ => none
    | some _ => none

/-- A new entry at the end. -/
def add? (key : Text) (value : Value) (entries : Entries) : Option Entries :=
  if (entries.lookup key).isSome then none else some (entries ++ [(key, value)])

/-- Another empty table at the end of a list of tables, which is made if it is missing. -/
def addTable? (key : Text) (entries : Entries) : Option Entries :=
  match entries.lookup key with
  | none => some (entries ++ [(key, .list [.table []])])
  | some (.list items) => some (entries.replace key (.list (items ++ [.table []])))
  | some _ => none

end Entries

/-- Splits a key that is not empty into the path and the last part. -/
def Key.split (key : Key) : Key × Text :=
  (key.dropLast, key.getLast?.getD [])

end SearchQuery.Toml
