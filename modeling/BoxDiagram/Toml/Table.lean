/-
Module: BoxDiagram.Toml.Table
Purpose: The tables of a TOML document while it is read, and the rules on which of them may be extended.
Main exports: Origin, Item, Entries, extend, addValue?, openTable?, openElement?, Item.value
-/
import BoxDiagram.Config.Value

namespace BoxDiagram.Toml

/-- How a table came about: by a header of its own, by the header of a table inside it, or by a dotted key. -/
inductive Origin where
  | header
  | outerHeader
  | dottedKey
deriving Repr, DecidableEq

/-- What a key stands for: a value, which is closed, a table, or a list of tables, the last one first. -/
inductive Item where
  | value (value : ConfigValue)
  | table (origin : Origin) (entries : List (String × Item))
  | tables (last : List (String × Item)) (before : List (List (String × Item)))

/-- The entries of a table.  A key occurs once. -/
abbrev Entries := List (String × Item)

def find? (key : String) (entries : Entries) : Option Item :=
  (entries.find? fun e => e.1 = key).map (·.2)

def replace (key : String) (item : Item) : Entries → Entries
  | [] => [(key, item)]
  | e :: rest => if e.1 = key then (key, item) :: rest else e :: replace key item rest

/-- Change the table at the end of a path.  Tables on the way come about as needed, with `origin`, and the
change is told the origin of the table at the end.  A dotted key does not go into a table with a header. -/
def extend (origin : Origin) (change : Origin → Entries → Option Entries) (here : Origin) :
    List String → Entries → Option Entries
  | [], entries => change here entries
  | key :: path, entries =>
      match find? key entries with
      | none => do return replace key (.table origin (← extend origin change origin path [])) entries
      | some (.value _) => none
      | some (.table found inside) =>
          if origin = .dottedKey ∧ found = .header then none
          else do return replace key (.table found (← extend origin change found path inside)) entries
      | some (.tables last before) => do
          return replace key (.tables (← extend origin change .header path last) before) entries

def addNew? (key : String) (value : ConfigValue) (entries : Entries) : Option Entries :=
  match find? key entries with
  | none => some (replace key (.value value) entries)
  | some _ => none

/-- Add a value under a key that may be dotted, to a table.  The table that a dotted key leads to has come
about by a dotted key. -/
def addDotted? (path : List String) (key : String) (value : ConfigValue) (entries : Entries) :
    Option Entries :=
  if path.isEmpty then addNew? key value entries
  else
    extend .dottedKey
      (fun found inside => if found = .dottedKey then addNew? key value inside else none)
      .header path entries

/-- Add a value to the table with a header. -/
def addValue? (header path : List String) (key : String) (value : ConfigValue) (entries : Entries) :
    Option Entries :=
  extend .outerHeader (fun _ inside => addDotted? path key value inside) .header header entries

/-- Open the table of a header.  It must not have been opened before. -/
def openTable? (path : List String) (key : String) (entries : Entries) : Option Entries :=
  extend .outerHeader
    (fun _ inside =>
      match find? key inside with
      | none => some (replace key (.table .header []) inside)
      | some (.table .outerHeader found) => some (replace key (.table .header found) inside)
      | some _ => none)
    .header path entries

/-- Open a new element of the list of tables of a header. -/
def openElement? (path : List String) (key : String) (entries : Entries) : Option Entries :=
  extend .outerHeader
    (fun _ inside =>
      match find? key inside with
      | none => some (replace key (.tables [] []) inside)
      | some (.tables last before) => some (replace key (.tables [] (last :: before)) inside)
      | some _ => none)
    .header path entries

/-! ### Finished tables -/

/-- Entries in the order of their keys. -/
def sortEntries (entries : List (String × ConfigValue)) : List (String × ConfigValue) :=
  entries.mergeSort fun a b => decide (a.1 ≤ b.1)

mutual

def Item.toValue : Item → ConfigValue
  | .value v => v
  | .table _ entries => .table (sortEntries (entryValues entries))
  | .tables last before =>
      .list ((ConfigValue.table (sortEntries (entryValues last)) :: elementValues before).reverse)

def entryValues : List (String × Item) → List (String × ConfigValue)
  | [] => []
  | (key, item) :: rest => (key, item.toValue) :: entryValues rest

def elementValues : List (List (String × Item)) → List ConfigValue
  | [] => []
  | entries :: rest => .table (sortEntries (entryValues entries)) :: elementValues rest

end

end BoxDiagram.Toml
