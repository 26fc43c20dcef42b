import Gatehouse.Config.Datum

namespace Gatehouse.Toml

/-- How a table came to be. -/
inductive TableKind where
  /-- By a header of its own. -/
  | headed
  /-- By the header of a table inside it. -/
  | passed
  /-- By a dotted key. -/
  | dotted
deriving DecidableEq, Repr

/-- What a key of a table is bound to. -/
inductive Item where
  | value (datum : Datum)
  | table (kind : TableKind) (entries : List (String × Item))
  /-- Tables under one header of double brackets; the last is the one that may still grow. -/
  | tables (before : List Item) (last : List (String × Item))
deriving Repr

abbrev Entries := List (String × Item)

namespace Entries

/-- Binds a key anew where it stands, or behind all others. -/
def bind (key : String) (item : Item) : Entries → Entries
  | [] => [(key, item)]
  | (other, held) :: rest =>
    if key = other then (key, item) :: rest else (other, held) :: bind key item rest

/--
Changes the table at the end of a path by `change`, which is told how the table came to be. Tables
that are missing on the way are made; a dotted key does not enter a table with its own header.
-/
def atPath (byDots : Bool) (change : TableKind → Entries → Option Entries) :
    List String → TableKind → Entries → Option Entries
  | [], kind, entries => change kind entries
  | key :: path, _, entries =>
    match entries.lookup key with
    | none =>
      let kind := if byDots then TableKind.dotted else TableKind.passed
      (atPath byDots change path kind []).map fun inner => entries.bind key (.table kind inner)
    | some (.table kind inner) =>
      if byDots ∧ kind = .headed then none
      else (atPath byDots change path kind inner).map fun inner =>
        entries.bind key (.table kind inner)
    | some (.tables before last) =>
      (atPath byDots change path .headed last).map fun last =>
        entries.bind key (.tables before last)
    | some (.value _) => none

/-- Binds a new key. Only a table made by dotted keys gets entries by dotted keys. -/
def addHere (dotted : Bool) (key : String) (datum : Datum) (kind : TableKind) (entries : Entries) :
    Option Entries :=
  if (kind = .dotted) ≠ dotted then none
  else if (entries.lookup key).isSome then none
  else some (entries.bind key (.value datum))

/-- Binds what a dotted key leads to. -/
def add (path : List String) (key : String) (datum : Datum) (kind : TableKind)
    (entries : Entries) : Option Entries :=
  atPath true (addHere (!path.isEmpty) key datum) path kind entries

/-- Starts the table of a header; it must be new or have come by headers inside it only. -/
def openTable (key : String) (_ : TableKind) (entries : Entries) : Option Entries :=
  match entries.lookup key with
  | none => some (entries.bind key (.table .headed []))
  | some (.table .passed inner) => some (entries.bind key (.table .headed inner))
  | some _ => none

/-- Starts one more table of a header in double brackets. -/
def openTables (key : String) (_ : TableKind) (entries : Entries) : Option Entries :=
  match entries.lookup key with
  | none => some (entries.bind key (.tables [] []))
  | some (.tables before last) =>
    some (entries.bind key (.tables (before ++ [.table .headed last]) []))
  | some _ => none

end Entries

mutual

/-- The data of an item once the document is complete. -/
def Item.datum : Item → Datum
  | .value d => d
  | .table _ entries => .table (entriesData entries)
  | .tables before last => .list (itemsData before ++ [.table (entriesData last)])

def itemsData : List Item → List Datum
  | [] => []
  | item :: more => item.datum :: itemsData more

def entriesData : List (String × Item) → List (String × Datum)
  | [] => []
  | (key, item) :: more => (key, item.datum) :: entriesData more

end

end Gatehouse.Toml
