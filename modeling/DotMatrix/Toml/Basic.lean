/-!
Values of TOML, a format for settings, and the rules by which its tables grow.

A table can come into being in four ways: by a header, on the way to a header further down, by a
dotted key, or written inline. What may be added to it later depends on that: a header may complete
a table that so far was only on the way, a dotted key may add to what dotted keys have begun, and an
inline table is complete as it stands.
-/

namespace DotMatrix.Toml

/-- How a table came into being. -/
inductive TableKind where
  | header
  | onTheWay
  | dotted
  | inline
  deriving DecidableEq, Repr

inductive Value where
  | string (text : String)
  | integer (n : Int)
  | float (literal : String)
  | boolean (b : Bool)
  /-- A date, a time, or both. -/
  | moment (literal : String)
  | array (items : List Value)
  | table (kind : TableKind) (entries : List (String × Value))
  /-- The tables that headers in double brackets have begun, the last one first. -/
  | series (tables : List (List (String × Value)))

abbrev Entries := List (String × Value)

namespace Entries

def replace (entries : Entries) (key : String) (value : Value) : Entries :=
  entries.map fun entry => if entry.1 = key then (key, value) else entry

def append (entries : Entries) (key : String) (value : Value) : Entries :=
  entries ++ [(key, value)]

/-- Changes the table that a path leads to, where a path into a series leads into its last table.
Tables that are missing on the way are made, of a kind that depends on whether the path is a dotted
key. A path that would add to a complete table, or to something that is no table, leads nowhere. -/
def update (dotted : Bool) (change : TableKind → Entries → Option Entries) :
    List String → TableKind → Entries → Option Entries
  | [], kind, entries => change kind entries
  | key :: path, _, entries =>
    match entries.lookup key with
    | none =>
      let kind := if dotted then TableKind.dotted else .onTheWay
      (update dotted change path kind []).map fun inner => entries.append key (.table kind inner)
    | some (.table kind inner) =>
      if kind = .inline ∨ (dotted ∧ kind = .header) then none
      else
        (update dotted change path kind inner).map fun inner =>
          entries.replace key (.table kind inner)
    | some (.series (last :: earlier)) =>
      (update dotted change path .header last).map fun last =>
        entries.replace key (.series (last :: earlier))
    | some _ => none

/-- Adds a key with a value to a table, where the key may be dotted. A plain key must go into a
table that was not begun by dotted keys, a dotted one into a table that was. -/
def insert (entries : Entries) (kind : TableKind) (path : List String) (key : String)
    (value : Value) : Option Entries :=
  update true (fun kind inner =>
    if (kind == .dotted) == path.isEmpty then none
    else if (inner.lookup key).isSome then none
    else some (inner.append key value)) path kind entries

def beginTable (root : Entries) (path : List String) (key : String) : Option Entries :=
  update false (fun _ inner =>
    match inner.lookup key with
    | none => some (inner.append key (.table .header []))
    | some (.table .onTheWay entries) => some (inner.replace key (.table .header entries))
    | some _ => none) path .header root

/-- Begins the next table of the series that a header in double brackets names. -/
def beginSeries (root : Entries) (path : List String) (key : String) : Option Entries :=
  update false (fun _ inner =>
    match inner.lookup key with
    | none => some (inner.append key (.series [[]]))
    | some (.series tables) => some (inner.replace key (.series ([] :: tables)))
    | some _ => none) path .header root

end Entries

end DotMatrix.Toml
