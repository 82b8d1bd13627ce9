import DotMatrix.Toml.Lexical

/-!
TOML documents: values, the lines that give a value to a key, and the headers of tables. A document
is read as a whole, or not at all.
-/

namespace DotMatrix.Toml

/-- How deep arrays and inline tables may be nested. -/
def maxDepth : Nat := 80

mutual

/-- A value at a place where `depth` more levels are allowed. -/
def value (fuel depth : Nat) (input : Input) : Option (Value × Input) :=
  match fuel with
  | 0 => none
  | fuel + 1 =>
    match input with
    | '[' :: rest => if depth = 0 then none else arrayItems fuel (depth - 1) [] rest
    | '{' :: rest => if depth = 0 then none else inlineEntries fuel (depth - 1) [] rest
    | '"' :: _ | '\'' :: _ => (quotedString input).map fun (text, rest) => (.string text, rest)
    | _ => scalar input

/-- The rest of an array; `items` holds the values read, in reverse. -/
def arrayItems (fuel depth : Nat) (items : List Value) (input : Input) :
    Option (Value × Input) :=
  match fuel with
  | 0 => none
  | fuel + 1 => do
    match ← skipLines input with
    | ']' :: rest => some (.array items.reverse, rest)
    | input =>
      let (item, rest) ← value fuel depth input
      match ← skipLines rest with
      | ',' :: rest => arrayItems fuel depth (item :: items) rest
      | ']' :: rest => some (.array (item :: items).reverse, rest)
      | _ => none

def inlineEntries (fuel depth : Nat) (entries : Entries) (input : Input) :
    Option (Value × Input) :=
  match fuel with
  | 0 => none
  | fuel + 1 => do
    match ← skipLines input with
    | '}' :: rest => some (.table .inline entries, rest)
    | input =>
      let ((path, name), rest) ← key input
      let rest ← expect '=' rest
      let (item, rest) ← value fuel depth (skipBlanks rest)
      let entries ← entries.insert .header path name item
      match ← skipLines rest with
      | ',' :: rest => inlineEntries fuel depth entries rest
      | '}' :: rest => some (.table .inline entries, rest)
      | _ => none

end

/-- A key and its value, up to the end of the line. -/
def keyLine (input : Input) : Option ((List String × String) × Value × Input) := do
  let (name, rest) ← key input
  let rest ← expect '=' rest
  let rest := skipBlanks rest
  let (item, rest) ← value (2 * rest.length + 2) maxDepth rest
  some (name, item, ← finishLine rest)

/-- A document as far as it has been read: its entries, and the path of the table that the last
header has begun. -/
structure Draft where
  root : Entries
  path : List String

namespace Draft

def empty : Draft := ⟨[], []⟩

/-- Gives a value to a key in the table at hand. -/
def assign (d : Draft) (name : List String × String) (item : Value) : Option Draft := do
  let root ← d.root.update false (fun kind entries => entries.insert kind name.1 name.2 item) d.path
    .header
  some { d with root := root }

def begin (d : Draft) (name : List String × String) : Option Draft := do
  some ⟨← d.root.beginTable name.1 name.2, name.1 ++ [name.2]⟩

def beginNext (d : Draft) (name : List String × String) : Option Draft := do
  some ⟨← d.root.beginSeries name.1 name.2, name.1 ++ [name.2]⟩

/-- Reads the lines that are left, of which there are at most `fuel`. -/
def readLines : Nat → Draft → Input → Option Draft
  | 0, _, _ => none
  | fuel + 1, d, input => do
    match ← skipLines input with
    | [] => some d
    | '[' :: '[' :: rest =>
      let (name, rest) ← key rest
      let rest ← expect ']' (← expect ']' rest)
      readLines fuel (← d.beginNext name) (← finishLine rest)
    | '[' :: rest =>
      let (name, rest) ← key rest
      let rest ← expect ']' rest
      readLines fuel (← d.begin name) (← finishLine rest)
    | input =>
      let (name, item, rest) ← keyLine input
      readLines fuel (← d.assign name item) rest

end Draft

/-- The entries of a document. A byte order mark in front of it is skipped. -/
def parse? (text : String) : Option Entries :=
  let input :=
    match text.toList with
    | '\ufeff' :: rest => rest
    | input => input
  (Draft.readLines (input.length + 1) .empty input).map (·.root)

end DotMatrix.Toml
