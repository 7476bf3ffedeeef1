import SalarySurvey.Number.Binary64

/-!
# TOML values

The values of the format TOML 1.0, and the rules by which the lines of a document build its
tables. A table remembers how it came to be, because that decides what may still be added to it:
one with a header of its own takes no second header and nothing through dotted keys from
elsewhere, one that is only named inside longer headers may still get its own, one made by dotted
keys grows by dotted keys alone, and one written in braces is closed.
-/
namespace SalarySurvey

/-- How a table came to be. -/
inductive Toml.Origin where
  /-- By its own header. -/
  | header
  /-- As part of the headers of other tables. -/
  | implied
  /-- By a dotted key. -/
  | dotted
  /-- In braces. -/
  | braces
  deriving DecidableEq

/-- A value. -/
inductive Toml where
  /-- A string. -/
  | string (value : String)
  /-- An integer. -/
  | integer (value : Int)
  /-- A binary64 number. -/
  | real (value : Binary64)
  /-- A truth value. -/
  | boolean (value : Bool)
  /-- A date, a time or both, as it is written. -/
  | moment (text : String)
  /-- A list in brackets. -/
  | array (items : List Toml)
  /-- A table. -/
  | table (origin : Toml.Origin) (entries : List (String × Toml))
  /-- Tables with the same header in double brackets, the last one apart. -/
  | tables (earlier : List Toml) (last : List (String × Toml))

namespace Toml

/-- The entries of a table, in order. -/
abbrev Entries := List (String × Toml)

/-- Entries with the value of a key replaced. -/
def Entries.replace (entries : Entries) (key : String) (value : Toml) : Entries :=
  entries.map fun (k, v) => if k = key then (k, value) else (k, v)

/-- Entries with one more, unless they have its key. -/
def Entries.insert? (entries : Entries) (key : String) (value : Toml) : Option Entries :=
  if (entries.lookup key).isSome then none else some (entries ++ [(key, value)])

/-- A step that changes the entries of a table of an origin. -/
abbrev Change := Origin → Entries → Option Entries

/-- Changes the table at a path below a table. Tables that are missing are made with an origin,
and only tables of some origins are passed. Behind a header in double brackets the path goes on
in the last table. -/
def changeAt (made : Origin) (passes : Origin → Bool) (change : Change) : List String → Change
  | [], origin, entries => change origin entries
  | key :: path, _, entries =>
    match entries.lookup key with
    | none => do
      let inner ← changeAt made passes change path made []
      some (entries ++ [(key, .table made inner)])
    | some (.table origin inner) =>
      if passes origin then do
        let inner ← changeAt made passes change path origin inner
        some (entries.replace key (.table origin inner))
      else none
    | some (.tables earlier last) => do
      let last ← changeAt made passes change path .header last
      some (entries.replace key (.tables earlier last))
    | some _ => none

/-- A change under a path of header names. -/
def under (path : List String) (change : Change) (entries : Entries) : Option Entries :=
  changeAt .implied (· ≠ .braces) change path .header entries

/-- Adds a value under a dotted key, given as the names before the last one and the last one. A
table on the way that exists already must come from dotted keys if the value goes into it. -/
def assign (path : List String) (key : String) (value : Toml) (entries : Entries) :
    Option Entries :=
  changeAt .dotted (fun origin => origin ≠ .header && origin ≠ .braces)
    (fun origin entries => if origin = .dotted then entries.insert? key value else none)
    path .dotted entries

/-- Opens the table of a header. -/
def openTable (key : String) (entries : Entries) : Option Entries :=
  match entries.lookup key with
  | none => some (entries ++ [(key, .table .header [])])
  | some (.table .implied inner) => some (entries.replace key (.table .header inner))
  | some _ => none

/-- Opens one more table of a header in double brackets. -/
def openNextTable (key : String) (entries : Entries) : Option Entries :=
  match entries.lookup key with
  | none => some (entries ++ [(key, .tables [] [])])
  | some (.tables earlier last) =>
    some (entries.replace key (.tables (earlier ++ [.table .header last]) []))
  | some _ => none

/-- One line of a document. Names are those of a dotted key, the last one apart. -/
inductive Statement where
  /-- The header of a table. -/
  | header (path : List String) (key : String)
  /-- A header in double brackets. -/
  | nextTable (path : List String) (key : String)
  /-- A key and its value. -/
  | entry (path : List String) (key : String) (value : Toml)

/-- A document that is being read: the header in force and the entries so far. -/
structure Draft where
  /-- The names of the header in force. -/
  header : List String := []
  /-- The entries of the document. -/
  entries : Entries := []

/-- One more line. -/
def Draft.add (draft : Draft) : Statement → Option Draft
  | .header path key =>
    (under path (fun _ => openTable key) draft.entries).map fun entries =>
      ⟨path ++ [key], entries⟩
  | .nextTable path key =>
    (under path (fun _ => openNextTable key) draft.entries).map fun entries =>
      ⟨path ++ [key], entries⟩
  | .entry path key value =>
    (under draft.header (fun _ => assign path key value) draft.entries).map fun entries =>
      { draft with entries }

/-- The entries of a document of some lines, unless two of them conflict. -/
def ofStatements? (statements : List Statement) : Option Entries :=
  (statements.foldlM Draft.add {}).map Draft.entries

end Toml

end SalarySurvey
