import SalarySurvey.Toml.Scalar
import SalarySurvey.Toml.Text

/-!
# Reading TOML

A document is a row of lines: headers in brackets, headers in double brackets, and keys with their
values. Spaces stand around keys and values, and a comment may end any line. The items of a list
may spread over several lines, with a comma after the last one or not; a table in braces stays on
one line and has no such comma. Lists and braces nest at most 79 deep.
-/
namespace SalarySurvey.Toml

/-- A reader of something at the front of a text. -/
abbrev Reader (α : Type) := List Char → Option (α × List Char)

/-- What follows a comment, or the text itself if it begins with none. -/
def skipComment : List Char → List Char
  | '#' :: rest => rest.dropWhile isTextChar
  | text => text

/-- Drops spaces, line ends and comments. The fuel is at least the length. -/
def skipBlank : Nat → List Char → List Char
  | 0, text => text
  | fuel + 1, text =>
    let text := skipComment (skipSpaces text)
    match lineEnd? text with
    | some rest => skipBlank fuel rest
    | none => text

/-- The items of a list behind its bracket or a comma, up to the closing bracket. The fuel is at
least the length. -/
def items? (item : Reader Toml) : Nat → Reader (List Toml)
  | 0, _ => none
  | fuel + 1, text =>
    match skipBlank (fuel + 1) text with
    | ']' :: rest => some ([], rest)
    | text => do
      let (first, rest) ← item text
      match skipBlank (fuel + 1) rest with
      | ',' :: rest => do
        let (others, rest) ← items? item fuel rest
        some (first :: others, rest)
      | ']' :: rest => some ([first], rest)
      | _ => none

/-- A key and its value, as a change of the table that they stand in. -/
def pair? (item : Reader Toml) : Reader ((List String × String) × Toml) := fun text => do
  let (key, rest) ← key? text
  let rest ← after? '=' rest
  let (value, rest) ← item (skipSpaces rest)
  some ((key, value), skipSpaces rest)

/-- The pairs of a table in braces behind its brace or a comma, added to the entries before them.
The fuel is at least the length. -/
def members? (item : Reader Toml) : Nat → Entries → Reader Entries
  | 0, _, _ => none
  | fuel + 1, entries, text => do
    let (((path, key), value), rest) ← pair? item text
    let entries ← assign path key value entries
    match rest with
    | ',' :: rest => members? item fuel entries rest
    | '\x7d' :: rest => some (entries, rest)
    | _ => none

/-- A table in braces behind the opening one. -/
def braces? (item : Reader Toml) : Reader Entries := fun text =>
  match skipSpaces text with
  | '\x7d' :: rest => some ([], rest)
  | text => members? item (text.length + 1) [] text

/-- A value in which lists and braces nest at most a number of times. -/
def value? : Nat → Reader Toml
  | 0, text => leaf? text
  | depth + 1, text =>
    match text with
    | '[' :: rest =>
      (items? (value? depth) (rest.length + 1) rest).map fun (items, rest) => (.array items, rest)
    | '\x7b' :: rest =>
      (braces? (value? depth) rest).map fun (entries, rest) => (.table .braces entries, rest)
    | text => leaf? text
where
  /-- A value that is no list and no table. -/
  leaf? : Reader Toml := fun text =>
    match text with
    | [] => none
    | c :: _ =>
      if c = '"' ∨ c = apostrophe then
        (string? text).map fun (value, rest) => (.string (String.ofList value), rest)
      else scalar? text

/-- What follows the end of a line: spaces, perhaps a comment, and a line end or the end of the
text. -/
def endLine? (text : List Char) : Option (List Char) :=
  match skipComment (skipSpaces text) with
  | [] => some []
  | text => lineEnd? text

/-- How deep lists and braces nest at most. -/
def maxDepth : Nat := 79

/-- A line with a header or a pair, without its end. -/
def statement? : Reader Statement := fun text =>
  match text with
  | '[' :: '[' :: rest => do
    let ((path, key), rest) ← key? rest
    let rest ← (after? ']' rest).bind (after? ']')
    some (.nextTable path key, rest)
  | '[' :: rest => do
    let ((path, key), rest) ← key? rest
    let rest ← after? ']' rest
    some (.header path key, rest)
  | text => do
    let (((path, key), value), rest) ← pair? (value? maxDepth) text
    some (.entry path key value, rest)

/-- The lines of a text. The fuel is more than its length. -/
def statements? : Nat → List Char → Option (List Statement)
  | 0, _ => none
  | fuel + 1, text =>
    match skipSpaces text, endLine? text with
    | [], _ => some []
    | _, some rest => statements? fuel rest
    | text, none => do
      let (statement, rest) ← statement? text
      let rest ← endLine? rest
      (statements? fuel rest).map (statement :: ·)

/-- The entries of a document. A byte order mark at its front is dropped. -/
def document? (text : String) : Option Entries :=
  let text :=
    match text.toList with
    | '\uFEFF' :: rest => rest
    | text => text
  (statements? (text.length + 1) text).bind ofStatements?

end SalarySurvey.Toml
