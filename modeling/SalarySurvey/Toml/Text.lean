import SalarySurvey.Text.CodePoint

/-!
# Strings and keys of TOML

The four forms of strings, and keys. A string stands in quotes, where escapes are undone, or in
apostrophes, where everything stands for itself. Either mark written three times opens a string
of several lines: a line end right behind it is dropped, line ends become line feeds, and up to
two marks may stand right before the three closing ones. In a string of several lines in quotes a
backslash at the end of a line drops the line end and all blanks and line ends behind it. Control
characters other than the tab are refused everywhere.
-/
namespace SalarySurvey.Toml

/-- The space and the tab. -/
def isSpace (c : Char) : Bool := c == ' ' || c == '\t'

/-- Whether a character can stand in a comment or a string. -/
def isTextChar (c : Char) : Bool :=
  c == '\t' || (0x20 ≤ c.toNat && c.toNat != 0x7F)

/-- The apostrophe. -/
def apostrophe : Char := '\x27'

/-- A text without the spaces and tabs at its front. -/
def skipSpaces (text : List Char) : List Char :=
  text.dropWhile isSpace

/-- What follows a line end. -/
def lineEnd? : List Char → Option (List Char)
  | '\n' :: rest => some rest
  | '\r' :: '\n' :: rest => some rest
  | _ => none

/-- The character of a code point in a number of digits. -/
def point? (width : Nat) (text : List Char) : Option (Char × List Char) :=
  if text.length < width then none
  else (Text.pointOf? (text.take width)).map fun c => (c, text.drop width)

/-- The character of an escape, given what follows the backslash. -/
def escape? : List Char → Option (Char × List Char)
  | 'b' :: rest => some ('\x08', rest)
  | 't' :: rest => some ('\t', rest)
  | 'n' :: rest => some ('\n', rest)
  | 'f' :: rest => some ('\x0c', rest)
  | 'r' :: rest => some ('\r', rest)
  | '"' :: rest => some ('"', rest)
  | '\\' :: rest => some ('\\', rest)
  | 'u' :: rest => point? 4 rest
  | 'U' :: rest => point? 8 rest
  | _ => none

/-- The rest of a string in quotes, and what follows it. The fuel is at least the length. -/
def quotedRest? : Nat → List Char → Option (List Char × List Char)
  | 0, _ => none
  | _ + 1, [] => none
  | fuel + 1, c :: rest =>
    if c = '"' then some ([], rest)
    else if c = '\\' then do
      let (c, rest) ← escape? rest
      let (text, rest) ← quotedRest? fuel rest
      some (c :: text, rest)
    else if isTextChar c then do
      let (text, rest) ← quotedRest? fuel rest
      some (c :: text, rest)
    else none

/-- The rest of a string in apostrophes, and what follows it. -/
def literalRest? : List Char → Option (List Char × List Char)
  | [] => none
  | c :: rest =>
    if c = apostrophe then some ([], rest)
    else if isTextChar c then (literalRest? rest).map fun (text, rest) => (c :: text, rest)
    else none

/-- How many of some marks at a front close a string of several lines: three, and up to two of
the string itself before them, which are returned with what follows. -/
def closing? (mark : Char) : List Char → Option (List Char × List Char)
  | a :: b :: c :: rest =>
    if a = mark ∧ b = mark ∧ c = mark then
      let own := (rest.take 2).takeWhile (· == mark)
      some (own, rest.drop own.length)
    else none
  | _ => none

/-- Drops spaces, tabs and line ends. -/
def skipLines : List Char → List Char
  | '\r' :: '\n' :: rest => skipLines rest
  | c :: rest => if c = '\n' ∨ isSpace c then skipLines rest else c :: rest
  | [] => []

/-- The rest of a string of several lines, and what follows it. The fuel is at least the
length. -/
def linesRest? (mark : Char) (escapes : Bool) :
    Nat → List Char → Option (List Char × List Char)
  | 0, _ => none
  | _ + 1, [] => none
  | fuel + 1, c :: rest =>
    match closing? mark (c :: rest), lineEnd? (c :: rest) with
    | some found, _ => some found
    | none, some rest =>
      (linesRest? mark escapes fuel rest).map fun (text, rest) => ('\n' :: text, rest)
    | none, none =>
      if escapes && c == '\\' then
        match lineEnd? (skipSpaces rest) with
        | some rest => linesRest? mark escapes fuel (skipLines rest)
        | none => do
          let (c, rest) ← escape? rest
          let (text, rest) ← linesRest? mark escapes fuel rest
          some (c :: text, rest)
      else if isTextChar c then do
        let (text, rest) ← linesRest? mark escapes fuel rest
        some (c :: text, rest)
      else none

/-- A string of several lines behind its opening marks. -/
def lines? (mark : Char) (escapes : Bool) (text : List Char) : Option (List Char × List Char) :=
  linesRest? mark escapes (text.length + 1) ((lineEnd? text).getD text)

/-- A string in quotes behind the opening one. -/
def quoted? (text : List Char) : Option (List Char × List Char) :=
  quotedRest? (text.length + 1) text

/-- A string of one line. -/
def line? : List Char → Option (List Char × List Char)
  | [] => none
  | c :: rest =>
    if c = '"' then quoted? rest
    else if c = apostrophe then literalRest? rest
    else none

/-- A string of any form. -/
def string? (text : List Char) : Option (List Char × List Char) :=
  match text with
  | a :: b :: c :: rest =>
    if a = '"' ∧ b = '"' ∧ c = '"' then lines? '"' true rest
    else if a = apostrophe ∧ b = apostrophe ∧ c = apostrophe then lines? apostrophe false rest
    else line? text
  | _ => line? text

/-- Whether a character can stand in a key without quotes. -/
def isBareChar (c : Char) : Bool :=
  c.isAlphanum || c == '_' || c == '-'

/-- One name of a key. -/
def name? (text : List Char) : Option (String × List Char) :=
  match text with
  | [] => none
  | c :: _ =>
    if c = '"' ∨ c = apostrophe then (line? text).map fun (name, rest) => (String.ofList name, rest)
    else
      let name := text.takeWhile isBareChar
      if name.isEmpty then none else some (String.ofList name, text.dropWhile isBareChar)

/-- The names of a dotted key with spaces around them, and what follows. The fuel is at least
the length. -/
def names? : Nat → List Char → Option (List String × List Char)
  | 0, _ => none
  | fuel + 1, text => do
    let (name, rest) ← name? (skipSpaces text)
    match skipSpaces rest with
    | '.' :: rest => do
      let (names, rest) ← names? fuel rest
      some (name :: names, rest)
    | rest => some ([name], rest)

/-- A dotted key: the names before the last one, and the last one. It has at most 79 names. -/
def key? (text : List Char) : Option ((List String × String) × List Char) := do
  let (names, rest) ← names? (text.length + 1) text
  let last ← names.getLast?
  if 80 ≤ names.length then none else some ((names.dropLast, last), rest)

end SalarySurvey.Toml
