import SalarySurvey.Text.Alphanumeric
import SalarySurvey.Text.Pattern.Class

/-!
# Patterns

Which texts are patterns: alternatives of rows of parts, where a part may be repeated by a star, a
plus or a question mark, and may be a group in parentheses with a name or with flags. Flags change
the mode up to the end of their group. Numbers of repetitions in braces do not occur, so an opening
brace stands in classes and escapes only. The parts of a pattern nest at most 250 deep.
-/
namespace SalarySurvey.Text

namespace Pattern

/-- A part of a row. -/
structure Part where
  /-- How deep its own parts are nested. -/
  height : Nat
  /-- Whether it may be repeated. Flags may not. -/
  isRepeatable : Bool := true

/-- A group that is not closed yet. -/
structure OpenGroup where
  /-- The mode in force. -/
  mode : Mode
  /-- The heights of the alternatives before the last one. -/
  alternatives : List Nat := []
  /-- The parts of the last alternative, the last one first. -/
  parts : List Part := []

namespace OpenGroup

/-- The group with one more part. -/
def add (group : OpenGroup) (part : Part) : OpenGroup :=
  { group with parts := part :: group.parts }

/-- The height of the last alternative. -/
def rowHeight (group : OpenGroup) : Nat :=
  heightOf (group.parts.map Part.height)

/-- How deep the parts of the group are nested. -/
def height (group : OpenGroup) : Nat :=
  heightOf (group.rowHeight :: group.alternatives)

end OpenGroup

/-- What has been read of a pattern. -/
structure Reading where
  /-- The innermost group. -/
  inner : OpenGroup := { mode := {} }
  /-- The groups around it. -/
  outer : List OpenGroup := []
  /-- The names of the groups so far. -/
  names : List (List Char) := []

/-- Whether a character can stand in the name of a group. -/
def isNameChar (c : Char) : Bool :=
  isAlphanumeric c || "_.[]".toList.contains c

/-- The name of a group behind its angle bracket, up to the closing one. -/
def groupName? (text : List Char) : Option (List Char × List Char) :=
  match text.takeWhile (· != '>'), text.dropWhile (· != '>') with
  | c :: name, _ :: rest =>
    if (c = '_' || isAlphabetic c) && name.all isNameChar then some (c :: name, rest) else none
  | _, _ => none

/-- Whether a text is a row of flags: no letter twice, and letters behind a minus. -/
def isFlags (flags : List Char) : Bool :=
  flags.all "imsUuRx-".toList.contains && flags.eraseDups == flags && flags.getLast? != some '-'

/-- What some flags make of the setting of one of them. -/
def flagged (flags : List Char) (flag : Char) (setting : Bool) : Bool :=
  if flags.contains flag then (flags.takeWhile (· != '-')).contains flag else setting

/-- A mode with some flags. -/
def Mode.withFlags (mode : Mode) (flags : List Char) : Mode :=
  { spaced := flagged flags 'x' mode.spaced
    caseless := flagged flags 'i' mode.caseless
    unicode := flagged flags 'u' mode.unicode }

namespace Reading

/-- One more part of the innermost group. -/
def add (reading : Reading) (height : Nat) : Reading :=
  { reading with inner := reading.inner.add { height } }

/-- The beginning of a group inside the innermost one. -/
def openGroup (reading : Reading) (mode : Mode) : Reading :=
  { reading with inner := { mode }, outer := reading.inner :: reading.outer }

/-- The beginning of a group with a name, which no other group has. -/
def openNamed? (reading : Reading) (text : List Char) : Option (Reading × List Char) := do
  let (name, rest) ← groupName? text
  if reading.names.contains name then none
  else
    some ({ reading.openGroup reading.inner.mode with names := name :: reading.names }, rest)

/-- Flags behind a question mark: for a group if a colon ends them, for the rest of the innermost
group if a closing parenthesis does. -/
def openFlags? (reading : Reading) (text : List Char) : Option (Reading × List Char) :=
  let isEnd (c : Char) : Bool := c == ':' || c == ')'
  let flags := text.takeWhile fun c => !isEnd c
  let mode := reading.inner.mode.withFlags flags
  if !isFlags flags then none
  else
    match text.dropWhile fun c => !isEnd c with
    | ':' :: rest => some (reading.openGroup mode, rest)
    | ')' :: rest =>
      if flags.isEmpty then none
      else
        let inner := reading.inner.add { height := 0, isRepeatable := false }
        some ({ reading with inner := { inner with mode } }, rest)
    | _ => none

/-- The beginning of a group or flags, behind an opening parenthesis. -/
def open? (reading : Reading) (text : List Char) : Option (Reading × List Char) :=
  match reading.inner.mode.skip text with
  | '?' :: 'P' :: '<' :: rest => reading.openNamed? rest
  | '?' :: '<' :: rest => reading.openNamed? rest
  | '?' :: rest => reading.openFlags? rest
  | rest => some (reading.openGroup reading.inner.mode, rest)

/-- The end of the innermost group. -/
def close? (reading : Reading) : Option Reading :=
  match reading.outer with
  | [] => none
  | next :: outer =>
    some { reading with
      inner := next.add { height := 1 + reading.inner.height }
      outer }

/-- The beginning of another alternative. -/
def branch (reading : Reading) : Reading :=
  let inner := reading.inner
  { reading with
    inner := { inner with alternatives := inner.rowHeight :: inner.alternatives, parts := [] } }

/-- The repetition of the last part. -/
def repeat? (reading : Reading) : Option Reading :=
  match reading.inner.parts with
  | ⟨height, true⟩ :: parts =>
    some { reading with
      inner := { reading.inner with parts := { height := 1 + height } :: parts } }
  | _ => none

/-- One more part or sign. -/
def step? (reading : Reading) (c : Char) (rest : List Char) : Option (Reading × List Char) :=
  let mode := reading.inner.mode
  match c with
  | '(' => reading.open? rest
  | ')' => reading.close?.map fun reading => (reading, rest)
  | '|' => some (reading.branch, rest)
  | '[' => (class? mode rest).map fun (height, rest) => (reading.add height, rest)
  | '*' | '+' | '?' =>
    reading.repeat?.map fun reading => (reading, if rest.head? = some '?' then rest.tail else rest)
  | '\x7b' => none
  | '.' => if mode.unicode then some (reading.add 0, rest) else none
  | '^' | '$' => some (reading.add 0, rest)
  | '\\' => do
    let (atom, rest) ← escape? mode rest
    match atom with
    | .char _ => if mode.knowsCases then some (reading.add 0, rest) else none
    | _ => some (reading.add 0, rest)
  | _ => if mode.knowsCases then some (reading.add 0, rest) else none

/-- What has been read at the end of a text. The fuel is more than the length. -/
def run? : Nat → Reading → List Char → Option Reading
  | 0, _, _ => none
  | fuel + 1, reading, text =>
    match reading.inner.mode.skip text with
    | [] => some reading
    | c :: rest => do
      let (reading, rest) ← reading.step? c rest
      run? fuel reading rest

end Reading

/-- How deep the parts of a pattern may be nested. -/
def heightLimit : Nat := 250

end Pattern

/-- Whether a text is a pattern. -/
def isPattern (text : List Char) : Bool :=
  match Pattern.Reading.run? (text.length + 1) {} text with
  | none => false
  | some reading =>
    reading.outer.isEmpty && reading.inner.height ≤ Pattern.heightLimit

end SalarySurvey.Text
