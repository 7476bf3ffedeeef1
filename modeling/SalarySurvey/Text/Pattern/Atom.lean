import SalarySurvey.Text.Blank
import SalarySurvey.Text.CodePoint

/-!
# Atoms of patterns

A pattern is a regular expression over texts. Its smallest parts are plain characters and escapes,
each of which stands for a character, for one of several characters or for a place between two
characters. What they mean hangs on the mode of the pattern, which may change from part to part.

Of the characters beyond ASCII it is known which are digits, blanks and parts of words, but neither
their general categories nor their cases. So where the characters are those of Unicode there are
no escapes for general categories, no edges of words, and no letters in either case. Where they are
those of ASCII there is nothing that would stand for all other characters.
-/
namespace SalarySurvey.Text.Pattern

/-- How the characters of a pattern are meant. -/
structure Mode where
  /-- Whether blanks and comments between the parts are skipped. -/
  spaced : Bool := false
  /-- Whether letters stand for both of their cases. -/
  caseless : Bool := false
  /-- Whether the characters are those of Unicode, not those of ASCII. -/
  unicode : Bool := true
  deriving DecidableEq

/-- Whether it is known what a character stands for: the cases of letters beyond ASCII are not. -/
def Mode.knowsCases (mode : Mode) : Bool :=
  !(mode.caseless && mode.unicode)

/-- A text without the blanks and comments at its front. A comment goes from a number sign to the
end of its line. -/
def skipSpaced (inComment : Bool) : List Char → List Char
  | [] => []
  | c :: rest =>
    if inComment then skipSpaced (c != '\n') rest
    else if c = '#' then skipSpaced true rest
    else if isBlank c then skipSpaced false rest
    else c :: rest

/-- A text without what is skipped at its front. -/
def Mode.skip (mode : Mode) (text : List Char) : List Char :=
  if mode.spaced then skipSpaced false text else text

/-- What an atom stands for. -/
inductive Atom where
  /-- One character. -/
  | char (c : Char)
  /-- Any one of several characters. -/
  | set
  /-- A place between characters. -/
  | place
  deriving DecidableEq

/-- A number of characters, with what may be skipped in front of each. -/
def spread? (mode : Mode) : Nat → List Char → Option (List Char × List Char)
  | 0, text => some ([], text)
  | count + 1, text =>
    match mode.skip text with
    | [] => none
    | c :: rest => (spread? mode count rest).map fun (others, rest) => (c :: others, rest)

/-- The character of a code point in a number of hexadecimal digits. -/
def codePoint? (mode : Mode) (count : Nat) (text : List Char) : Option (Char × List Char) := do
  let (digits, rest) ← spread? mode count text
  some (← pointOf? digits, rest)

/-- A character that begins an escape of its own, with the control character it stands for. -/
def controls : List (Char × Char) :=
  [('a', '\x07'), ('f', '\x0C'), ('t', '\t'), ('n', '\n'), ('r', '\r'), ('v', '\x0B')]

/-- What an escape stands for behind its backslash. Small letters stand for the digits, the blanks
and the characters of words, capital ones for all characters but those. -/
def escape? (mode : Mode) : List Char → Option (Atom × List Char)
  | [] => none
  | 'x' :: rest => do
    let (c, rest) ← codePoint? mode 2 rest
    if mode.unicode || c.toNat < 0x80 then some (.char c, rest) else none
  | 'u' :: rest => (codePoint? mode 4 rest).map fun (c, rest) => (.char c, rest)
  | 'U' :: rest => (codePoint? mode 8 rest).map fun (c, rest) => (.char c, rest)
  | c :: rest =>
    if c = 'A' ∨ c = 'z' then some (.place, rest)
    else if "dsw".toList.contains c then some (.set, rest)
    else if "DSW".toList.contains c then if mode.unicode then some (.set, rest) else none
    else if "bB<>".toList.contains c then if mode.unicode then none else some (.place, rest)
    else
      match controls.lookup c with
      | some control => some (.char control, rest)
      | none => if c.toNat < 0x80 && !c.isAlphanum then some (.char c, rest) else none

/-- The height of parts side by side: one more than the highest of several, and that of a part
which stands alone. -/
def heightOf : List Nat → Nat
  | [] => 0
  | [height] => height
  | heights => 1 + heights.foldl max 0

end SalarySurvey.Text.Pattern
