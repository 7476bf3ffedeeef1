import SalarySurvey.Text.Pattern.Atom

/-!
# Classes of patterns

A class stands in brackets and means any one of its members: characters, ranges of characters,
escapes for several characters, names of ASCII classes between colons in brackets, and classes.
A caret behind the bracket negates it. Doubled signs between members stand for operations on the
classes on both sides. A hyphen is a member at the front and before the closing bracket, which is
itself a member in the first place.
-/
namespace SalarySurvey.Text.Pattern

/-- A class that is not closed yet. -/
structure OpenClass where
  /-- Whether no member but hyphens has been read. -/
  isFresh : Bool := true
  /-- The height of the left side of an operation. -/
  left : Option Nat := none
  /-- The heights of the members, on the right side of an operation if there is one. -/
  members : List Nat := []

namespace OpenClass

/-- The class with one more member. -/
def add (opened : OpenClass) (height : Nat) : OpenClass :=
  { opened with members := height :: opened.members }

/-- How deep the parts of the class are nested. -/
def height (opened : OpenClass) : Nat :=
  match opened.left with
  | none => heightOf opened.members
  | some left => 1 + max left (heightOf opened.members)

/-- The class as the left side of an operation. -/
def operate (opened : OpenClass) : OpenClass :=
  { isFresh := false, left := some opened.height }

end OpenClass

/-- The names of the ASCII classes. -/
def asciiClasses : List String :=
  ["alnum", "alpha", "ascii", "blank", "cntrl", "digit", "graph", "lower", "print", "punct",
   "space", "upper", "word", "xdigit"]

/-- The name of an ASCII class between colons behind its bracket: whether it is negated, and what
follows its closing bracket. -/
def asciiClass? : List Char → Option (Bool × List Char)
  | ':' :: text =>
    let (negated, text) :=
      match text with
      | '^' :: rest => (true, rest)
      | text => (false, text)
    match text.dropWhile (· != ':') with
    | ':' :: ']' :: rest =>
      if asciiClasses.contains (String.ofList (text.takeWhile (· != ':'))) then
        some (negated, rest)
      else none
    | _ => none
  | _ => none

/-- A character of a class as the mode allows it. -/
def classChar? (mode : Mode) (c : Char) (rest : List Char) : Option (Atom × List Char) :=
  if mode.unicode || c.toNat < 0x80 then some (.char c, rest) else none

/-- A member of a class that is a character or an escape. -/
def classAtom? (mode : Mode) : List Char → Option (Atom × List Char)
  | [] => none
  | '\\' :: rest =>
    match escape? mode rest with
    | some (.char c, rest) => classChar? mode c rest
    | some (.set, rest) => some (.set, rest)
    | _ => none
  | c :: rest => classChar? mode c rest

/-- What follows a character, an escape or a range of a class. -/
def afterMember? (mode : Mode) (text : List Char) : Option (List Char) := do
  let (first, rest) ← classAtom? mode text
  match mode.skip rest with
  | '-' :: behind =>
    match mode.skip behind with
    | ']' :: _ | '-' :: _ => some ('-' :: behind)
    | behind =>
      let (last, rest) ← classAtom? mode behind
      match first, last with
      | .char low, .char high => if low ≤ high then some rest else none
      | _, _ => none
  | rest => some rest

/-- What follows the caret of a class, if it has one and may have it. -/
def afterCaret? (mode : Mode) (text : List Char) : Option (List Char) :=
  match mode.skip text with
  | '^' :: rest => if mode.unicode then some rest else none
  | rest => some rest

/-- The height of a class, read from within it, with the classes around it. The fuel is at least
the length. -/
def classHeight? (mode : Mode) :
    Nat → OpenClass → List OpenClass → List Char → Option (Nat × List Char)
  | 0, _, _, _ => none
  | fuel + 1, inner, outer, text =>
    let isFresh := inner.isFresh
    let old := { inner with isFresh := false }
    match mode.skip text with
    | [] => none
    | '-' :: rest =>
      if isFresh then classHeight? mode fuel (inner.add 0) outer rest
      else
        match rest with
        | '-' :: rest => classHeight? mode fuel inner.operate outer rest
        | rest => do classHeight? mode fuel (old.add 0) outer (← afterMember? mode ('-' :: rest))
    | ']' :: rest =>
      if isFresh && inner.members.isEmpty then classHeight? mode fuel (old.add 0) outer rest
      else
        match outer with
        | [] => some (1 + inner.height, rest)
        | next :: outer => classHeight? mode fuel (next.add (1 + inner.height)) outer rest
    | '[' :: rest =>
      match asciiClass? rest with
      | some (negated, rest) =>
        if negated && !mode.unicode then none else classHeight? mode fuel (old.add 0) outer rest
      | none => do classHeight? mode fuel {} (old :: outer) (← afterCaret? mode rest)
    | '&' :: '&' :: rest => classHeight? mode fuel inner.operate outer rest
    | '~' :: '~' :: rest => classHeight? mode fuel inner.operate outer rest
    | text => do classHeight? mode fuel (old.add 0) outer (← afterMember? mode text)

/-- The height of a class behind its opening bracket. -/
def class? (mode : Mode) (text : List Char) : Option (Nat × List Char) :=
  if mode.knowsCases then do
    let text ← afterCaret? mode text
    classHeight? mode (text.length + 1) {} [] text
  else none

end SalarySurvey.Text.Pattern
