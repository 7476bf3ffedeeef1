import SalarySurvey.Journal
import SalarySurvey.Number.Numeral
import SalarySurvey.Text.Bytes
import SalarySurvey.Text.Pattern

/-!
# Directives of the journal

A directive says how much is shown of some events. In full it is written
`target[span{name=value}]=level`; a level alone and a target alone, which shows everything, are
directives too. A directive with the name of a span or with a value is about spans. A directive
with a name in braces is about the events that have a value of that name.

Its parts are counted in bytes from the first character that is not blank, but they are cut out of
the whole text, blanks included. So blanks at the front shift all parts to the front, and a cut may
fall inside a character.
-/
namespace SalarySurvey

/-- How much is shown: the greatest detail of a level, or zero for nothing. -/
abbrev Verbosity := Nat

namespace Verbosity

/-- Nothing. -/
def off : Verbosity := 0

/-- Errors only. -/
def errors : Verbosity := 1

/-- Everything. -/
def all : Verbosity := 5

/-- The verbosity that a text stands for: a number or a name in any case. An empty text stands for
errors. -/
def ofText? (text : List Char) : Option Verbosity :=
  let digits := if text.head? = some '+' then text.tail else text
  if Numeral.isNatural digits then
    if Numeral.value digits ≤ all then some (Numeral.value digits) else none
  else
    [("", errors), ("off", off), ("error", errors), ("warn", 2), ("info", 3), ("debug", 4),
     ("trace", all)].lookup (String.ofList (text.map Char.toLower))

end Verbosity

/-- Why a text is no directive. -/
inductive DirectiveError where
  /-- Its parts do not follow each other as they must. -/
  | malformed
  /-- Its level is none. -/
  | noLevel
  /-- Its value is neither a number nor a pattern. -/
  | badValue
  /-- A part of it ends inside a character. -/
  | cutCharacter
  deriving DecidableEq

/-- What is said about an error. -/
def DirectiveError.message : DirectiveError → String
  | malformed => "invalid filter directive"
  | noLevel =>
    "error parsing level filter: expected one of \"off\", \"error\", \"warn\", \"info\", " ++
      "\"debug\", \"trace\", or a number 0-5"
  | badValue => "invalid field filter: error building NFA"
  | cutCharacter => "a part ends inside a character"

/-- One directive of a filter. -/
structure Directive where
  /-- What the targets begin with. -/
  target : Option String := none
  /-- The name of a span. -/
  span : Option String := none
  /-- The name of a value and the value, if it counts. -/
  field : Option (String × Option String) := none
  /-- How much is shown. -/
  verbosity : Verbosity := Verbosity.all
  deriving DecidableEq

namespace Directive

/-- How far a directive has been read. Each start is a number of bytes. -/
inductive Stage where
  /-- Nothing has been read. -/
  | front
  /-- In a level or a target. -/
  | word
  /-- In the name of a span. -/
  | span (start : Nat)
  /-- In a name with a value or without. -/
  | field (start : Nat)
  /-- Behind the brace that closes a field. -/
  | afterField
  /-- Behind the bracket that closes a span. -/
  | afterSpan
  /-- In a level behind an equals sign. -/
  | level (start : Nat)
  deriving DecidableEq

/-- What has been read of a directive. -/
structure Scan where
  /-- How far it has been read. -/
  stage : Stage := .front
  /-- Its parts so far. -/
  directive : Directive := {}

/-- The part of a text between two numbers of bytes. -/
def part (text : List Char) (start stop : Nat) : Except DirectiveError (List Char) :=
  match (Text.dropBytes? start text).bind (Text.takeBytes? (stop - start)) with
  | some part => .ok part
  | none => .error .cutCharacter

/-- A name with a value or without. Of several values the first one counts. -/
def readField (text : List Char) : Except DirectiveError (String × Option String) :=
  match text.splitOn '=' with
  | name :: value :: _ =>
    if (Numeral.real? value).isSome || Text.isPattern value then
      .ok (String.ofList name, some (String.ofList value))
    else .error .badValue
  | _ => .ok (String.ofList text, none)

/-- Whether a level or a target can begin with a character. -/
def canBegin (c : Char) : Bool :=
  "-:_".toList.contains c || Text.isAlphanumeric c

/-- Reads one more character of a text, which has a number of bytes in front of it. -/
def Scan.step (text : List Char) (place : Nat) (c : Char) (scan : Scan) :
    Except DirectiveError Scan :=
  match scan.stage with
  | .front =>
    if c = '[' then .ok { scan with stage := .span (place + 1) }
    else if canBegin c then .ok { scan with stage := .word }
    else .error .malformed
  | .word =>
    if c = '=' ∨ c = '[' then do
      let target ← part text 0 place
      .ok
        { stage := if c = '=' then .level (place + 1) else .span (place + 1)
          directive := { scan.directive with target := some (String.ofList target) } }
    else .ok scan
  | .span start =>
    if c = ']' then do
      let name ← part text start place
      .ok ⟨.afterSpan, { scan.directive with span := some (String.ofList name) }⟩
    else if c = '\x7b' then do
      let name ← part text start place
      let span := if name.isEmpty then none else some (String.ofList name)
      .ok ⟨.field (place + 1), { scan.directive with span }⟩
    else .ok scan
  | .field start =>
    if c = '\x7d' then do
      let name ← part text start place
      if name.isEmpty then .error .malformed
      else .ok ⟨.afterField, { scan.directive with field := some (← readField name) }⟩
    else .ok scan
  | .afterField =>
    if c = ']' then .ok { scan with stage := .afterSpan } else .error .malformed
  | .afterSpan =>
    if c = '=' then .ok { scan with stage := .level (place + 1) } else .error .malformed
  | .level _ => .ok scan

/-- Reads the characters behind a number of bytes of a text. -/
def Scan.run (text : List Char) : Nat → List Char → Scan → Except DirectiveError Scan
  | _, [], scan => .ok scan
  | place, c :: rest, scan => do
    Scan.run text (place + c.utf8Size) rest (← scan.step text place c)

/-- The directive of a text that has been read to its end. A level that is empty behind the equals
sign shows everything. -/
def Scan.finish (text : List Char) (scan : Scan) : Except DirectiveError Directive :=
  match scan.stage with
  | .word =>
    match Verbosity.ofText? text with
    | some verbosity => .ok { verbosity }
    | none => .ok { target := some (String.ofList text) }
  | .afterSpan => .ok scan.directive
  | .level start =>
    match Text.dropBytes? start text with
    | none => .error .cutCharacter
    | some [] => .ok scan.directive
    | some level =>
      match Verbosity.ofText? level with
      | some verbosity => .ok { scan.directive with verbosity }
      | none => .error .noLevel
  | _ => .error .malformed

/-- The directive that a text stands for. -/
def ofText (text : List Char) : Except DirectiveError Directive := do
  (← Scan.run text 0 (Text.trimChars text) {}).finish text

/-- Whether a directive can decide about events. -/
def isAboutEvents (directive : Directive) : Bool :=
  directive.span.isNone && directive.field.all fun (_, value) => value.isNone

/-- Whether a directive decides about an event. -/
def decidesAbout (directive : Directive) (event : Event) : Bool :=
  directive.isAboutEvents &&
    (directive.target.all fun target => target.toList.isPrefixOf event.target.toList) &&
    directive.field.all fun (name, _) => event.fieldNames.contains name

/-- How special directives are: first by the lengths of their targets, then by the names of their
fields. -/
def compare (a b : Directive) : Ordering :=
  (Ord.compare (a.target.map String.utf8ByteSize) (b.target.map String.utf8ByteSize)).then
    (Ord.compare (a.field.map Prod.fst) (b.field.map Prod.fst))

end Directive

end SalarySurvey
