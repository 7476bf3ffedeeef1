import SalarySurvey.Journal
import SalarySurvey.Json

/-!
# Lines of the journal

How an event is shown: as a line of text, or as a line with a JSON object. Both begin with the
time, which is given as a text.
-/
namespace SalarySurvey

/-- The form of the lines. -/
inductive LineForm where
  /-- A line of text. -/
  | text
  /-- A JSON object. -/
  | json
  deriving DecidableEq

/-- The form that a name stands for. -/
def LineForm.ofName (name : String) : LineForm :=
  if name = "json" then json else text

namespace Detail

/-- A value in a line of text. -/
def describe : Detail → String
  | count n => toString n
  | flag true => "true"
  | flag false => "false"
  | text s => s

/-- A value in a JSON object. -/
def json : Detail → Json
  | count n => .integer n
  | flag b => .boolean b
  | text s => .string s

end Detail

namespace Event

/-- A control character of terminals, made visible. -/
def visibleControl (c : Char) : List Char :=
  if c = '\x1b' ∨ c = '\x07' ∨ c = '\x08' ∨ c = '\x0c' ∨ c = '\x7f' then
    '\\' :: 'x' :: Nat.digitChar (c.toNat / 16) :: [Nat.digitChar (c.toNat % 16)]
  else if 0x80 ≤ c.toNat ∧ c.toNat ≤ 0x9F then
    '\\' :: 'u' :: '\x7b' :: Nat.toDigits 16 c.toNat ++ ['\x7d']
  else [c]

/-- The message with the control characters of terminals made visible. -/
def safeMessage (event : Event) : String :=
  String.ofList (event.message.toList.flatMap visibleControl)

/-- The name of the level in five places, at the right. -/
def levelColumn (event : Event) : String :=
  let name := event.level.name
  String.ofList (List.replicate (5 - name.length) ' ') ++ name

/-- The line of text of an event. -/
def textLine (time : String) (event : Event) : String :=
  time ++ " " ++ event.levelColumn ++ " " ++ event.target ++ ": " ++ event.safeMessage ++
    String.join (event.details.map fun (name, value) => " " ++ name ++ "=" ++ value.describe)

/-- The JSON object of an event. -/
def json (time : String) (event : Event) : Json :=
  .object
    [("timestamp", .string time), ("level", .string event.level.name),
     ("fields",
      .object (("message", .string event.message) ::
        event.details.map fun (name, value) => (name, value.json))),
     ("target", .string event.target)]

/-- The line of an event. -/
def line (form : LineForm) (time : String) (event : Event) : String :=
  match form with
  | .text => event.textLine time
  | .json => (event.json time).render

end Event

end SalarySurvey
