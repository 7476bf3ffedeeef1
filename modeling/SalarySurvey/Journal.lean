/-!
# The journal

What the program reports about its work: events with a level, the part of the program they come
from, and named values. The first value of an event is its message.
-/
namespace SalarySurvey

/-- How important an event is. -/
inductive Level where
  /-- Something failed. -/
  | error
  /-- Something is wrong but work goes on. -/
  | warn
  /-- A step of the program. -/
  | info
  /-- A detail of the work on a request. -/
  | debug
  /-- The finest detail. -/
  | trace
  deriving DecidableEq

/-- The name of a level. -/
def Level.name : Level → String
  | error => "ERROR"
  | warn => "WARN"
  | info => "INFO"
  | debug => "DEBUG"
  | trace => "TRACE"

/-- The place of a level: the more detailed, the greater. -/
def Level.detail : Level → Nat
  | error => 1
  | warn => 2
  | info => 3
  | debug => 4
  | trace => 5

/-- A value in an event. -/
inductive Detail where
  /-- A number. -/
  | count (n : Nat)
  /-- A truth value. -/
  | flag (b : Bool)
  /-- A text. -/
  | text (s : String)
  deriving DecidableEq

/-- An event. -/
structure Event where
  /-- Its level. -/
  level : Level
  /-- The part of the program. -/
  target : String
  /-- What happened. -/
  message : String
  /-- The named values. -/
  details : List (String × Detail) := []
  deriving DecidableEq

/-- The names of the values of an event, its message included. -/
def Event.fieldNames (event : Event) : List String :=
  "message" :: event.details.map Prod.fst

/-- The events in the order in which they happened. -/
abbrev Journal := List Event

end SalarySurvey
