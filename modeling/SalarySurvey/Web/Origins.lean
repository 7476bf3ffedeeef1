import SalarySurvey.Journal
import SalarySurvey.Web.Exchange

/-!
# Allowed origins

Which web sites may read the answers of the service. Without configured origins any site may.
With configured ones the origin of a request must be one of them to the letter; origins that
cannot be the value of a header are left out with a warning, and when none is left no site may.
The star is no origin, and a list with one is rejected as a whole.
-/
namespace SalarySurvey.Web

/-- Which origins are allowed. -/
inductive Origins where
  /-- Every origin. -/
  | any
  /-- The origins of a list. -/
  | listed (origins : List String)
  deriving DecidableEq

namespace Origins

/-- The origins that a configuration allows, unless it lists the star. -/
def ofSettings? (origins : List String) : Option Origins :=
  if origins.isEmpty then some any
  else if origins.contains "*" then none
  else some (listed (origins.filter isHeaderValue))

/-- The warnings about the origins that are left out. -/
def warnings (origins : List String) : Journal :=
  (origins.filter fun origin => !isHeaderValue origin).map fun origin =>
    { level := .warn
      target := "compensation_api::api"
      message := "Ignoring invalid CORS origin: " ++ origin }

/-- The header that admits the origin of a request. -/
def allowOrigin (allowed : Origins) (request : Request) : List Header :=
  match allowed with
  | any => [("access-control-allow-origin", "*")]
  | listed origins =>
    match request.header? "origin" with
    | none => []
    | some sent =>
      match origins.find? fun origin => Text.Utf8.encode origin.toList = sent with
      | none => []
      | some origin => [("access-control-allow-origin", origin)]

/-- The headers that answer the question whether a request would be admitted. -/
def preflight : Origins → List Header
  | any => [("access-control-allow-methods", "*"), ("access-control-allow-headers", "*")]
  | listed _ => [("access-control-allow-methods", "GET")]

/-- The headers that open a response to the scripts of a site. -/
def expose : Origins → List Header
  | any => [("access-control-expose-headers", "*")]
  | listed _ => []

end Origins

end SalarySurvey.Web
