import SalarySurvey.Query.Answer
import SalarySurvey.Web.Form
import SalarySurvey.Web.Origins

/-!
# The service

The service answers requests about one survey. It has four pages: the rows that a query selects,
the definitions of the columns, and two about its health. A page is read with `GET` or `HEAD`,
which differ in the body alone; other methods are refused, and other paths are not found. Every
`OPTIONS` request is a preflight and is answered on any path. All responses carry the headers for
the origin of the request.
-/
namespace SalarySurvey.Web

/-- The version of the program. -/
def version : String := "0.1.0"

/-- A running service. -/
structure Service where
  /-- The survey. -/
  survey : Survey
  /-- The origins that may read the answers. -/
  origins : Origins

/-- A page of the service. -/
inductive Page where
  /-- The rows that a query selects. -/
  | rows
  /-- The definitions of the columns. -/
  | columns
  /-- Whether the service is alive. -/
  | live
  /-- How the service is. -/
  | health
  deriving DecidableEq

/-- The page at a path. -/
def Page.ofPath? (path : String) : Option Page :=
  [("/compensation_data", rows), ("/column_definitions", columns), ("/health/live", live),
   ("/health", health)].lookup path

/-- A response with a JSON body. -/
def jsonResponse (status : Nat) (body : Json) : Response :=
  { status, headers := [("content-type", "application/json")], body := body.render }

/-- A JSON value as the only member of an object. -/
def envelope (content : Json) : Json := .object [("message", content)]

/-- The events of an answered query. -/
def answeredEvents (parameters : List Query.Parameter) (plan : Query.Plan) (survey : Survey)
    (answer : Query.Answer) : Journal :=
  [{ level := .debug
     target := "compensation_api::query::engine"
     message := "Query executed"
     details :=
       [("conditions", .count plan.conditions.length), ("sorted", .flag plan.sort.isSome),
        ("columns", .count answer.columns.length), ("rows", .count answer.rows.length),
        ("total_rows", .count survey.rows.length)] },
   { level := .debug
     target := "compensation_api::api::routes::compensation"
     message := "Compensation query served"
     details := [("params", .count parameters.length), ("rows", .count answer.rows.length)] }]

/-- The event of a refused query. -/
def refusedEvent (refusal : Query.Refusal) : Event :=
  { level := .warn
    target := "compensation_api::api::error"
    message := "Rejected query"
    details := [("error_code", .text "QUERY_ERROR"), ("error_message", .text refusal.message)] }

namespace Service

/-- The rows that a query selects, or why it is refused. -/
def rowsPage (service : Service) (query : String) : Response × Journal :=
  let parameters := Form.decode query
  match Query.Plan.ofParameters parameters with
  | .ok plan =>
    let answer := plan.answer service.survey
    (jsonResponse 200 (envelope answer.json),
      answeredEvents parameters plan service.survey answer)
  | .error refusal =>
    (jsonResponse 400 (envelope (.string refusal.message)), [refusedEvent refusal])

/-- The canonical name of each column with its header. -/
def columnsPage (service : Service) : Response :=
  jsonResponse 200 <| envelope <| .array <|
    service.survey.columnDefinitions.map fun (name, header) =>
      .array [.string name, .string header]

/-- How the service is. -/
def healthPage (service : Service) (uptime : Nat) : Response :=
  jsonResponse 200 <| .object
    [("status", .string "healthy"), ("rows", .integer service.survey.rows.length),
     ("uptime_seconds", .integer uptime), ("version", .string version)]

/-- A page, with the seconds that the service has run. -/
def page (service : Service) (uptime : Nat) (query : String) : Page → Response × Journal
  | .rows => service.rowsPage query
  | .columns => (service.columnsPage, [])
  | .live => ({ status := 200 }, [])
  | .health => (service.healthPage uptime, [])

/-- The methods that pages are read with. -/
def allowHeader : Header := ("allow", "GET,HEAD")

/-- The response to a request that is no preflight, without the headers for its origin. -/
def read (service : Service) (uptime : Nat) (request : Request) : Response × Journal :=
  match Page.ofPath? request.target.path with
  | none => ({ status := 404 }, [])
  | some found =>
    if request.method = "GET" ∨ request.method = "HEAD" then
      let (response, events) := service.page uptime (request.target.query.getD "") found
      (if request.method = "HEAD" then { response with body := "" } else response, events)
    else ({ status := 405, headers := [allowHeader] }, [])

/-- The response to a preflight, without the header that admits its origin. -/
def preflight (service : Service) (request : Request) : Response :=
  { status := 200
    headers :=
      (if (Page.ofPath? request.target.path).isSome then [allowHeader] else []) ++
        service.origins.preflight }

/-- The response to a request, and the events of the work on it. -/
def respond (service : Service) (uptime : Nat) (request : Request) : Response × Journal :=
  let admitted := service.origins.allowOrigin request
  if request.method = "OPTIONS" then
    let response := service.preflight request
    ({ response with headers := response.headers ++ admitted }, [])
  else
    let (response, events) := service.read uptime request
    ({ response with headers := response.headers ++ admitted ++ service.origins.expose }, events)

end Service

end SalarySurvey.Web
