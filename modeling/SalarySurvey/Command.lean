import SalarySurvey.Command.Arguments
import SalarySurvey.Journal.Filter
import SalarySurvey.Journal.Line
import SalarySurvey.Settings.Reader
import SalarySurvey.Survey.Load
import SalarySurvey.Web.Service

/-!
# The command

A run of the program up to the point where it serves: it reads its arguments, collects its
settings, loads the survey and listens. What surrounds it (files, environment and network) is
given, so a run is a function of its surroundings.

A flag of the command line wins over the environment, the environment over the file of settings,
and that over the defaults.
-/
namespace SalarySurvey.Command

/-- What surrounds a run, in which looking takes place in a monad. -/
structure Surroundings (m : Type → Type) where
  /-- The folder of the user's configuration. -/
  userFolder : Option String
  /-- The path of the survey in the environment. -/
  datasetPath : Option String
  /-- The filter of the journal in the environment. -/
  filter : Option String
  /-- What a path leads to. -/
  openFile : String → m (Except FileError FileEntry)
  /-- Listening on an address, with the reason why it fails. -/
  listen : String → m (Except String Unit)

/-- Why a run does not get to serve. -/
inductive StartError where
  /-- The file of settings that was asked for cannot be used. -/
  | settings (path : String) (error : SettingsError)
  /-- The survey cannot be loaded. -/
  | survey (path : String) (error : LoadError)
  /-- The address cannot be listened on. -/
  | listen (reason : String)
  deriving DecidableEq

namespace StartError

/-- What the run was doing, and the causes of the error from the nearest on. -/
def chain : StartError → List String
  | settings path error => ["loading config from " ++ path, error.message]
  | survey path error => ("loading dataset " ++ path) :: error.chain
  | listen reason => ["IO error: " ++ reason, reason]

/-- A text with some spaces in front of every line but the first. -/
def indent (width : Nat) (text : String) : String :=
  ("\n" ++ String.ofList (List.replicate width ' ')).intercalate (Text.pieces '\n' text)

/-- A cause among several, with its number in five places. -/
def numbered (number : Nat) (cause : String) : String :=
  let digits := toString number
  String.ofList (List.replicate (5 - digits.length) ' ') ++ digits ++ ": " ++ indent 7 cause

/-- The lines about the causes of an error. -/
def causeLines : List String → List String
  | [] => []
  | [cause] => ["", "Caused by:", "    " ++ indent 4 cause]
  | causes => "" :: "Caused by:" :: causes.zipIdx.map fun (cause, number) => numbered number cause

/-- What is printed about an error. -/
def report (error : StartError) : String :=
  match error.chain with
  | [] => ""
  | context :: causes => "\n".intercalate (("Error: " ++ context) :: causeLines causes) ++ "\n"

end StartError

/-- How the journal is shown. -/
structure Display where
  /-- Which events are shown. -/
  filter : Filter := Filter.nothing
  /-- The form of the lines. -/
  form : LineForm := .text
  /-- What is said beforehand about directives that the filter leaves out. -/
  remarks : List String := []

/-- The lines of a journal, given the time. -/
def Display.lines (display : Display) (time : String) (journal : Journal) : List String :=
  (display.filter.apply journal).map (Event.line display.form time)

/-- How a run goes on after its start. -/
inductive Outcome where
  /-- It prints a text and ends with success. -/
  | printed (text : String)
  /-- It ends because its arguments are at fault. -/
  | misused
  /-- It ends with an error, after some events. -/
  | failed (error : StartError) (display : Display) (journal : Journal)
  /-- It breaks off, after some events, because the star is among the allowed origins or because a
  directive of the filter would be cut inside a character. -/
  | brokeOff (display : Display) (journal : Journal)
  /-- It serves, after some events. -/
  | serving (service : Web.Service) (display : Display) (journal : Journal)

/-- The exit code of a run that ends before it serves. -/
def Outcome.exitCode? : Outcome → Option Nat
  | printed _ => some 0
  | misused => some 2
  | failed .. => some 1
  | brokeOff .. => some 101
  | serving .. => none

/-- An event of the command itself. -/
def commandEvent (message : String) : Event :=
  { level := .info, target := "compensation_api", message }

/-- An event of the server. -/
def serverEvent (message : String) : Event :=
  { level := .info, target := "compensation_api::api", message }

/-- An event of the connections of the server. -/
def connectionEvent (message : String) : Event :=
  { level := .trace, target := "axum::serve", message }

/-- The event of a loaded survey. -/
def loadedEvent (path : String) (survey : Survey) : Event :=
  { level := .info
    target := "compensation_api::dataset::loader"
    message := "Dataset loaded"
    details := [("rows", .count survey.rows.length), ("path", .text path)] }

/-- The events from the signal to stop on. -/
def stopEvents : Journal :=
  [serverEvent "Shutdown signal received, starting graceful shutdown",
   connectionEvent "received graceful shutdown signal. Telling tasks to shutdown",
   connectionEvent "signal received, not accepting new connections",
   connectionEvent "waiting for 0 task(s) to finish",
   serverEvent "Compensation API shut down gracefully",
   commandEvent "Compensation API stopped"]

/-- Settings with the flags of the command line. -/
def withFlags (settings : Settings) (arguments : Arguments) : Settings :=
  { settings with
    server :=
      { settings.server with
        host := arguments.host.getD settings.server.host
        port := arguments.port.getD settings.server.port }
    dataset := { path := arguments.dataset.getD settings.dataset.path } }

section Run

variable {m : Type → Type} [Monad m]

/-- The settings of files and environment. A file that was asked for must be usable. -/
def baseSettings (surroundings : Surroundings m) (config : Option String) :
    m (Except StartError Settings) := do
  match config with
  | some path =>
    match Settings.ofFile path (← surroundings.openFile path) with
    | .ok settings => return .ok (settings.withEnvironment surroundings.datasetPath)
    | .error error => return .error (.settings path error)
  | none =>
    let candidates ← (Settings.candidatePaths surroundings.userFolder).mapM fun path => do
      return (path, ← surroundings.openFile path)
    return .ok ((Settings.ofCandidates candidates).withEnvironment surroundings.datasetPath)

/-- A run with all its settings whose journal is shown. -/
def startShown (surroundings : Surroundings m) (settings : Settings) (display : Display) :
    m Outcome := do
  let path := settings.dataset.path
  let started :=
    [commandEvent ("Starting Compensation API v" ++ Web.version),
     commandEvent ("Dataset: " ++ Text.quoted path)]
  match Survey.ofFile path (← surroundings.openFile path) with
  | .error error => return .failed (.survey path error) display started
  | .ok survey =>
    let loaded :=
      started ++ loadedEvent path survey :: Web.Origins.warnings settings.server.corsOrigins
    match Web.Origins.ofSettings? settings.server.corsOrigins with
    | none => return .brokeOff display loaded
    | some origins =>
      let address := settings.server.address
      match ← surroundings.listen address with
      | .error reason => return .failed (.listen reason) display loaded
      | .ok () =>
        return .serving ⟨survey, origins⟩ display
          (loaded ++ [serverEvent ("Compensation API listening on " ++ address)])

/-- A run with all its settings. -/
def start (surroundings : Surroundings m) (settings : Settings) : m Outcome :=
  match Filter.choose? surroundings.filter settings.logging.level with
  | none => return .brokeOff {} []
  | some (filter, remarks) =>
    startShown surroundings settings
      ⟨filter, LineForm.ofName settings.logging.format, remarks⟩

/-- A run with some arguments. -/
def run (surroundings : Surroundings m) (texts : List String) : m Outcome := do
  match Arguments.read texts with
  | .error .misused => return .misused
  | .error .help => return .printed helpText
  | .error .version => return .printed ("compensation-api " ++ Web.version ++ "\n")
  | .ok arguments =>
    if arguments.printConfig then return .printed Settings.defaultText
    else
      match ← baseSettings surroundings arguments.config with
      | .error error => return .failed error {} []
      | .ok settings => start surroundings (withFlags settings arguments)

end Run

end SalarySurvey.Command
