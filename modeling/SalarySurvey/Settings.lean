/-!
# Settings

What can be configured: where the service listens and whom it admits, where the survey is, and
what the journal shows. Every setting has a default.
-/
namespace SalarySurvey

/-- How the service is reached. -/
structure ServerSettings where
  /-- The host to listen on. -/
  host : String := "0.0.0.0"
  /-- The port to listen on. -/
  port : UInt16 := 8000
  /-- The origins that may read the answers; without any, all may. -/
  corsOrigins : List String := []
  deriving DecidableEq

/-- The address to listen on. -/
def ServerSettings.address (server : ServerSettings) : String :=
  server.host ++ ":" ++ toString server.port.toNat

/-- Where the survey is. -/
structure DatasetSettings where
  /-- The path of its file. -/
  path : String := "datasets/salary_survey.csv"
  deriving DecidableEq

/-- What the journal shows. -/
structure LoggingSettings where
  /-- The name of the finest level that is shown. -/
  level : String := "info"
  /-- The form of a line. -/
  format : String := "pretty"
  deriving DecidableEq

/-- The settings. -/
structure Settings where
  /-- How the service is reached. -/
  server : ServerSettings := {}
  /-- Where the survey is. -/
  dataset : DatasetSettings := {}
  /-- What the journal shows. -/
  logging : LoggingSettings := {}
  deriving DecidableEq

namespace Settings

/-- Settings with the path of the survey from the environment, where an empty text counts as
none. -/
def withEnvironment (settings : Settings) (path : Option String) : Settings :=
  match path with
  | none => settings
  | some path =>
    if path = "" then settings else { settings with dataset := { path } }

/-- A file with the default settings and what they mean. -/
def defaultText : String :=
  "# Compensation API Configuration
#
# Environment variables override these settings:
# - COMPENSATION_DATASET_PATH
# - RUST_LOG (takes precedence over [logging].level)

[server]
# Host to bind to
host = \"0.0.0.0\"

# Port to listen on
port = 8000

# Allowed CORS origins (empty allows any origin)
cors_origins = []

[dataset]
# CSV export of the salary survey, loaded once at startup
path = \"datasets/salary_survey.csv\"

[logging]
# Log level: trace, debug, info, warn, error
level = \"info\"

# Log format: pretty (for development) or json (for production)
format = \"pretty\"
"

end Settings

end SalarySurvey
