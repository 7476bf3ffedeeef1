import SalarySurvey.Files
import SalarySurvey.Settings
import SalarySurvey.Text.Quoted
import SalarySurvey.Toml.Reader

/-!
# Reading settings

Settings are read from TOML documents with the three tables `server`, `dataset` and `logging`.
Settings that are not given have their defaults, and names without a meaning are ignored. A table
may also be given as a list of its settings in their order, of which the last ones may be missing
and further items are ignored.

Files of settings come in layers: of several candidates the first one that can be read and
understood counts, and the defaults if there is none. The environment may then replace the path of
the survey.
-/
namespace SalarySurvey

/-- The settings of a group as a document gives them. -/
inductive SettingsGroup where
  /-- By name. -/
  | named (entries : Toml.Entries)
  /-- By position. -/
  | positional (items : List Toml)

namespace SettingsGroup

/-- The group in a value, if it can be one. A moment gives no setting. -/
def ofToml? : Toml → Option SettingsGroup
  | .table _ entries => some (named entries)
  | .array items => some (positional items)
  | .tables earlier last => some (positional (earlier ++ [.table .header last]))
  | .moment _ => some (named [])
  | _ => none

/-- The value of a setting, by its position and its name. -/
def value? (group : SettingsGroup) (position : Nat) (name : String) : Option Toml :=
  match group with
  | named entries => entries.lookup name
  | positional items => items[position]?

/-- A setting: the default if it is not given, and nothing if its value cannot be understood. -/
def setting? {α : Type} (group : SettingsGroup) (position : Nat) (name : String) (default : α)
    (understand : Toml → Option α) : Option α :=
  match group.value? position name with
  | none => some default
  | some value => understand value

end SettingsGroup

namespace Toml

/-- The text of a string. -/
def text? : Toml → Option String
  | string value => some value
  | _ => none

/-- A port. -/
def port? : Toml → Option UInt16
  | integer value => if 0 ≤ value ∧ value < 65536 then some (UInt16.ofNat value.toNat) else none
  | _ => none

/-- The texts of a list of strings. -/
def texts? : Toml → Option (List String)
  | array items => items.mapM text?
  | _ => none

end Toml

namespace Settings

/-- The settings of the server. -/
def server? (value : Toml) : Option ServerSettings := do
  let group ← SettingsGroup.ofToml? value
  let host ← group.setting? 0 "host" ({} : ServerSettings).host Toml.text?
  let port ← group.setting? 1 "port" ({} : ServerSettings).port Toml.port?
  let corsOrigins ← group.setting? 2 "cors_origins" ({} : ServerSettings).corsOrigins Toml.texts?
  some { host, port, corsOrigins }

/-- The settings of the survey. -/
def dataset? (value : Toml) : Option DatasetSettings := do
  let group ← SettingsGroup.ofToml? value
  let path ← group.setting? 0 "path" ({} : DatasetSettings).path Toml.text?
  some { path }

/-- The settings of the journal. -/
def logging? (value : Toml) : Option LoggingSettings := do
  let group ← SettingsGroup.ofToml? value
  let level ← group.setting? 0 "level" ({} : LoggingSettings).level Toml.text?
  let format ← group.setting? 1 "format" ({} : LoggingSettings).format Toml.text?
  some { level, format }

/-- The settings of a document. -/
def ofEntries? (entries : Toml.Entries) : Option Settings := do
  let document := SettingsGroup.named entries
  let server ← document.setting? 0 "server" {} server?
  let dataset ← document.setting? 1 "dataset" {} dataset?
  let logging ← document.setting? 2 "logging" {} logging?
  some { server, dataset, logging }

/-- The settings in the text of a document. -/
def ofText? (text : String) : Option Settings :=
  (Toml.document? text).bind ofEntries?

end Settings

/-- Why a file of settings cannot be used. -/
inductive SettingsError where
  /-- It cannot be read. -/
  | unread (path : String) (reason : FileError)
  /-- It cannot be understood. -/
  | malformed (path : String)
  deriving DecidableEq

/-- The message of an error. -/
def SettingsError.message : SettingsError → String
  | unread path reason =>
    "Failed to read config file " ++ Text.quoted path ++ ": " ++ reason.message
  | malformed path => "Failed to parse config file " ++ Text.quoted path

namespace Settings

/-- The settings in what a path led to. -/
def ofFile (path : String) (found : Except FileError FileEntry) :
    Except SettingsError Settings :=
  match found.bind FileEntry.text with
  | .error reason => .error (.unread path reason)
  | .ok text =>
    match ofText? text with
    | some settings => .ok settings
    | none => .error (.malformed path)

/-- A path and what it led to. -/
abbrev Candidate := String × Except FileError FileEntry

/-- The settings of the first candidate that has some, or the defaults. -/
def ofCandidates (candidates : List Candidate) : Settings :=
  (candidates.findSome? fun (path, found) => (ofFile path found).toOption).getD {}

/-- The paths where settings are looked for, the first one below the folder of the user's
configuration. -/
def candidatePaths (userFolder : Option String) : List String :=
  (userFolder.map (· ++ "/compensation-api/config.toml")).toList ++
    ["/etc/compensation-api/config.toml", "./config.toml"]

end Settings

end SalarySurvey
