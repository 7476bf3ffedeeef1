import SalarySurvey.Command
import SalarySurvey.Proofs.CommandLine
import SalarySurvey.Proofs.Utf8

/-!
# Layers of settings

The settings of a run have a base, which one file gives as a whole: the file that was asked for, or
the first of three places where a file is found, is a text and can be understood. Other files have
no say, whatever is in them. The path of the survey from the environment counts for more than the
base, and the flags of the command line for more than both.

A file that was asked for is not replaced by another one: if it gives no settings, the run fails.
-/
namespace SalarySurvey

/-- A file has a text exactly when its bytes are the UTF-8 form of that text. -/
theorem FileEntry.text_eq_ok {entry : FileEntry} {text : String} :
    entry.text = .ok text ↔ entry = .file (Text.Utf8.encode text.toList) := by
  cases entry with
  | folder => simp [FileEntry.text, FileEntry.bytes, bind, Except.bind]
  | file bytes =>
    rw [FileEntry.file.injEq, ← Text.Utf8.decode_eq_ok]
    simp only [FileEntry.text, FileEntry.bytes, bind, Except.bind]
    cases decoded : Text.Utf8.decode bytes with
    | error place => simp
    | ok chars =>
      rw [Except.ok.injEq, Except.ok.injEq]
      constructor
      · rintro rfl
        rw [String.toList_ofList]
      · rintro rfl
        rw [String.ofList_toList]

/-- Settings are those in the text of a file. -/
theorem Settings.ofFile_eq_ok {path : String} {found : Except FileError FileEntry}
    {settings : Settings} :
    ofFile path found = .ok settings ↔
      ∃ text, found = .ok (.file (Text.Utf8.encode text.toList)) ∧
        ofText? text = some settings := by
  have read (text : String) : found.bind FileEntry.text = .ok text ↔
      found = .ok (.file (Text.Utf8.encode text.toList)) := by
    cases found with
    | error reason => simp [Except.bind]
    | ok entry => simp [Except.bind, FileEntry.text_eq_ok]
  simp only [← read, ofFile]
  cases found.bind FileEntry.text with
  | error reason => simp
  | ok text => cases understood : ofText? text <;> simp [understood]

/-- The first candidate counts if it has settings, and else the others do. -/
theorem Settings.ofCandidates_cons {path : String} {found : Except FileError FileEntry}
    {candidates : List Candidate} :
    ofCandidates ((path, found) :: candidates) =
      match ofFile path found with
      | .ok settings => settings
      | .error _ => ofCandidates candidates := by
  cases read : ofFile path found <;> simp [ofCandidates, read, Except.toOption]

namespace Command

/-- A path leads to a text with settings. -/
def Surroundings.Gives (surroundings : Surroundings Id) (path : String) (settings : Settings) :
    Prop :=
  ∃ text, surroundings.openFile path = .ok (.file (Text.Utf8.encode text.toList)) ∧
    Settings.ofText? text = some settings

/-- The settings of the first path that gives some, or the defaults. -/
inductive First (surroundings : Surroundings Id) : List String → Settings → Prop where
  /-- The first path gives settings. -/
  | here {path : String} {paths : List String} {base : Settings}
    (gives : surroundings.Gives path base) : First surroundings (path :: paths) base
  /-- The first path gives none. -/
  | later {path : String} {paths : List String} {base : Settings}
    (silent : ∀ other, ¬surroundings.Gives path other) (behind : First surroundings paths base) :
    First surroundings (path :: paths) base
  /-- No path gives any. -/
  | defaults : First surroundings [] {}

/-- The base of the settings, with the file that was asked for. -/
inductive Base (surroundings : Surroundings Id) : Option String → Settings → Prop where
  /-- The file that was asked for counts alone. -/
  | asked {path : String} {base : Settings} (gives : surroundings.Gives path base) :
    Base surroundings (some path) base
  /-- The file of the user comes before those of the system and of the working folder. -/
  | user {folder : String} {base : Settings} (known : surroundings.userFolder = some folder)
    (first : First surroundings [folder ++ "/compensation-api/config.toml",
      "/etc/compensation-api/config.toml", "./config.toml"] base) :
    Base surroundings none base
  /-- Without a folder of the user there are two files. -/
  | noUser {base : Settings} (unknown : surroundings.userFolder = none)
    (first : First surroundings ["/etc/compensation-api/config.toml", "./config.toml"] base) :
    Base surroundings none base

/-- The settings of a run with a base: what an option gives counts first, for the path of the survey
a text from the environment next, and the base last. -/
def effective (options : List Given) (environment : Option String) (base : Settings) :
    Settings where
  server :=
    { host := (options.lookup .host).getD base.server.host
      port := ((options.lookup .port).bind Arguments.port?).getD base.server.port
      corsOrigins := base.server.corsOrigins }
  dataset :=
    { path := ((options.lookup .dataset).or (environment.filter (· ≠ ""))).getD base.dataset.path }
  logging := base.logging

variable {surroundings : Surroundings Id} {texts : List String} {options : List Given}

/-- Flags on top of the environment, on top of a base. -/
theorem withFlags_withEnvironment (base : Settings) (environment : Option String) :
    withFlags (base.withEnvironment environment) (Arguments.give {} options) =
      effective options environment base := by
  cases environment with
  | none => simp [withFlags, Settings.withEnvironment, Arguments.give, effective]
  | some path =>
    by_cases empty : path = "" <;> cases given : options.lookup .dataset <;>
      simp [withFlags, Settings.withEnvironment, Arguments.give, effective, Option.filter, empty,
        given]

theorem gives_iff {path : String} {settings : Settings} :
    surroundings.Gives path settings ↔
      Settings.ofFile path (surroundings.openFile path) = .ok settings :=
  Settings.ofFile_eq_ok.symm

/-- The first settings are found among the candidates. -/
theorem first_iff {paths : List String} {base : Settings} :
    First surroundings paths base ↔
      Settings.ofCandidates (paths.map fun path => (path, surroundings.openFile path)) = base := by
  induction paths with
  | nil =>
    constructor
    · rintro ⟨⟩
      rfl
    · rintro rfl
      exact .defaults
  | cons path paths ih =>
    rw [List.map_cons, Settings.ofCandidates_cons]
    cases found : Settings.ofFile path (surroundings.openFile path) with
    | ok settings =>
      have gives := gives_iff.mpr found
      constructor
      · rintro (same | ⟨silent, -⟩)
        · exact Except.ok.inj (found.symm.trans (gives_iff.mp same))
        · exact absurd gives (silent settings)
      · rintro rfl
        exact .here gives
    | error error =>
      have silent : ∀ other, ¬surroundings.Gives path other := by
        intro other gives
        rw [gives_iff, found] at gives
        cases gives
      rw [← ih]
      constructor
      · rintro (gives | ⟨-, behind⟩)
        · exact absurd gives (silent base)
        · exact behind
      · exact .later silent

/-- Without a file that was asked for, the base is found among the candidates. -/
theorem base_none_iff {base : Settings} : Base surroundings none base ↔
    Settings.ofCandidates ((Settings.candidatePaths surroundings.userFolder).map
      fun path => (path, surroundings.openFile path)) = base := by
  rw [← first_iff]
  constructor
  · rintro (_ | ⟨known, first⟩ | ⟨unknown, first⟩)
    · rw [known]
      exact first
    · rw [unknown]
      exact first
  · intro first
    cases known : surroundings.userFolder with
    | none =>
      rw [known] at first
      exact .noUser known first
    | some folder =>
      rw [known] at first
      exact .user known first

/-- Looking at paths one after the other finds what each of them leads to. -/
theorem mapM_openFile (paths : List String) :
    (paths.mapM fun path => do return (path, ← surroundings.openFile path) :
      Id (List Settings.Candidate)) = paths.map fun path => (path, surroundings.openFile path) := by
  induction paths with
  | nil => rfl
  | cons path paths ih =>
    rw [List.mapM_cons, ih]
    rfl

/-- The environment counts on top of the base. -/
theorem baseSettings_of_base {config : Option String} {base : Settings}
    (found : Base surroundings config base) :
    baseSettings surroundings config = .ok (base.withEnvironment surroundings.datasetPath) := by
  cases config with
  | none =>
    rw [← base_none_iff.mp found, ← mapM_openFile]
    rfl
  | some path =>
    obtain ⟨gives⟩ := found
    simp only [baseSettings, bind, gives_iff.mp gives]
    rfl

/-- A file that was asked for and gives nothing is an error. -/
theorem baseSettings_of_silent {path : String} (silent : ∀ base, ¬surroundings.Gives path base) :
    ∃ error, baseSettings surroundings (some path) = .error (.settings path error) := by
  cases found : Settings.ofFile path (surroundings.openFile path) with
  | ok settings => exact absurd (gives_iff.mpr found) (silent settings)
  | error error =>
    refine ⟨error, ?_⟩
    simp only [baseSettings, bind, found]
    rfl

/-- A run of a command line looks for its base, puts the flags on top and starts. -/
theorem run_of_commandLine (line : CommandLine texts options) :
    run surroundings texts =
      match baseSettings surroundings (options.lookup .config) with
      | .error error => .failed error {} []
      | .ok settings => start surroundings (withFlags settings (Arguments.give {} options)) := by
  have read : Arguments.read texts = .ok (Arguments.give {} options) :=
    (Arguments.read_eq_ok_iff rfl).mpr ⟨options, line, rfl⟩
  rw [run, read]
  rfl

theorem startShown_ne_settings (settings : Settings) (shown : Display) (path : String)
    (error : SettingsError) (display : Display) (journal : Journal) :
    startShown surroundings settings shown ≠ .failed (.settings path error) display journal := by
  intro same
  simp only [startShown, bind, pure] at same
  split at same
  · cases same
  · split at same
    · cases same
    · split at same <;> cases same

/-- A start with settings does not fail for a lack of them. -/
theorem start_ne_settings (settings : Settings) (path : String) (error : SettingsError)
    (display : Display) (journal : Journal) :
    start surroundings settings ≠ .failed (.settings path error) display journal := by
  intro same
  unfold start at same
  split at same
  · cases same
  · exact startShown_ne_settings _ _ _ _ _ _ same

/-- Settings come in layers. A base is all that a run needs to start, with the environment and the
flags on top of it; without a file that was asked for there is exactly one base, and a file that was
asked for but gives no settings ends the run. -/
theorem run_layers (line : CommandLine texts options) :
    (∀ base, Base surroundings (options.lookup .config) base →
      run surroundings texts =
          start surroundings (effective options surroundings.datasetPath base) ∧
        ∀ path error display journal,
          run surroundings texts ≠ .failed (.settings path error) display journal) ∧
    (options.lookup .config = none → ∃! base, Base surroundings none base) ∧
    ∀ path, options.lookup .config = some path →
      (∀ base, ¬surroundings.Gives path base) →
        ∃ error, run surroundings texts = .failed (.settings path error) {} [] ∧
          (run surroundings texts).exitCode? = some 1 := by
  refine ⟨fun base found => ?_, fun _ => ?_, fun path asked silent => ?_⟩
  · have starts : run surroundings texts =
        start surroundings (effective options surroundings.datasetPath base) := by
      rw [run_of_commandLine line, baseSettings_of_base found, ← withFlags_withEnvironment]
    refine ⟨starts, fun path error display journal => ?_⟩
    rw [starts]
    exact start_ne_settings _ path error display journal
  · exact ⟨_, base_none_iff.mpr rfl, fun other found => (base_none_iff.mp found).symm⟩
  · obtain ⟨error, fails⟩ := baseSettings_of_silent silent
    have ends : run surroundings texts = .failed (.settings path error) {} [] := by
      rw [run_of_commandLine line, asked, fails]
    exact ⟨error, ends, by rw [ends]; rfl⟩

/-- Surroundings with a file of the user that cannot be understood, no file of the system and one in
the working folder. -/
def sampleSurroundings : Surroundings Id where
  userFolder := some "/home"
  datasetPath := some "given.csv"
  filter := none
  openFile path :=
    if path = "/home/compensation-api/config.toml" then
      .ok (.file (Text.Utf8.encode "host = ".toList))
    else if path = "./config.toml" then
      .ok (.file (Text.Utf8.encode "[server]\nhost = \"::1\"\nport = 80\n".toList))
    else .error .notFound
  listen _ := .error "busy"

/-- The file in the working folder gives the host, the environment the survey and a flag the port;
the file of the user gives no settings even if it is asked for. -/
theorem sampleSurroundings_layers :
    run sampleSurroundings ["-p", "8080", "--"] =
      start sampleSurroundings ⟨⟨"::1", 8080, []⟩, ⟨"given.csv"⟩, ⟨"info", "pretty"⟩⟩ ∧
    ∃ error, run sampleSurroundings ["--config=/home/compensation-api/config.toml"] =
      .failed (.settings "/home/compensation-api/config.toml" error) {} [] := by
  have silentUser : ∀ base,
      ¬sampleSurroundings.Gives "/home/compensation-api/config.toml" base := by
    intro base gives
    have malformed : (Settings.ofFile "/home/compensation-api/config.toml"
        (sampleSurroundings.openFile "/home/compensation-api/config.toml")).toOption = none := by
      decide +kernel
    rw [gives_iff.mp gives] at malformed
    cases malformed
  constructor
  · have spelling : Spelling .port "8080" ["-p", "8080"] :=
      @Spelling.next .port "8080" 'p' rfl (by decide)
    have line : CommandLine ["-p", "8080", "--"] [(.port, "8080")] :=
      .option spelling (by decide +kernel) (by simp) .ended
    have base : Base sampleSurroundings none ⟨⟨"::1", 80, []⟩, {}, {}⟩ := by
      refine .user rfl (.later silentUser (.later ?_ (.here ?_)))
      · rintro other ⟨text, found, -⟩
        cases found
      · exact ⟨"[server]\nhost = \"::1\"\nport = 80\n", rfl, by decide +kernel⟩
    exact ((run_layers line).1 _ base).1
  · have spelling : Spelling .config "/home/compensation-api/config.toml"
        ["--config=/home/compensation-api/config.toml"] := .joined
    have line : CommandLine ["--config=/home/compensation-api/config.toml"]
        [(.config, "/home/compensation-api/config.toml")] :=
      .option spelling (by decide) (by simp) .empty
    obtain ⟨error, fails, -⟩ := (run_layers line).2.2 _ rfl silentUser
    exact ⟨error, fails⟩

end Command

end SalarySurvey
