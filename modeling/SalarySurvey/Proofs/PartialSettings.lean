import SalarySurvey.Proofs.Layers
import SalarySurvey.Proofs.Toml.Lines
import SalarySurvey.Proofs.Toml.Tables

/-!
# Files with some of the settings

Any of the settings may be written in a file, under the tables they belong to. The tables stand in
any order, and so do the settings of each; a table without settings is empty or left out. Whatever
is chosen, and however it is written, a setting of the file has its value and every other setting
has its default. Only a port may be refused: one outside 16 bits makes the file malformed.
-/
namespace SalarySurvey.Settings

/-- Some of the settings. The port is any integer that may be written. -/
structure Chosen where
  /-- The host to listen on. -/
  host : Option String := none
  /-- The port to listen on. -/
  port : Option Int := none
  /-- The origins that may read the answers. -/
  corsOrigins : Option (List String) := none
  /-- The path of the survey. -/
  path : Option String := none
  /-- The name of the finest level that is shown. -/
  level : Option String := none
  /-- The form of a line. -/
  format : Option String := none

namespace Chosen

/-- The entry of a setting, if it is chosen. -/
def entry {α : Type} (key : String) (toToml : α → Toml) (setting : Option α) : Toml.Entries :=
  (setting.map fun value => (key, toToml value)).toList

/-- The entries that belong to the server. -/
def server (chosen : Chosen) : Toml.Entries :=
  entry "host" .string chosen.host ++ entry "port" .integer chosen.port ++
    entry "cors_origins" (fun origins => .array (origins.map .string)) chosen.corsOrigins

/-- The entries that belong to the survey. -/
def dataset (chosen : Chosen) : Toml.Entries :=
  entry "path" .string chosen.path

/-- The entries that belong to the journal. -/
def logging (chosen : Chosen) : Toml.Entries :=
  entry "level" .string chosen.level ++ entry "format" .string chosen.format

/-- The tables that the settings belong to. -/
def tables (chosen : Chosen) : List (String × Toml.Entries) :=
  [("server", chosen.server), ("dataset", chosen.dataset), ("logging", chosen.logging)]

/-- The ways to arrange the chosen settings in tables. -/
structure Arranged (chosen : Chosen) (tables : List (String × Toml.Entries)) : Prop where
  /-- No table stands twice. -/
  names : (tables.map Prod.fst).Nodup
  /-- A table has the settings that belong to it, in any order. -/
  entries : ∀ table ∈ tables, ∃ own ∈ chosen.tables, table.1 = own.1 ∧ table.2.Perm own.2
  /-- A table is left out only if no settings belong to it. -/
  complete : ∀ own ∈ chosen.tables, own.2 ≠ [] → own.1 ∈ tables.map Prod.fst

/-- Settings have what is chosen and the defaults of all else. -/
structure Completed (chosen : Chosen) (settings : Settings) : Prop where
  /-- The host. -/
  host : settings.server.host = chosen.host.getD "0.0.0.0"
  /-- The port. -/
  port : (settings.server.port.toNat : Int) = chosen.port.getD 8000
  /-- The origins. -/
  corsOrigins : settings.server.corsOrigins = chosen.corsOrigins.getD []
  /-- The path of the survey. -/
  path : settings.dataset.path = chosen.path.getD "datasets/salary_survey.csv"
  /-- The level. -/
  level : settings.logging.level = chosen.level.getD "info"
  /-- The form of a line. -/
  format : settings.logging.format = chosen.format.getD "pretty"

variable {chosen : Chosen} {tables : List (String × Toml.Entries)} {own : String × Toml.Entries}
  {entries : Toml.Entries}

theorem server_mem_tables (chosen : Chosen) : ("server", chosen.server) ∈ chosen.tables :=
  .head _

theorem dataset_mem_tables (chosen : Chosen) : ("dataset", chosen.dataset) ∈ chosen.tables :=
  .tail _ (.head _)

theorem logging_mem_tables (chosen : Chosen) : ("logging", chosen.logging) ∈ chosen.tables :=
  .tail _ (.tail _ (.head _))

section Arranging

/-- No setting has the name of another one of its table. -/
theorem nodup_keys (listed : own ∈ chosen.tables) : (own.2.map Prod.fst).Nodup := by
  obtain ⟨host, port, corsOrigins, path, level, format⟩ := chosen
  simp only [Chosen.tables, List.mem_cons, List.not_mem_nil, or_false] at listed
  rcases listed with rfl | rfl | rfl
  · cases host <;> cases port <;> cases corsOrigins <;> simp [server, entry]
  · cases path <;> simp [dataset, entry]
  · cases level <;> cases format <;> simp [logging, entry]

/-- Arranged tables can stand in one document. -/
theorem Arranged.distinct (arranged : chosen.Arranged tables) : Toml.Distinct tables := by
  refine ⟨arranged.names, fun table listed => ?_⟩
  obtain ⟨own, belongs, -, perm⟩ := arranged.entries table listed
  exact (perm.map Prod.fst).nodup_iff.mpr (nodup_keys belongs)

/-- Tables of one name are the same. -/
theorem eq_of_name {other : String × Toml.Entries} (listed : own ∈ chosen.tables)
    (otherListed : other ∈ chosen.tables) (same : own.1 = other.1) : own = other := by
  have names : (chosen.tables.map Prod.fst).Nodup := by simp [Chosen.tables]
  exact List.inj_on_of_nodup_map names listed otherListed same

/-- A table of settings is in a document with these settings, or it has none. -/
theorem Arranged.lookup (arranged : chosen.Arranged tables) (listed : own ∈ chosen.tables) :
    (tables.lookup own.1 = none ∧ own.2 = []) ∨
      ∃ entries, tables.lookup own.1 = some entries ∧ entries.Perm own.2 := by
  cases found : tables.lookup own.1 with
  | none =>
    refine .inl ⟨rfl, ?_⟩
    by_contra filled
    obtain ⟨⟨name, entries⟩, inside, rfl⟩ := List.mem_map.mp (arranged.complete own listed filled)
    rw [(mem_iff_lookup arranged.names).mp inside] at found
    contradiction
  | some entries =>
    refine .inr ⟨entries, rfl, ?_⟩
    obtain ⟨other, otherListed, same, perm⟩ := arranged.entries _ (mem_of_lookup found)
    rwa [eq_of_name listed otherListed same]

/-- A table of settings is understood as its entries are. One that is left out counts as an empty
one, if its default is what an empty one stands for. -/
theorem Arranged.setting?_eq {α : Type} (arranged : chosen.Arranged tables)
    (listed : own ∈ chosen.tables) {default : α} {understand : Toml → Option α} {result : Option α}
    (read : ∀ entries, entries.Perm own.2 → understand (.table .header entries) = result)
    (empty : understand (.table .header []) = some default) (position : Nat) :
    (SettingsGroup.named (Toml.ofTables tables)).setting? position own.1 default understand =
      result := by
  rw [SettingsGroup.setting?, SettingsGroup.value?, Toml.lookup_ofTables]
  rcases arranged.lookup listed with ⟨absent, nothing⟩ | ⟨entries, found, perm⟩
  · rw [absent, ← read [] (by rw [nothing]), empty]
    rfl
  · rw [found]
    exact read entries perm

/-- An entry is found by its key. -/
theorem lookup_entry {α : Type} (key : String) (toToml : α → Toml) (setting : Option α)
    (name : String) :
    (entry key toToml setting).lookup name = if name = key then setting.map toToml else none := by
  cases setting with
  | none => simp [entry]
  | some value => exact lookup_cons_eq_ite key (toToml value) [] name

/-- A setting of a table is what its entry is understood as, or the default. -/
theorem setting?_of_perm {α β : Type} (listed : own ∈ chosen.tables) (perm : entries.Perm own.2)
    {name : String} {setting : Option β} {toToml : β → Toml}
    (entered : own.2.lookup name = setting.map toToml) (position : Nat) (default : α)
    (understand : Toml → Option α) :
    (SettingsGroup.named entries).setting? position name default understand =
      setting.elim (some default) fun value => understand (toToml value) := by
  have distinct := (perm.map Prod.fst).nodup_iff.mpr (nodup_keys listed)
  rw [SettingsGroup.setting?, SettingsGroup.value?, lookup_eq_of_perm distinct perm, entered]
  cases setting <;> rfl

/-- A text of a table is its entry, or the default. -/
theorem setting?_text (listed : own ∈ chosen.tables) (perm : entries.Perm own.2) {name : String}
    {setting : Option String} (entered : own.2.lookup name = setting.map .string) (position : Nat)
    (default : String) :
    (SettingsGroup.named entries).setting? position name default Toml.text? =
      some (setting.getD default) := by
  rw [setting?_of_perm listed perm entered]
  cases setting <;> rfl

end Arranging

section Reading

/-- The chosen port if it has 16 bits, or the default. -/
def port? (chosen : Chosen) : Option UInt16 :=
  chosen.port.elim (some 8000) fun port => Toml.port? (.integer port)

/-- A list of strings is understood as its texts. -/
theorem texts?_map (values : List String) :
    Toml.texts? (.array (values.map .string)) = some values := by
  induction values with
  | nil => rfl
  | cons value values ih =>
    rw [Toml.texts?] at ih ⊢
    simp [Toml.text?, ih]

/-- The table of the server is understood if the port has 16 bits. -/
theorem server?_of_perm (perm : entries.Perm chosen.server) :
    server? (.table .header entries) = chosen.port?.map fun port =>
      { host := chosen.host.getD "0.0.0.0", port, corsOrigins := chosen.corsOrigins.getD [] } := by
  have hostEntry : chosen.server.lookup "host" = chosen.host.map .string := by
    simp [server, List.lookup_append, lookup_entry]
  have portEntry : chosen.server.lookup "port" = chosen.port.map .integer := by
    simp [server, List.lookup_append, lookup_entry]
  have originsEntry : chosen.server.lookup "cors_origins" =
      chosen.corsOrigins.map fun origins => .array (origins.map .string) := by
    simp [server, List.lookup_append, lookup_entry]
  have host := setting?_text chosen.server_mem_tables perm hostEntry 0 "0.0.0.0"
  have port := setting?_of_perm chosen.server_mem_tables perm portEntry 1 8000 Toml.port?
  have corsOrigins : (SettingsGroup.named entries).setting? 2 "cors_origins" [] Toml.texts? =
      some (chosen.corsOrigins.getD []) := by
    rw [setting?_of_perm chosen.server_mem_tables perm originsEntry]
    cases chosen.corsOrigins with
    | none => rfl
    | some origins => exact texts?_map origins
  rw [← Chosen.port?] at port
  cases found : chosen.port? <;>
    simp [server?, SettingsGroup.ofToml?, host, port, corsOrigins, found]

/-- The table of the survey is understood. -/
theorem dataset?_of_perm (perm : entries.Perm chosen.dataset) :
    dataset? (.table .header entries) =
      some { path := chosen.path.getD "datasets/salary_survey.csv" } := by
  have pathEntry : chosen.dataset.lookup "path" = chosen.path.map .string := by
    simp [dataset, lookup_entry]
  have path := setting?_text chosen.dataset_mem_tables perm pathEntry 0 "datasets/salary_survey.csv"
  simp [dataset?, SettingsGroup.ofToml?, path]

/-- The table of the journal is understood. -/
theorem logging?_of_perm (perm : entries.Perm chosen.logging) :
    logging? (.table .header entries) =
      some { level := chosen.level.getD "info", format := chosen.format.getD "pretty" } := by
  have levelEntry : chosen.logging.lookup "level" = chosen.level.map .string := by
    simp [logging, List.lookup_append, lookup_entry]
  have formatEntry : chosen.logging.lookup "format" = chosen.format.map .string := by
    simp [logging, List.lookup_append, lookup_entry]
  have level := setting?_text chosen.logging_mem_tables perm levelEntry 0 "info"
  have format := setting?_text chosen.logging_mem_tables perm formatEntry 1 "pretty"
  simp [logging?, SettingsGroup.ofToml?, level, format]

/-- The settings of a document, with the port that it gives. -/
def complete (chosen : Chosen) (port : UInt16) : Settings where
  server :=
    { host := chosen.host.getD "0.0.0.0", port, corsOrigins := chosen.corsOrigins.getD [] }
  dataset := { path := chosen.path.getD "datasets/salary_survey.csv" }
  logging := { level := chosen.level.getD "info", format := chosen.format.getD "pretty" }

/-- The document is understood if the port has 16 bits. -/
theorem Arranged.ofEntries?_eq (arranged : chosen.Arranged tables) :
    ofEntries? (Toml.ofTables tables) = chosen.port?.map chosen.complete := by
  have server := arranged.setting?_eq chosen.server_mem_tables (fun _ => server?_of_perm) rfl 0
  have dataset := arranged.setting?_eq chosen.dataset_mem_tables (fun _ => dataset?_of_perm) rfl 1
  have logging := arranged.setting?_eq chosen.logging_mem_tables (fun _ => logging?_of_perm) rfl 2
  dsimp only at server dataset logging
  rw [ofEntries?]
  cases found : chosen.port? with
  | none => simp [server, found]
  | some port =>
    simp only [server, dataset, logging, found, Option.map_some, Option.bind_eq_bind,
      Option.bind_some]
    rfl

/-- What holds of texts, of lists of texts and of the port holds of all entries of the tables. -/
theorem Arranged.forall_pair (arranged : chosen.Arranged tables) {property : String × Toml → Prop}
    (text : ∀ key ∈ ["host", "path", "level", "format"], ∀ value, property (key, .string value))
    (port : ∀ value ∈ chosen.port, property ("port", .integer value))
    (texts : ∀ values : List String, property ("cors_origins", .array (values.map .string))) :
    ∀ table ∈ tables, ∀ pair ∈ table.2, property pair := by
  have each {α : Type} {key : String} {toToml : α → Toml} {setting : Option α}
      (holds : ∀ value ∈ setting, property (key, toToml value)) :
      ∀ pair ∈ entry key toToml setting, property pair := by
    intro pair inside
    obtain ⟨value, known, rfl⟩ := Option.map_eq_some_iff.mp (Option.mem_toList.mp inside)
    exact holds value known
  intro table listed pair inside
  obtain ⟨own, belongs, -, perm⟩ := arranged.entries table listed
  rw [perm.mem_iff] at inside
  revert pair
  simp only [Chosen.tables, List.mem_cons, List.not_mem_nil, or_false] at belongs
  rcases belongs with rfl | rfl | rfl
  · simp only [server, List.forall_mem_append]
    exact ⟨⟨each fun _ _ => text _ (by decide) _, each port⟩, each fun _ _ => texts _⟩
  · exact each fun _ _ => text _ (by decide) _
  · simp only [logging, List.forall_mem_append]
    exact ⟨each fun _ _ => text _ (by decide) _, each fun _ _ => text _ (by decide) _⟩

/-- However chosen settings are arranged, they can be written. -/
theorem Arranged.exists_writesTables (arranged : chosen.Arranged tables) :
    ∃ text, Toml.WritesTables tables text := by
  have bare : ∀ name ∈ ["server", "dataset", "logging", "host", "port", "cors_origins", "path",
      "level", "format"], Toml.IsBare name := by decide
  refine Toml.exists_writesTables ?_ (arranged.forall_pair ?_ ?_ ?_)
  · intro table listed
    obtain ⟨own, belongs, same, -⟩ := arranged.entries table listed
    rw [same]
    simp only [Chosen.tables, List.mem_cons, List.not_mem_nil, or_false] at belongs
    rcases belongs with rfl | rfl | rfl
    · exact bare "server" (by decide)
    · exact bare "dataset" (by decide)
    · exact bare "logging" (by decide)
  · intro key listed value
    obtain ⟨text, writes⟩ := Toml.exists_writesString value
    refine ⟨bare key ?_, text, .string writes⟩
    have known : ["host", "path", "level", "format"] ⊆ ["server", "dataset", "logging", "host",
        "port", "cors_origins", "path", "level", "format"] := by decide
    exact known listed
  · intro value _
    obtain ⟨text, writes⟩ := Toml.exists_writesInteger value
    exact ⟨bare "port" (by decide), text, .integer writes⟩
  · intro values
    obtain ⟨text, writes⟩ := Toml.exists_writesItems values
    exact ⟨bare "cors_origins" (by decide), _, .strings writes⟩

/-- A port of 16 bits is kept. -/
theorem toNat_of_port? {value : Int} {port : UInt16}
    (known : Toml.port? (.integer value) = some port) : (port.toNat : Int) = value := by
  simp only [Toml.port?] at known
  split at known
  · next ranged =>
    have small : value.toNat < UInt16.size := by
      show value.toNat < 65536
      omega
    rw [← Option.some.inj known, UInt16.toNat_ofNat_of_lt' small, Int.toNat_of_nonneg ranged.1]
  · contradiction

/-- The port is known exactly if it is chosen with 16 bits or not at all. -/
theorem isSome_port?_iff : chosen.port?.isSome ↔ ∀ port ∈ chosen.port, 0 ≤ port ∧ port ≤ 65535 := by
  rw [Chosen.port?]
  cases chosen.port with
  | none => simp
  | some value =>
    simp only [Option.elim_some, Toml.port?, Option.mem_some_iff, forall_eq']
    split
    · next ranged => exact iff_of_true rfl ⟨ranged.1, by omega⟩
    · next outside => exact iff_of_false (nomatch ·) fun inside => outside ⟨inside.1, by omega⟩

/-- A text with chosen settings is read and understood if the port has 16 bits. -/
theorem Arranged.ofText?_eq (arranged : chosen.Arranged tables) {text : String}
    (writes : Toml.WritesTables tables text) : ofText? text = chosen.port?.map chosen.complete := by
  rw [ofText?, writes.document?_eq arranged.distinct]
  split
  · exact arranged.ofEntries?_eq
  · next unread =>
    -- A port with 16 bits has 64 bits as well.
    have noPort : chosen.port? = none := by
      by_contra known
      have ranged := isSome_port?_iff.mp (Option.isSome_iff_ne_none.mpr known)
      refine unread (arranged.forall_pair (fun _ _ _ => rfl) (fun port given => ?_) fun _ => rfl)
      have bounds := ranged port given
      have least : Int64.minValue.toInt = -9223372036854775808 := by decide
      have greatest : Int64.maxValue.toInt = 9223372036854775807 := by decide
      rw [Toml.fits, Toml.inRange?, if_pos (by omega)]
      rfl
    rw [noPort]
    rfl

/-- The settings of a document have what is chosen. -/
theorem completed_complete {port : UInt16} (known : chosen.port? = some port) :
    chosen.Completed (chosen.complete port) := by
  refine ⟨rfl, ?_, rfl, rfl, rfl, rfl⟩
  show (port.toNat : Int) = chosen.port.getD 8000
  rw [Chosen.port?] at known
  cases given : chosen.port with
  | none =>
    rw [given] at known
    obtain rfl := Option.some.inj known
    rfl
  | some value =>
    rw [given] at known
    exact toNat_of_port? known

end Reading

/-- Chosen settings can be written in every arrangement, and are read however they are written. If
the port has 16 bits, the settings of the file are as they are chosen and all others have their
defaults; otherwise the file is malformed. -/
theorem ofText?_completed (arranged : chosen.Arranged tables) :
    (∃ text, Toml.WritesTables tables text) ∧
    ∀ text, Toml.WritesTables tables text →
      ((∀ port ∈ chosen.port, 0 ≤ port ∧ port ≤ 65535) →
        ∃ settings, ofText? text = some settings ∧ chosen.Completed settings) ∧
      ∀ port ∈ chosen.port, ¬(0 ≤ port ∧ port ≤ 65535) →
        ofText? text = none ∧ ∀ path,
          ofFile path (.ok (.file (Text.Utf8.encode text.toList))) = .error (.malformed path) := by
  refine ⟨arranged.exists_writesTables, fun text writes => ?_⟩
  have read := arranged.ofText?_eq writes
  constructor
  · intro ranged
    obtain ⟨port, known⟩ := Option.isSome_iff_exists.mp (isSome_port?_iff.mpr ranged)
    exact ⟨chosen.complete port, by rw [read, known]; rfl, completed_complete known⟩
  · intro port given outside
    have noPort : chosen.port? = none := by
      rw [← Option.not_isSome_iff_eq_none, isSome_port?_iff]
      exact fun ranged => outside (ranged port given)
    have unread : ofText? text = none := by
      rw [read, noPort]
      rfl
    refine ⟨unread, fun path => ?_⟩
    have found : (Except.ok (.file (Text.Utf8.encode text.toList)) : Except FileError FileEntry).bind
        FileEntry.text = .ok text := FileEntry.text_eq_ok.mpr rfl
    rw [ofFile, found]
    dsimp only
    rw [unread]

/-- A file with a comment, an empty table, a port in another base in front of a host with escapes, and
no table for the survey. -/
def sampleText : String :=
  "[logging]\n\n[server] # local\nport = 0xFfff\nhost = \"a\\u0022\\\\\"\n"

/-- The settings in it. -/
def sample : Chosen := { host := some "a\"\\", port := some 65535 }

/-- Its tables. -/
def sampleTables : List (String × Toml.Entries) :=
  [("logging", []), ("server", [("port", .integer 65535), ("host", .string "a\"\\")])]

theorem arranged_sampleTables : sample.Arranged sampleTables := by
  refine ⟨by decide, ?_, ?_⟩
  · simp only [sampleTables, List.forall_mem_cons]
    exact ⟨⟨("logging", []), sample.logging_mem_tables, rfl, .refl _⟩,
      ⟨_, sample.server_mem_tables, rfl, .swap _ _ _⟩, fun _ listed => nomatch listed⟩
  · simp only [Chosen.tables, List.forall_mem_cons]
    exact ⟨fun _ => by decide, fun filled => absurd rfl filled, fun _ => by decide,
      fun _ listed => nomatch listed⟩

theorem writesTables_sampleText : Toml.WritesTables sampleTables sampleText := by
  have noGap : Toml.IsGap [] := by decide
  have space : Toml.IsGap [' '] := by decide
  have feed : Toml.LineTail ['\n'] := .feed (.mk noGap .absent)
  have comment : Toml.Comment "# local".toList :=
    .text (List.all_iff_forall_prop.mp (by decide))
  have remark : Toml.LineTail " # local\n".toList := .feed (.mk space comment)
  have hexadecimal : ('x', 16) ∈ Toml.bases := by decide
  have places : Toml.Places 16 "Ffff".toList 65535 := ⟨[15, 15, 15, 15], by decide, by decide⟩
  have port : Toml.WritesInteger 65535 "0xFfff".toList :=
    .based hexadecimal places (.run (by decide))
  have letter : Toml.WritesChar 'a' ['a'] := .itself (.inr (by decide)) (by decide) (by decide)
  have quote : Toml.WritesChar '"' "\\u0022".toList := by
    have listed : ('u', "0022".toList.length) ∈ Toml.pointEscapes := by decide
    exact .point listed ⟨[0, 0, 2, 2], by decide, by decide⟩
  have backslash : Toml.WritesChar '\\' ['\\', '\\'] := .escape (by decide)
  have chars : Toml.WritesChars "a\"\\".toList "a\\u0022\\\\".toList :=
    .cons letter (.cons quote (.cons backslash .nil))
  exact .next noGap (.header (by decide) noGap noGap) feed (.blank feed
    (.next noGap (.header (by decide) noGap noGap) remark
      (.next noGap (.entry (by decide) space space (.integer port)) feed
        (.next noGap (.entry (by decide) space space (.string (.quotes chars))) feed
          (.ended (.mk noGap .absent))))))

theorem arranged_negative :
    Chosen.Arranged { port := some (-1) } [("server", [("port", .integer (-1))])] := by
  refine ⟨by decide, ?_, ?_⟩
  · simp only [List.forall_mem_cons]
    exact ⟨⟨_, server_mem_tables _, rfl, .refl _⟩, fun _ listed => nomatch listed⟩
  · simp only [Chosen.tables, List.forall_mem_cons]
    exact ⟨fun _ => by decide, fun filled => absurd rfl filled, fun filled => absurd rfl filled,
      fun _ listed => nomatch listed⟩

theorem writesTables_negative :
    Toml.WritesTables [("server", [("port", .integer (-1))])] "[server]\nport = -1" := by
  have noGap : Toml.IsGap [] := by decide
  have space : Toml.IsGap [' '] := by decide
  have places : Toml.Places 10 ['1'] 1 := ⟨[1], by decide, by decide⟩
  have port : Toml.WritesInteger (-1) "-1".toList :=
    .decimal .minus places (.run (by decide)) (by decide)
  exact .next noGap (.header (by decide) noGap noGap) (.feed (.mk noGap .absent))
    (.last noGap (.entry (by decide) space space (.integer port)) (.mk noGap .absent))

/-- The settings of the file are its host, its port and the defaults. A port below zero is refused. -/
theorem sampleText_completed :
    ofText? sampleText = some ⟨⟨"a\"\\", 65535, []⟩, ⟨"datasets/salary_survey.csv"⟩,
      ⟨"info", "pretty"⟩⟩ ∧
    ofText? "[server]\nport = -1" = none := by
  constructor
  · obtain ⟨settings, read, completed⟩ :=
      ((ofText?_completed arranged_sampleTables).2 _ writesTables_sampleText).1 (by decide)
    rw [read]
    obtain ⟨⟨host, port, corsOrigins⟩, ⟨path⟩, ⟨level, format⟩⟩ := settings
    obtain ⟨rfl, same, rfl, rfl, rfl, rfl⟩ := completed
    have largest : port = 65535 := UInt16.toNat_inj.mp (Int.ofNat_inj.mp same)
    rw [largest]
    rfl
  · exact (((ofText?_completed arranged_negative).2 _ writesTables_negative).2 (-1) rfl
      (by decide)).1

end Chosen

end SalarySurvey.Settings
