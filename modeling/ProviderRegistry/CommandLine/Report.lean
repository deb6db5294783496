/-
# `CommandLine.Report` — what a command prints

Every command ends in a report, which is printed as text, JSON or YAML.  The
two formats for machines print the report whole; the text may be shortened by
the quiet option.
-/
import ProviderRegistry.CommandLine.Arguments
import ProviderRegistry.CommandLine.Layout
import ProviderRegistry.Execution.Request
import ProviderRegistry.Migration.Report
import ProviderRegistry.Yaml.Document

namespace ProviderRegistry

namespace CommandLine

/-- What a command has done or found. -/
inductive Report where
  | backup (report : BackupReport)
  | run (report : RunReport)
  | validation (report : ValidationReport)
  | rollback (report : RollbackReport)
  | resolution (configs : List LlmConfig) (active : Option LlmConfig)
  | config (config : LlmConfig)

namespace Report

/-- The report as a value. -/
def toJson : Report → Json
  | .backup r => r.toJson
  | .run r => r.toJson
  | .validation r => r.toJson
  | .rollback r => r.toJson
  | .resolution configs active =>
    .object [
      ("configs", .array (configs.map LlmConfig.toJson)),
      ("active", Json.ofOption LlmConfig.toJson active)]
  | .config c => c.toJson

/-! ## Text -/

/-- A line per collection, with its count. -/
def countLines (label : String) (counts : List CollectionCount) : String :=
  String.join (counts.map fun c =>
    fieldLine label (c.collection ++ " (" ++ toString c.count ++ ")"))

/-- A line per name. -/
def nameLines (label : String) (names : List String) : String :=
  String.join (names.map (fieldLine label))

/-- What has been backed up, and a warning where an older backup stays. -/
def backupText (r : BackupReport) : String :=
  countLines "Backed up" r.backedUp
    ++ nameLines "Skipped (empty)" r.skipped
    ++ (if r.skipped.isEmpty then ""
      else "Warning: previous backups of skipped collections were kept and may be stale.\n")
    ++ fieldLine "Total" (toString r.total)

/-- The counts of a migration, after its backup. -/
def migrationText (r : MigrationReport) : String :=
  backupText r.backup
    ++ fieldLine "Providers" (toString r.providersRead)
    ++ fieldLine "Catalogs" (toString r.catalogsRead)
    ++ fieldLine "Configs" (toString r.configsRead)
    ++ fieldLine "Migrated" (toString r.migrated)
    ++ (if r.skippedRecords > 0 then fieldLine "Undecodable" (toString r.skippedRecords) else "")
    ++ (if r.unmatchedProviders.isEmpty then ""
      else fieldLine "Unknown providers" (", ".intercalate r.unmatchedProviders))
    ++ fieldLine "Default" (r.defaultConfig.getD "(none enabled)")

/-- The counts of a check. -/
def validationText (r : ValidationReport) : String :=
  fieldLine "Simplified configs" (toString r.destinationCount)
    ++ fieldLine "Backup documents" (toString r.backupCount)
    ++ (if r.empty then "Warning: simplified_llm_configs is empty\n" else "")

/-- What has been restored and what has been left alone, and what either may mean. -/
def rollbackText (r : RollbackReport) : String :=
  fieldLine "Cleared" (toString r.clearedDestination)
    ++ countLines "Restored" r.restored
    ++ nameLines "Untouched" r.skipped
    ++ (if r.skipped.isEmpty then ""
      else "Warning: collections with an empty backup were left as is; "
        ++ "an empty backup cannot be told apart from lost data.\n")
    ++ (if r.restored.isEmpty then ""
      else "Warning: a backup is not refreshed while its collection is empty, "
        ++ "so restored data may come from an earlier migration run.\n")

/-- A migration and the check after it. -/
def runText (r : RunReport) : String :=
  migrationText r.migration ++ validationText r.validation
    ++ "\nMigration complete. Use `llmconf rollback` to restore the legacy collections.\n"

/-- The columns of the table of configs, with their widths. -/
def columns : List (String × Nat) :=
  [("PROVIDER", 12), ("MODEL", 28), ("API KEY", 15), ("ENABLED", 7), ("BASE URL", 40)]

/-- The values of a config in the columns. -/
def columnValues (c : LlmConfig) : List String :=
  [c.provider, c.model, c.maskedKey.getD "", if c.enabled then "yes" else "no", c.baseUrl.getD ""]

/-- The first row of the table. -/
def headerRow : List Char := row (columns.map (·.2)) (columns.map (·.1))

/-- The row of a config. -/
def configRow (c : LlmConfig) : List Char := row (columns.map (·.2)) (columnValues c)

/-- The table of configs. -/
def tableText (configs : List LlmConfig) : String :=
  String.ofList (headerRow ++ ['\n'])
    ++ String.join (configs.map fun c => String.ofList (configRow c ++ ['\n']))

/-- The table of configs and the active one, or a line where there are none. -/
def resolutionText (configs : List LlmConfig) (active : Option LlmConfig) : String :=
  if configs.isEmpty then
    "No LLM configs resolved (store empty and no provider API keys in environment)\n"
  else
    tableText configs ++ "\n" ++ (match active with
      | some c => "Active: " ++ c.provider ++ "/" ++ c.model ++ "\n"
      | none => "Active: (none enabled)\n")

/-- One config, a line per field. -/
def configText (c : LlmConfig) : String :=
  fieldLine "Provider" c.provider
    ++ fieldLine "Model" c.model
    ++ fieldLine "API key" (c.maskedKey.getD "(not set)")
    ++ fieldLine "Base URL" (c.baseUrl.getD "(default)")
    ++ fieldLine "Temperature" (DoubleFormat.plain.text c.temperature)
    ++ fieldLine "Max tokens" (toString c.maxTokens.toNat)
    ++ fieldLine "Timeout" (toString c.timeout.toNat ++ "s")
    ++ fieldLine "Enabled" (Inspect.flag c.enabled)

/-- The report as text.  The quiet option leaves a migration its number of records, and a rollback
nothing. -/
def text (quiet : Bool) : Report → String
  | .backup r => backupText r
  | .run r => if quiet then toString r.migration.migrated ++ "\n" else runText r
  | .validation r => validationText r
  | .rollback r => if quiet then "" else rollbackText r
  | .resolution configs active => resolutionText configs active
  | .config c => configText c

/-- The report in a format. -/
def print (format : Format) (quiet : Bool) (r : Report) : String :=
  match format with
  | .text => r.text quiet
  | .json => r.toJson.pretty ++ "\n"
  | .yaml => Yaml.document r.toJson

end Report

end CommandLine

end ProviderRegistry
