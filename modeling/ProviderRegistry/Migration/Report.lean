/-
# `Migration.Report` — what the steps of a migration tell
-/
import ProviderRegistry.Json.Value

namespace ProviderRegistry

/-- The number of documents of a collection. -/
structure CollectionCount where
  collection : String
  count : Nat
deriving DecidableEq, Inhabited

/-- What a backup has done. -/
structure BackupReport where
  /-- The collections copied into their backups. -/
  backedUp : List CollectionCount
  /-- The empty collections, whose earlier backups stay. -/
  skipped : List String
deriving DecidableEq, Inhabited

/-- What a migration has done. -/
structure MigrationReport where
  backup : BackupReport
  providersRead : Nat
  catalogsRead : Nat
  configsRead : Nat
  migrated : Nat
  /-- The documents that did not decode. -/
  skippedRecords : Nat
  /-- The providers that configs name and no record has. -/
  unmatchedProviders : List String
  /-- The provider and model of the default record. -/
  defaultConfig : Option String
deriving DecidableEq, Inhabited

/-- What a check of the destination has found. -/
structure ValidationReport where
  destinationCount : Nat
  backupCount : Nat
  empty : Bool
deriving DecidableEq, Inhabited

/-- What a rollback has done. -/
structure RollbackReport where
  clearedDestination : Nat
  restored : List CollectionCount
  /-- The collections left alone because their backup is empty. -/
  skipped : List String
deriving DecidableEq, Inhabited

/-- What a migration and the check after it have done. -/
structure RunReport where
  migration : MigrationReport
  validation : ValidationReport
deriving DecidableEq, Inhabited

namespace CollectionCount

/-- The count as a value. -/
def toJson (c : CollectionCount) : Json :=
  .object [("collection", .string c.collection), ("count", .ofNat c.count)]

end CollectionCount

namespace BackupReport

/-- The number of documents backed up. -/
def total (r : BackupReport) : Nat :=
  r.backedUp.foldr (fun c n => c.count + n) 0

/-- The report as a value. -/
def toJson (r : BackupReport) : Json :=
  .object [
    ("backed_up", .array (r.backedUp.map CollectionCount.toJson)),
    ("skipped", .ofTexts r.skipped)]

end BackupReport

namespace MigrationReport

/-- The report as a value. -/
def toJson (r : MigrationReport) : Json :=
  .object [
    ("backup", r.backup.toJson),
    ("providers_read", .ofNat r.providersRead),
    ("catalogs_read", .ofNat r.catalogsRead),
    ("configs_read", .ofNat r.configsRead),
    ("migrated", .ofNat r.migrated),
    ("skipped_records", .ofNat r.skippedRecords),
    ("unmatched_providers", .ofTexts r.unmatchedProviders),
    ("default_config", Json.ofOption .string r.defaultConfig)]

end MigrationReport

namespace ValidationReport

/-- The report as a value. -/
def toJson (r : ValidationReport) : Json :=
  .object [
    ("destination_count", .ofNat r.destinationCount),
    ("backup_count", .ofNat r.backupCount),
    ("empty", .bool r.empty)]

end ValidationReport

namespace RollbackReport

/-- The report as a value. -/
def toJson (r : RollbackReport) : Json :=
  .object [
    ("cleared_destination", .ofNat r.clearedDestination),
    ("restored", .array (r.restored.map CollectionCount.toJson)),
    ("skipped", .ofTexts r.skipped)]

end RollbackReport

namespace RunReport

/-- The report as a value. -/
def toJson (r : RunReport) : Json :=
  .object [("migration", r.migration.toJson), ("validation", r.validation.toJson)]

end RunReport

end ProviderRegistry
