/-
# `Migration.Steps` — backup, migration, check and rollback

Four scripts, each of which can be run alone.  A migration backs up first, and
a destination that holds records is only overwritten by force.  A copy clears
its target and then adds document after document, so an interrupted copy is a
beginning of the whole one.
-/
import ProviderRegistry.Migration.Merge
import ProviderRegistry.Migration.Report
import ProviderRegistry.Store.Collections
import ProviderRegistry.Store.Script

namespace ProviderRegistry

namespace Migration

/-! ## Copying -/

/-- Everything in a collection, copied in place of what another holds: the number of documents, or
none when there is nothing to copy and the other is left alone. -/
def copy (source target : String) : Script (Option Nat) := do
  let documents ← Script.find source Document.empty
  if documents.isEmpty then return none
  let _ ← Script.deleteAll target Document.empty
  let _ ← Script.insertAll target documents
  return some documents.length

/-- What has been copied and what has been skipped, by collection. -/
structure CopyReport where
  copied : List CollectionCount
  skipped : List String

namespace CopyReport

/-- The report with one more collection in front. -/
def cons (collection : String) (count : Option Nat) (r : CopyReport) : CopyReport :=
  match count with
  | some n => { r with copied := ⟨collection, n⟩ :: r.copied }
  | none => { r with skipped := collection :: r.skipped }

end CopyReport

/-- Collections copied one after the other, each between the two names it is given. -/
def copyAll (ends : String → String × String) : List String → Script CopyReport
  | [] => pure ⟨[], []⟩
  | collection :: rest => do
    let count ← copy (ends collection).1 (ends collection).2
    let report ← copyAll ends rest
    return report.cons collection count

/-! ## Backup and rollback -/

/-- Every collection that is not empty, copied over its backup. -/
def backup : Script BackupReport := do
  let report ← copyAll (fun c => (c, Collections.backupOf c)) Collections.legacy
  return ⟨report.copied, report.skipped⟩

/-- The destination cleared, and every backup that is not empty copied back. -/
def rollback : Script RollbackReport := do
  let cleared ← Script.deleteAll Collections.simplified Document.empty
  let report ← copyAll (fun c => (Collections.backupOf c, c)) Collections.legacy
  return ⟨cleared, report.copied, report.skipped⟩

/-! ## Migration -/

/-- The records of a collection that decode, and the number of documents that do not. -/
def readAll {α : Type} (collection : String) (decode : Document → Decoded α) :
    Script (List α × Nat) := do
  let documents ← Script.find collection Document.empty
  let records := documents.filterMap fun d => (decode d).toOption
  return (records, documents.length - records.length)

/-- A fresh identity for every config, and the flat record under it. -/
def mergeAll (lookup : LegacyLookup) (now : DateTime) :
    List LegacyConfig → Script (List SimplifiedConfig)
  | [] => pure []
  | c :: rest => do
    let id ← Script.newId
    let records ← mergeAll lookup now rest
    return SimplifiedConfig.merge lookup now id c :: records

/-- The providers that configs name and the lookup has not, each once, in order of first use. -/
def unmatched (lookup : LegacyLookup) (configs : List LegacyConfig) : List String :=
  configs.foldl (fun names c =>
    if (lookup.provider? c.provider).isNone && !names.contains c.provider then
      names ++ [c.provider]
    else names) []

/-- The legacy collections turned into flat records.  A destination that holds records stays as it
is unless it is overwritten by force. -/
def rebuild (now : DateTime) (force : Bool) (backup : BackupReport) : Script MigrationReport := do
  let existing ← Script.count Collections.simplified
  if existing > 0 && !force then
    Script.fail (.alreadyMigrated existing)
  else
    let (providers, badProviders) ← readAll Collections.providers ProviderRecord.decode
    let (catalogs, badCatalogs) ← readAll Collections.catalogs ModelCatalog.decode
    let (configs, badConfigs) ← readAll Collections.legacyConfigs LegacyConfig.decode
    let lookup := LegacyLookup.ofRecords providers catalogs
    let merged ← mergeAll lookup now configs
    let records := SimplifiedConfig.assignDefault merged
    let _ ← Script.deleteAll Collections.simplified Document.empty
    let _ ← Script.insertAll Collections.simplified (records.map SimplifiedConfig.encode)
    return {
      backup
      providersRead := providers.length
      catalogsRead := catalogs.length
      configsRead := configs.length
      migrated := records.length
      skippedRecords := badProviders + badCatalogs + badConfigs
      unmatchedProviders := unmatched lookup configs
      defaultConfig := (records.find? (·.isDefault)).map SimplifiedConfig.label }

/-- A backup, and the destination rebuilt after it. -/
def migrate (now : DateTime) (force : Bool) : Script MigrationReport := do
  let backup ← backup
  rebuild now force backup

/-! ## Check -/

/-- The number of documents of several collections together. -/
def countAll : List String → Script Nat
  | [] => pure 0
  | collection :: rest => do
    let n ← Script.count collection
    let m ← countAll rest
    return n + m

/-- The required fields that a document lacks. -/
def missingFields (d : Document) : List String :=
  SimplifiedConfig.requiredFields.filter fun f => !d.contains f

/-- The shape of the destination, by its first document. -/
def validate : Script ValidationReport := do
  let destination ← Script.count Collections.simplified
  let backups ← countAll (Collections.legacy.map Collections.backupOf)
  if destination == 0 then return ⟨destination, backups, true⟩
  let sample ← Script.findFirst Collections.simplified Document.empty
  let missing := missingFields (sample.getD Document.empty)
  if missing.isEmpty then return ⟨destination, backups, false⟩
  else Script.fail (.schemaMismatch missing)

/-- A migration and the check after it. -/
def run (now : DateTime) (force : Bool) : Script RunReport := do
  let migration ← migrate now force
  let validation ← validate
  return ⟨migration, validation⟩

end Migration

end ProviderRegistry
