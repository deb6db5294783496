/-
# `Store.Collections` — the names under which documents are stored
-/

namespace ProviderRegistry

namespace Collections

/-- Provider records: what configs resolve from, and what a migration reads. -/
def providers : String := "llm_providers"

/-- Model catalogs, one document per provider. -/
def catalogs : String := "model_catalogs"

/-- Configs of single models, in the older form. -/
def legacyConfigs : String := "llm_configs"

/-- System documents, the older store of configs. -/
def systemConfigs : String := "system_configs"

/-- Flat records, the result of a migration. -/
def simplified : String := "simplified_llm_configs"

/-- The collections that are backed up before a migration, in order. -/
def legacy : List String := [providers, legacyConfigs, catalogs]

/-- The collection that holds the backup of another. -/
def backupOf (collection : String) : String := collection ++ "_backup"

end Collections

end ProviderRegistry
