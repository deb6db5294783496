/-
# `Migration.Merge` — one flat record out of a config, its provider and its catalog

Field by field, a config's own value comes first, then its provider's or its
catalog's, then the default.  The provider and the catalog are looked up by
name; where several records have one name, the last counts.
-/
import ProviderRegistry.Bson.Lenient
import ProviderRegistry.Record.Legacy
import ProviderRegistry.Record.Provider
import ProviderRegistry.Record.Simplified

namespace ProviderRegistry

/-- The providers and catalogs that configs refer to, by name. -/
structure LegacyLookup where
  providers : List (String × ProviderRecord)
  catalogs : List (String × List (String × CatalogModel))

namespace LegacyLookup

/-- The models of a catalog by name. -/
def modelTable (catalog : ModelCatalog) : List (String × CatalogModel) :=
  Fields.ofList (catalog.models.map fun m => (m.name, m))

/-- The tables of lists of records.  A later record of a name takes the place of an earlier one,
and a later catalog of a provider that of an earlier one as a whole. -/
def ofRecords (providers : List ProviderRecord) (catalogs : List ModelCatalog) : LegacyLookup where
  providers := Fields.ofList (providers.map fun p => (p.name, p))
  catalogs := Fields.ofList (catalogs.map fun c => (c.provider, modelTable c))

/-- The provider of a name. -/
def provider? (l : LegacyLookup) (name : String) : Option ProviderRecord :=
  l.providers.lookup name

/-- The entry of a model in the catalog of a provider. -/
def catalogEntry? (l : LegacyLookup) (provider model : String) : Option CatalogModel :=
  (l.catalogs.lookup provider).bind (·.lookup model)

end LegacyLookup

namespace SimplifiedConfig

/-- The flat record of a config under an identity, at a time. -/
def merge (lookup : LegacyLookup) (now : DateTime) (id : ObjectId) (c : LegacyConfig) :
    SimplifiedConfig :=
  let provider := lookup.provider? c.provider
  let entry := lookup.catalogEntry? c.provider c.modelName
  { id := id
    provider := c.provider
    providerName := (provider.bind fun p => Text.nonBlank p.displayName).getD c.provider
    modelName := c.modelName
    modelDisplayName :=
      (Text.nonBlank c.modelDisplayName
        <|> entry.bind fun m => Text.nonBlank m.displayName).getD c.modelName
    apiKey := Text.nonBlank c.apiKey <|> provider.bind fun p => Text.nonBlank p.apiKey
    apiBase := Text.nonBlank c.apiBase <|> provider.bind fun p => Text.nonBlank p.defaultBaseUrl
    maxTokens := (c.maxTokens.bind Bson.toInt64?).getD Defaults.maxTokens
    temperature := (c.temperature.bind Bson.toDouble?).getD Defaults.temperature
    timeout := (c.timeout.bind Bson.toInt64?).getD Defaults.timeout
    enabled := (c.enabled.bind Bson.toBool?).getD true
    isDefault := false
    inputPrice := entry.bind fun m => m.inputPrice.bind Bson.toDouble?
    outputPrice := entry.bind fun m => m.outputPrice.bind Bson.toDouble?
    currency := (entry.bind fun m => Text.nonBlank m.currency).getD Defaults.currency
    capabilities := (entry.bind (·.capabilities)).getD []
    suitableFor := c.suitableRoles.getD []
    description := c.description
    createdAt := (c.createdAt.filter fun v => !v.isNull).getD (.dateTime now)
    updatedAt := now }

/-- The records with the first enabled one marked as default, and no other. -/
def assignDefault : List SimplifiedConfig → List SimplifiedConfig
  | [] => []
  | r :: rest =>
    if r.enabled then { r with isDefault := true } :: rest.map ({ · with isDefault := false })
    else { r with isDefault := false } :: assignDefault rest

/-- The provider and model of a record in one text. -/
def label (r : SimplifiedConfig) : String := r.provider ++ "/" ++ r.modelName

end SimplifiedConfig

end ProviderRegistry
