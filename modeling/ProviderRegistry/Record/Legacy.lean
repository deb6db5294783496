/-
# `Record.Legacy` — the collections that a migration reads

Model catalogs, one per provider, and the configs of single models.
-/
import ProviderRegistry.ApiKey
import ProviderRegistry.Bson.Decode

namespace ProviderRegistry

/-- A model in a catalog. -/
structure CatalogModel where
  name : String
  displayName : Option String
  inputPrice : Option Bson
  outputPrice : Option Bson
  currency : Option String
  capabilities : Option (List String)
deriving Inhabited

/-- The models of one provider. -/
structure ModelCatalog where
  provider : String
  models : List CatalogModel
deriving Inhabited

/-- The config of one model, in the older form. -/
structure LegacyConfig where
  provider : String
  modelName : String
  modelDisplayName : Option String
  apiKey : Option String
  apiBase : Option String
  maxTokens : Option Bson
  temperature : Option Bson
  timeout : Option Bson
  enabled : Option Bson
  suitableRoles : Option (List String)
  description : Option String
  createdAt : Option Bson
deriving Inhabited

namespace CatalogModel

open RecordFormat Decode in
/-- The fields of a catalog's model. -/
def format : RecordFormat CatalogModel where
  name := "CatalogModel"
  blank := ⟨"", none, none, none, none, none⟩
  fields := [
    field "name" text fun v r => { r with name := v },
    field "display_name" (optional text) fun v r => { r with displayName := v },
    field "input_price_per_1k" (optional anything) fun v r => { r with inputPrice := v },
    field "output_price_per_1k" (optional anything) fun v r => { r with outputPrice := v },
    field "currency" (optional text) fun v r => { r with currency := v },
    field "capabilities" (optional (list text)) fun v r => { r with capabilities := v }]

end CatalogModel

namespace ModelCatalog

open RecordFormat Decode in
/-- The fields of a catalog. -/
def format : RecordFormat ModelCatalog where
  name := "ModelCatalogDocument"
  blank := ⟨"", []⟩
  fields := [
    field "provider" text fun v r => { r with provider := v },
    field "models" (list CatalogModel.format.read) fun v r => { r with models := v }]

/-- The catalog that a document stands for. -/
def decode (d : Document) : Decoded ModelCatalog := format.decode d

end ModelCatalog

namespace LegacyConfig

/-- The config of a document without fields. -/
def blank : LegacyConfig :=
  ⟨"", "", none, none, none, none, none, none, none, none, none, none⟩

open RecordFormat Decode in
/-- The fields of a model's config. -/
def format : RecordFormat LegacyConfig where
  name := "LegacyLlmConfig"
  blank := blank
  fields := [
    field "provider" text fun v r => { r with provider := v },
    field "model_name" text fun v r => { r with modelName := v },
    field "model_display_name" (optional text) fun v r => { r with modelDisplayName := v },
    field "api_key" (optional text) fun v r => { r with apiKey := v },
    field "api_base" (optional text) fun v r => { r with apiBase := v },
    field "max_tokens" (optional anything) fun v r => { r with maxTokens := v },
    field "temperature" (optional anything) fun v r => { r with temperature := v },
    field "timeout" (optional anything) fun v r => { r with timeout := v },
    field "enabled" (optional anything) fun v r => { r with enabled := v },
    field "suitable_roles" (optional (list text)) fun v r => { r with suitableRoles := v },
    field "description" (optional text) fun v r => { r with description := v },
    field "created_at" (optional anything) fun v r => { r with createdAt := v }]

/-- The config that a document stands for. -/
def decode (d : Document) : Decoded LegacyConfig := format.decode d

/-- The config on inspection; its key is masked. -/
def inspect (c : LegacyConfig) : String :=
  Inspect.record "LegacyLlmConfig" [
    ("provider", Inspect.text c.provider),
    ("model_name", Inspect.text c.modelName),
    ("model_display_name", Inspect.option Inspect.text c.modelDisplayName),
    ("api_key", Inspect.option Inspect.text (c.apiKey.map ApiKey.mask)),
    ("api_base", Inspect.option Inspect.text c.apiBase),
    ("max_tokens", Inspect.option Bson.inspect c.maxTokens),
    ("temperature", Inspect.option Bson.inspect c.temperature),
    ("timeout", Inspect.option Bson.inspect c.timeout),
    ("enabled", Inspect.option Bson.inspect c.enabled),
    ("suitable_roles", Inspect.option Inspect.texts c.suitableRoles),
    ("description", Inspect.option Inspect.text c.description),
    ("created_at", Inspect.option Bson.inspect c.createdAt)]

end LegacyConfig

end ProviderRegistry
