/-
# `Record.Simplified` — the flat record of one provider and model

What a migration writes: everything about a config in one document.  No field
has a default.  A document is read into a draft, field by field, and the draft
is a record when nothing that must be there is missing; an optional field that
is missing is absent.
-/
import ProviderRegistry.ApiKey
import ProviderRegistry.Bson.Decode

namespace ProviderRegistry

/-- A provider and model in one record. -/
structure SimplifiedConfig where
  id : ObjectId
  provider : String
  providerName : String
  modelName : String
  modelDisplayName : String
  apiKey : Option String
  apiBase : Option String
  maxTokens : Int64
  temperature : Double
  timeout : Int64
  enabled : Bool
  isDefault : Bool
  inputPrice : Option Double
  outputPrice : Option Double
  currency : String
  capabilities : List String
  suitableFor : List String
  description : Option String
  createdAt : Bson
  updatedAt : DateTime

namespace SimplifiedConfig

/-- What has been read of a record so far. -/
structure Draft where
  id : Option ObjectId := none
  provider : Option String := none
  providerName : Option String := none
  modelName : Option String := none
  modelDisplayName : Option String := none
  apiKey : Option String := none
  apiBase : Option String := none
  maxTokens : Option Int64 := none
  temperature : Option Double := none
  timeout : Option Int64 := none
  enabled : Option Bool := none
  isDefault : Option Bool := none
  inputPrice : Option Double := none
  outputPrice : Option Double := none
  currency : Option String := none
  capabilities : Option (List String) := none
  suitableFor : Option (List String) := none
  description : Option String := none
  createdAt : Option Bson := none
  updatedAt : Option DateTime := none

open RecordFormat Decode in
/-- The fields of a record, read into a draft. -/
def format : RecordFormat Draft where
  name := "SimplifiedLlmConfig"
  blank := {}
  fields := [
    field "_id" identity fun v r => { r with id := some v },
    field "provider" text fun v r => { r with provider := some v },
    field "provider_name" text fun v r => { r with providerName := some v },
    field "model_name" text fun v r => { r with modelName := some v },
    field "model_display_name" text fun v r => { r with modelDisplayName := some v },
    field "api_key" (optional text) fun v r => { r with apiKey := v },
    field "api_base" (optional text) fun v r => { r with apiBase := v },
    field "max_tokens" integer fun v r => { r with maxTokens := some v },
    field "temperature" number fun v r => { r with temperature := some v },
    field "timeout" integer fun v r => { r with timeout := some v },
    field "enabled" flag fun v r => { r with enabled := some v },
    field "is_default" flag fun v r => { r with isDefault := some v },
    field "input_price" (optional number) fun v r => { r with inputPrice := v },
    field "output_price" (optional number) fun v r => { r with outputPrice := v },
    field "currency" text fun v r => { r with currency := some v },
    field "capabilities" (list text) fun v r => { r with capabilities := some v },
    field "suitable_for" (list text) fun v r => { r with suitableFor := some v },
    field "description" (optional text) fun v r => { r with description := v },
    field "created_at" anything fun v r => { r with createdAt := some v },
    field "updated_at" date fun v r => { r with updatedAt := some v }]

open RecordFormat in
/-- The record of a draft; the first missing field, in order, is the error. -/
def Draft.finish (d : Draft) : Decoded SimplifiedConfig := do
  let id ← need "_id" d.id
  let provider ← need "provider" d.provider
  let providerName ← need "provider_name" d.providerName
  let modelName ← need "model_name" d.modelName
  let modelDisplayName ← need "model_display_name" d.modelDisplayName
  let maxTokens ← need "max_tokens" d.maxTokens
  let temperature ← need "temperature" d.temperature
  let timeout ← need "timeout" d.timeout
  let enabled ← need "enabled" d.enabled
  let isDefault ← need "is_default" d.isDefault
  let currency ← need "currency" d.currency
  let capabilities ← need "capabilities" d.capabilities
  let suitableFor ← need "suitable_for" d.suitableFor
  let createdAt ← need "created_at" d.createdAt
  let updatedAt ← need "updated_at" d.updatedAt
  pure {
    id, provider, providerName, modelName, modelDisplayName
    apiKey := d.apiKey
    apiBase := d.apiBase
    maxTokens, temperature, timeout, enabled, isDefault
    inputPrice := d.inputPrice
    outputPrice := d.outputPrice
    currency, capabilities, suitableFor
    description := d.description
    createdAt, updatedAt }

/-- The record that a document stands for. -/
def decode (d : Document) : Decoded SimplifiedConfig :=
  format.decode d >>= Draft.finish

/-- The document of a record: all fields, in order. -/
def encode (r : SimplifiedConfig) : Document :=
  ⟨[("_id", .objectId r.id),
    ("provider", .string r.provider),
    ("provider_name", .string r.providerName),
    ("model_name", .string r.modelName),
    ("model_display_name", .string r.modelDisplayName),
    ("api_key", Bson.ofOption .string r.apiKey),
    ("api_base", Bson.ofOption .string r.apiBase),
    ("max_tokens", .int64 r.maxTokens),
    ("temperature", .double r.temperature),
    ("timeout", .int64 r.timeout),
    ("enabled", .boolean r.enabled),
    ("is_default", .boolean r.isDefault),
    ("input_price", Bson.ofOption .double r.inputPrice),
    ("output_price", Bson.ofOption .double r.outputPrice),
    ("currency", .string r.currency),
    ("capabilities", .array (r.capabilities.map .string)),
    ("suitable_for", .array (r.suitableFor.map .string)),
    ("description", Bson.ofOption .string r.description),
    ("created_at", r.createdAt),
    ("updated_at", .dateTime r.updatedAt)]⟩

/-- The fields whose absence shows that a document is no record of this kind. -/
def requiredFields : List String :=
  ["provider", "provider_name", "model_name", "model_display_name"]

/-- The record on inspection; its key is masked. -/
def inspect (r : SimplifiedConfig) : String :=
  Inspect.record "SimplifiedLlmConfig" [
    ("id", Bson.inspect (.objectId r.id)),
    ("provider", Inspect.text r.provider),
    ("provider_name", Inspect.text r.providerName),
    ("model_name", Inspect.text r.modelName),
    ("model_display_name", Inspect.text r.modelDisplayName),
    ("api_key", Inspect.option Inspect.text (r.apiKey.map ApiKey.mask)),
    ("api_base", Inspect.option Inspect.text r.apiBase),
    ("max_tokens", toString r.maxTokens.toInt),
    ("temperature", Inspect.number r.temperature),
    ("timeout", toString r.timeout.toInt),
    ("enabled", Inspect.flag r.enabled),
    ("is_default", Inspect.flag r.isDefault),
    ("input_price", Inspect.option Inspect.number r.inputPrice),
    ("output_price", Inspect.option Inspect.number r.outputPrice),
    ("currency", Inspect.text r.currency),
    ("capabilities", Inspect.texts r.capabilities),
    ("suitable_for", Inspect.texts r.suitableFor),
    ("description", Inspect.option Inspect.text r.description),
    ("created_at", r.createdAt.inspect),
    ("updated_at", Bson.inspect (.dateTime r.updatedAt))]

end SimplifiedConfig

end ProviderRegistry
