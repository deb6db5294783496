/-
# `Record.Provider` — one document of the provider collection

The record as it is stored, how it is read and written, and the config it
resolves to.  Its tuning and flags may stand in any form that the lenient
readers take.
-/
import ProviderRegistry.Bson.Decode
import ProviderRegistry.Bson.Lenient
import ProviderRegistry.LlmConfig

namespace ProviderRegistry

/-- The further settings of a provider record. -/
structure ExtraConfig where
  defaultModel : Option String
deriving Inhabited

/-- A stored provider. -/
structure ProviderRecord where
  id : Option Bson
  name : String
  displayName : Option String
  model : Option String
  extraConfig : Option ExtraConfig
  apiKey : Option String
  baseUrl : Option String
  defaultBaseUrl : Option String
  temperature : Option Bson
  maxTokens : Option Bson
  timeout : Option Bson
  enabled : Option Bson
  isActive : Option Bson
  createdAt : Option Bson
  updatedAt : Option Bson
deriving Inhabited

namespace ExtraConfig

open RecordFormat Decode in
/-- The fields of the further settings. -/
def format : RecordFormat ExtraConfig where
  name := "ProviderExtraConfig"
  blank := ⟨none⟩
  fields := [field "default_model" (optional text) fun v r => { r with defaultModel := v }]

/-- The settings as a value. -/
def toBson (e : ExtraConfig) : Bson :=
  .document [("default_model", Bson.ofOption .string e.defaultModel)]

/-- The settings on inspection. -/
def inspect (e : ExtraConfig) : String :=
  Inspect.record "ProviderExtraConfig"
    [("default_model", Inspect.option Inspect.text e.defaultModel)]

end ExtraConfig

namespace ProviderRecord

/-- The record of a document without fields. -/
def blank : ProviderRecord :=
  ⟨none, "", none, none, none, none, none, none, none, none, none, none, none, none, none⟩

open RecordFormat Decode in
/-- The fields of a provider record. -/
def format : RecordFormat ProviderRecord where
  name := "ProviderDocument"
  blank := blank
  fields := [
    field "_id" (optional anything) fun v r => { r with id := v },
    field "name" text fun v r => { r with name := v },
    field "display_name" (optional text) fun v r => { r with displayName := v },
    field "model" (optional text) fun v r => { r with model := v },
    field "extra_config" (optional ExtraConfig.format.read) fun v r => { r with extraConfig := v },
    field "api_key" (optional text) fun v r => { r with apiKey := v },
    field "base_url" (optional text) fun v r => { r with baseUrl := v },
    field "default_base_url" (optional text) fun v r => { r with defaultBaseUrl := v },
    field "temperature" (optional anything) fun v r => { r with temperature := v },
    field "max_tokens" (optional anything) fun v r => { r with maxTokens := v },
    field "timeout" (optional anything) fun v r => { r with timeout := v },
    field "enabled" (optional anything) fun v r => { r with enabled := v },
    field "is_active" (optional anything) fun v r => { r with isActive := v },
    field "created_at" (optional anything) fun v r => { r with createdAt := v },
    field "updated_at" (optional anything) fun v r => { r with updatedAt := v }]

/-- The record that a document stands for. -/
def decode (d : Document) : Decoded ProviderRecord := format.decode d

/-- The document of a record: all fields in order, an identity only where there is one. -/
def encode (r : ProviderRecord) : Document :=
  ⟨(match r.id with
      | some identity => [("_id", identity)]
      | none => [])
    ++ [("name", .string r.name),
      ("display_name", Bson.ofOption .string r.displayName),
      ("model", Bson.ofOption .string r.model),
      ("extra_config", Bson.ofOption ExtraConfig.toBson r.extraConfig),
      ("api_key", Bson.ofOption .string r.apiKey),
      ("base_url", Bson.ofOption .string r.baseUrl),
      ("default_base_url", Bson.ofOption .string r.defaultBaseUrl),
      ("temperature", Bson.orNull r.temperature),
      ("max_tokens", Bson.orNull r.maxTokens),
      ("timeout", Bson.orNull r.timeout),
      ("enabled", Bson.orNull r.enabled),
      ("is_active", Bson.orNull r.isActive),
      ("created_at", Bson.orNull r.createdAt),
      ("updated_at", Bson.orNull r.updatedAt)]⟩

/-! ## What a record says -/

/-- The model named on the record itself, or else among its further settings. -/
def explicitModel (r : ProviderRecord) : Option String :=
  Text.nonBlank r.model <|> Text.nonBlank (r.extraConfig.bind (·.defaultModel))

/-- Whether the record is in use; it is, unless it says otherwise. -/
def active (r : ProviderRecord) : Bool :=
  (r.isActive.bind Bson.toBool?).getD true

/-- The identity of the record as a text. -/
def idText (r : ProviderRecord) : Option String := r.id.map Bson.idText

/-- The config of a record.  A record that names no model takes the given preference, and else the
model that goes with its provider name. -/
def toConfig (r : ProviderRecord) (preferred : Option String) : LlmConfig :=
  let model := (r.explicitModel <|> Text.nonBlank preferred).getD (Defaults.modelFor r.name)
  let tuned := (LlmConfig.new r.name model).tuned (r.temperature.bind Bson.toDouble?)
    (r.maxTokens.bind Bson.toInt64?) (r.timeout.bind Bson.toInt64?)
  { tuned with
    enabled := r.active
    apiKey := Text.nonBlank r.apiKey
    baseUrl := Text.nonBlank r.baseUrl <|> Text.nonBlank r.defaultBaseUrl }

/-- The record on inspection; its key is masked. -/
def inspect (r : ProviderRecord) : String :=
  Inspect.record "ProviderDocument" [
    ("id", Inspect.option Bson.inspect r.id),
    ("name", Inspect.text r.name),
    ("display_name", Inspect.option Inspect.text r.displayName),
    ("model", Inspect.option Inspect.text r.model),
    ("extra_config", Inspect.option ExtraConfig.inspect r.extraConfig),
    ("api_key", Inspect.option Inspect.text (r.apiKey.map ApiKey.mask)),
    ("base_url", Inspect.option Inspect.text r.baseUrl),
    ("default_base_url", Inspect.option Inspect.text r.defaultBaseUrl),
    ("temperature", Inspect.option Bson.inspect r.temperature),
    ("max_tokens", Inspect.option Bson.inspect r.maxTokens),
    ("timeout", Inspect.option Bson.inspect r.timeout),
    ("enabled", Inspect.option Bson.inspect r.enabled),
    ("is_active", Inspect.option Bson.inspect r.isActive),
    ("created_at", Inspect.option Bson.inspect r.createdAt),
    ("updated_at", Inspect.option Bson.inspect r.updatedAt)]

end ProviderRecord

end ProviderRegistry
