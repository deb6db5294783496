/-
# `Record.SystemConfig` — the older store of configs inside one system document

A system document embeds a list of config entries and the operators' model
preferences.  The entries are kept as documents until they are asked for, so
that one bad entry costs no other.  An entry knows several names for the same
field; where both stand, the first that is not blank is taken.
-/
import ProviderRegistry.Bson.Decode
import ProviderRegistry.Bson.Lenient
import ProviderRegistry.LlmConfig

namespace ProviderRegistry

/-- The model preferences of a system document. -/
structure SystemSettings where
  deepModel : Option String
  quickModel : Option String
deriving Inhabited

/-- A stored system document. -/
structure SystemConfig where
  isActive : Option Bson
  entries : List Document
  settings : Option SystemSettings
deriving Inhabited

/-- A config embedded in a system document. -/
structure ConfigEntry where
  provider : Option String
  name : Option String
  model : Option String
  modelName : Option String
  apiKey : Option String
  baseUrl : Option String
  apiBase : Option String
  defaultBaseUrl : Option String
  temperature : Option Bson
  maxTokens : Option Bson
  timeout : Option Bson
  enabled : Option Bson
  isActive : Option Bson
deriving Inhabited

namespace SystemSettings

open RecordFormat Decode in
/-- The fields of the model preferences. -/
def format : RecordFormat SystemSettings where
  name := "SystemSettings"
  blank := ⟨none, none⟩
  fields := [
    field "deep_analysis_model" (optional text) fun v r => { r with deepModel := v },
    field "quick_analysis_model" (optional text) fun v r => { r with quickModel := v }]

/-- The preferred model: that for deep analysis where one is stored, else that for quick analysis;
a blank one is no preference. -/
def preferredModel (s : SystemSettings) : Option String :=
  Text.nonBlank (s.deepModel <|> s.quickModel)

/-- The preferences on inspection. -/
def inspect (s : SystemSettings) : String :=
  Inspect.record "SystemSettings" [
    ("deep_analysis_model", Inspect.option Inspect.text s.deepModel),
    ("quick_analysis_model", Inspect.option Inspect.text s.quickModel)]

end SystemSettings

namespace SystemConfig

open RecordFormat Decode in
/-- The fields of a system document. -/
def format : RecordFormat SystemConfig where
  name := "SystemConfigDocument"
  blank := ⟨none, [], none⟩
  fields := [
    field "is_active" (optional anything) fun v r => { r with isActive := v },
    field "llm_configs" (list document) fun v r => { r with entries := v },
    field "system_settings" (optional SystemSettings.format.read)
      fun v r => { r with settings := v }]

/-- The system document that a document stands for. -/
def decode (d : Document) : Decoded SystemConfig := format.decode d

/-- The preferred model of a system document. -/
def preferredModel (s : SystemConfig) : Option String :=
  s.settings.bind SystemSettings.preferredModel

/-- The system document on inspection.  Its entries hold keys, so only their number is shown. -/
def inspect (s : SystemConfig) : String :=
  Inspect.record "SystemConfigDocument" [
    ("is_active", Inspect.option Bson.inspect s.isActive),
    ("llm_configs", toString s.entries.length),
    ("system_settings", Inspect.option SystemSettings.inspect s.settings)]

end SystemConfig

namespace ConfigEntry

/-- The entry of a document without fields. -/
def blank : ConfigEntry :=
  ⟨none, none, none, none, none, none, none, none, none, none, none, none, none⟩

open RecordFormat Decode in
/-- The fields of an entry. -/
def format : RecordFormat ConfigEntry where
  name := "LegacyConfigEntry"
  blank := blank
  fields := [
    field "provider" (optional text) fun v r => { r with provider := v },
    field "name" (optional text) fun v r => { r with name := v },
    field "model" (optional text) fun v r => { r with model := v },
    field "model_name" (optional text) fun v r => { r with modelName := v },
    field "api_key" (optional text) fun v r => { r with apiKey := v },
    field "base_url" (optional text) fun v r => { r with baseUrl := v },
    field "api_base" (optional text) fun v r => { r with apiBase := v },
    field "default_base_url" (optional text) fun v r => { r with defaultBaseUrl := v },
    field "temperature" (optional anything) fun v r => { r with temperature := v },
    field "max_tokens" (optional anything) fun v r => { r with maxTokens := v },
    field "timeout" (optional anything) fun v r => { r with timeout := v },
    field "enabled" (optional anything) fun v r => { r with enabled := v },
    field "is_active" (optional anything) fun v r => { r with isActive := v }]

/-- The entry that a document stands for. -/
def decode (d : Document) : Decoded ConfigEntry := format.decode d

/-- Whether the entry is in use, by the first of its two flags that can be read. -/
def inUse (e : ConfigEntry) : Bool :=
  (e.enabled.bind Bson.toBool? <|> e.isActive.bind Bson.toBool?).getD true

/-- The config of an entry. -/
def toConfig (e : ConfigEntry) : LlmConfig :=
  let provider := (Text.nonBlank e.provider <|> Text.nonBlank e.name).getD Defaults.provider
  let model := (Text.nonBlank e.model <|> Text.nonBlank e.modelName).getD Defaults.model
  let tuned := (LlmConfig.new provider model).tuned (e.temperature.bind Bson.toDouble?)
    (e.maxTokens.bind Bson.toInt64?) (e.timeout.bind Bson.toInt64?)
  { tuned with
    enabled := e.inUse
    apiKey := Text.nonBlank e.apiKey
    baseUrl := Text.nonBlank e.baseUrl <|> Text.nonBlank e.apiBase
      <|> Text.nonBlank e.defaultBaseUrl }

/-- The entry on inspection; its key is masked. -/
def inspect (e : ConfigEntry) : String :=
  Inspect.record "LegacyConfigEntry" [
    ("provider", Inspect.option Inspect.text e.provider),
    ("name", Inspect.option Inspect.text e.name),
    ("model", Inspect.option Inspect.text e.model),
    ("model_name", Inspect.option Inspect.text e.modelName),
    ("api_key", Inspect.option Inspect.text (e.apiKey.map ApiKey.mask)),
    ("base_url", Inspect.option Inspect.text e.baseUrl),
    ("api_base", Inspect.option Inspect.text e.apiBase),
    ("default_base_url", Inspect.option Inspect.text e.defaultBaseUrl),
    ("temperature", Inspect.option Bson.inspect e.temperature),
    ("max_tokens", Inspect.option Bson.inspect e.maxTokens),
    ("timeout", Inspect.option Bson.inspect e.timeout),
    ("enabled", Inspect.option Bson.inspect e.enabled),
    ("is_active", Inspect.option Bson.inspect e.isActive)]

end ConfigEntry

end ProviderRegistry
