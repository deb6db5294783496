/-
# `LlmConfig` — one resolved provider and model

The shape in which every config is handed out, whichever collection or
variable it came from: a trimmed provider name, a model, an optional key and
address, and a tuning that is always within its limits.
-/
import ProviderRegistry.ApiKey
import ProviderRegistry.Defaults
import ProviderRegistry.Text.Inspect

namespace ProviderRegistry

/-- A provider and model set up for use. -/
structure LlmConfig where
  provider : String
  model : String
  apiKey : Option String
  baseUrl : Option String
  temperature : Double
  maxTokens : UInt32
  timeout : UInt32
  enabled : Bool
deriving DecidableEq, Inhabited

namespace LlmConfig

/-- An integer held between 1 and the greatest number of 32 bits. -/
def clampPositive (n : Int64) : UInt32 :=
  UInt32.ofNat (max 1 (min n.toInt 4294967295)).toNat

/-- A temperature for use: the default unless it is finite, held between 0 and 2. -/
def clampTemperature (t : Option Double) : Double :=
  ((t.filter Double.isFinite).getD Defaults.temperature).clamp (Double.zero false) Double.two

/-- An enabled config with the default tuning, no key and no address. -/
def new (provider model : String) : LlmConfig where
  provider := Text.trim provider
  model := model
  apiKey := none
  baseUrl := none
  temperature := Defaults.temperature
  maxTokens := clampPositive Defaults.maxTokens
  timeout := clampPositive Defaults.timeout
  enabled := true

/-- The config with a tuning taken over where it is given, and held within its limits. -/
def tuned (c : LlmConfig) (temperature : Option Double) (maxTokens timeout : Option Int64) :
    LlmConfig :=
  { c with
    temperature := clampTemperature temperature
    maxTokens := clampPositive (maxTokens.getD Defaults.maxTokens)
    timeout := clampPositive (timeout.getD Defaults.timeout) }

/-- The key under which the config's provider is compared. -/
def providerKey (c : LlmConfig) : String := Text.asciiLower c.provider

/-- Whether the config belongs to a provider, whatever the case of its ASCII letters and the
white space around its name. -/
def matchesProvider (c : LlmConfig) (provider : String) : Bool :=
  c.providerKey == Defaults.providerKey provider

/-- The key as it may be shown. -/
def maskedKey (c : LlmConfig) : Option String := c.apiKey.map ApiKey.mask

/-- The config on inspection; its key is masked. -/
def inspect (c : LlmConfig) : String :=
  Inspect.record "CanonicalLlmConfig" [
    ("provider", Inspect.text c.provider),
    ("model", Inspect.text c.model),
    ("api_key", Inspect.option Inspect.text c.maskedKey),
    ("base_url", Inspect.option Inspect.text c.baseUrl),
    ("temperature", Inspect.number c.temperature),
    ("max_tokens", toString c.maxTokens.toNat),
    ("timeout", toString c.timeout.toNat),
    ("enabled", Inspect.flag c.enabled)]

/-! ## Choosing among configs -/

/-- The active config: the first enabled one. -/
def firstEnabled (configs : List LlmConfig) : Option LlmConfig :=
  configs.find? (·.enabled)

/-- The first enabled config of a provider. -/
def findByProvider (configs : List LlmConfig) (provider : String) : Option LlmConfig :=
  configs.find? fun c => c.matchesProvider provider && c.enabled

end LlmConfig

end ProviderRegistry
