/-
# `Execution.Settings` — the settings under which an application runs its models

A mapping of names to values, in order.  The baseline comes from the
environment or from outside; the active config, if there is one, is projected
onto it by setting the eight entries that name provider, model, address and
key for deep and for quick use alike.
-/
import ProviderRegistry.Environment
import ProviderRegistry.Json.Value
import ProviderRegistry.LlmConfig
import ProviderRegistry.Text.Upper

namespace ProviderRegistry

/-- Settings by name, in order. -/
structure Settings where
  entries : List (String × Json)
deriving Inhabited

namespace Settings

/-- The settings of a list of entries; a repeated name keeps its first place and its last value. -/
def ofList (entries : List (String × Json)) : Settings := ⟨Fields.ofList entries⟩

/-- The value of a setting. -/
def get? (s : Settings) (name : String) : Option Json := s.entries.lookup name

/-- The variable that holds the key of a provider. -/
def keyVariable (provider : String) : String := Text.upper provider ++ "_API_KEY"

/-- The baseline of an environment. -/
def ofEnvironment (env : Environment) : Settings :=
  let provider := env.getOr "LLM_PROVIDER" "openai"
  let key := Json.ofOption .string (env.configured (keyVariable provider))
  ⟨[("llm_provider", .string provider),
    ("deep_think_llm", .string (env.getOr "DEEP_THINK_LLM" "o4-mini")),
    ("quick_think_llm", .string (env.getOr "QUICK_THINK_LLM" "gpt-4o-mini")),
    ("backend_url", .string (env.getOr "LLM_BACKEND_URL" "https://api.openai.com/v1")),
    ("deep_provider", .string provider),
    ("quick_provider", .string provider),
    ("deep_api_key", key),
    ("quick_api_key", key),
    ("temperature", .number Defaults.temperature),
    ("max_tokens", .integer Defaults.maxTokens.toInt),
    ("timeout", .integer Defaults.timeout.toInt),
    ("max_debate_rounds", .integer 1),
    ("max_risk_discuss_rounds", .integer 1),
    ("online_tools", .bool true)]⟩

/-- The entries that an active config sets. -/
def overrides (active : LlmConfig) : List (String × Json) :=
  let key := Json.ofOption .string active.apiKey
  [("llm_provider", .string active.provider),
    ("deep_think_llm", .string active.model),
    ("quick_think_llm", .string active.model),
    ("backend_url", .string (active.baseUrl.getD "")),
    ("deep_provider", .string active.provider),
    ("quick_provider", .string active.provider),
    ("deep_api_key", key),
    ("quick_api_key", key)]

/-- The settings with the active config projected onto them. -/
def project (s : Settings) (active : Option LlmConfig) : Settings :=
  match active with
  | some config => ⟨Fields.setAll s.entries (overrides config)⟩
  | none => s

/-- A setting on inspection: the text of a key is masked. -/
def inspectEntry (entry : String × Json) : String × String :=
  match entry with
  | (name, .string s) =>
    (name, Json.inspect (.string (if Text.endsIn name "api_key" then ApiKey.mask s else s)))
  | (name, value) => (name, value.inspect)

/-- The settings on inspection. -/
def inspect (s : Settings) : String :=
  Inspect.record "ExecutionBaseline" [("settings", Inspect.map (s.entries.map inspectEntry))]

end Settings

end ProviderRegistry
