/-
# `Defaults` — what is taken where nothing is configured

The tuning and model of a config that names none, the model that goes with
each known provider, and the providers that the environment alone can
configure.
-/
import ProviderRegistry.Number.Double
import ProviderRegistry.Text.Blank

namespace ProviderRegistry

namespace Defaults

/-- The model of a provider that is not known. -/
def model : String := "gpt-4o"

/-- The temperature of a config that gives none. -/
def temperature : Double := Double.sevenTenths

/-- The greatest number of tokens of a config that gives none. -/
def maxTokens : Int64 := 4000

/-- The timeout, in seconds, of a config that gives none. -/
def timeout : Int64 := 180

/-- The currency of a price that gives none. -/
def currency : String := "CNY"

/-- The provider of an embedded config that names none. -/
def provider : String := "openai"

/-- The models of the known providers, by provider key. -/
def providerModels : List (String × String) := [
  ("openai", "gpt-4o"),
  ("deepseek", "deepseek-chat"),
  ("google", "gemini-2.0-flash"),
  ("dashscope", "qwen-plus"),
  ("anthropic", "claude-3-5-sonnet-20241022"),
  ("gemini", "gemini-2.0-flash"),
  ("zhipu", "glm-4"),
  ("qwen", "qwen-plus"),
  ("302ai", "gpt-4o"),
  ("openrouter", "openai/gpt-4o")]

/-- The key under which a provider name is compared: without white space at its ends and in
ASCII lower case. -/
def providerKey (provider : String) : String :=
  Text.asciiLower (Text.trim provider)

/-- The model that goes with a provider name. -/
def modelFor (provider : String) : String :=
  (providerModels.lookup (providerKey provider)).getD model

end Defaults

/-- A provider that environment variables alone can configure. -/
structure EnvProvider where
  provider : String
  /-- What the names of its variables begin with. -/
  stem : String
  baseUrl : String
  model : String

namespace EnvProvider

/-- The variable that holds the key; without it the provider is not configured. -/
def apiKeyVar (p : EnvProvider) : String := p.stem ++ "_API_KEY"

/-- The variable that holds another address than the usual one. -/
def baseUrlVar (p : EnvProvider) : String := p.stem ++ "_BASE_URL"

/-- The variable that holds another model than the usual one. -/
def modelVar (p : EnvProvider) : String := p.stem ++ "_MODEL"

/-- The providers looked for in the environment, in the order of the result. -/
def all : List EnvProvider := [
  ⟨"openai", "OPENAI", "https://api.openai.com/v1", "gpt-4o"⟩,
  ⟨"deepseek", "DEEPSEEK", "https://api.deepseek.com", "deepseek-chat"⟩,
  ⟨"google", "GOOGLE", "https://generativelanguage.googleapis.com/v1beta", "gemini-2.0-flash"⟩,
  ⟨"dashscope", "DASHSCOPE", "https://dashscope.aliyuncs.com/compatible-mode/v1", "qwen-plus"⟩,
  ⟨"anthropic", "ANTHROPIC", "https://api.anthropic.com", "claude-3-5-sonnet-20241022"⟩]

end EnvProvider

end ProviderRegistry
