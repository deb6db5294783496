/-
# `Execution.Request` — what is handed to a model

The arguments of one call to a model, full key included, and a stand-in for
whatever makes the call: it answers always the same and remembers what it was
asked.  The written forms of configs and requests show a masked key or none.
-/
import ProviderRegistry.Error
import ProviderRegistry.Json.Value
import ProviderRegistry.LlmConfig

namespace ProviderRegistry

/-- The arguments of a call to a model. -/
structure ExecutionRequest where
  provider : String
  model : String
  baseUrl : Option String
  apiKey : Option String
  temperature : Double
  maxTokens : UInt32
  timeout : UInt32
deriving DecidableEq, Inhabited

namespace LlmConfig

/-- The arguments with which a config calls its model. -/
def toRequest (c : LlmConfig) : ExecutionRequest :=
  ⟨c.provider, c.model, c.baseUrl, c.apiKey, c.temperature, c.maxTokens, c.timeout⟩

/-- The config as a value; its key is masked. -/
def toJson (c : LlmConfig) : Json :=
  .object [
    ("provider", .string c.provider),
    ("model", .string c.model),
    ("api_key", Json.ofOption .string c.maskedKey),
    ("base_url", Json.ofOption .string c.baseUrl),
    ("temperature", .number c.temperature),
    ("max_tokens", .ofNat c.maxTokens.toNat),
    ("timeout", .ofNat c.timeout.toNat),
    ("enabled", .bool c.enabled)]

end LlmConfig

namespace ExecutionRequest

/-- The request as a value, without its key. -/
def toJson (r : ExecutionRequest) : Json :=
  .object [
    ("provider", .string r.provider),
    ("model", .string r.model),
    ("base_url", Json.ofOption .string r.baseUrl),
    ("temperature", .number r.temperature),
    ("max_tokens", .ofNat r.maxTokens.toNat),
    ("timeout", .ofNat r.timeout.toNat)]

/-- The request on inspection; its key is masked. -/
def inspect (r : ExecutionRequest) : String :=
  Inspect.record "ExecutionRequest" [
    ("provider", Inspect.text r.provider),
    ("model", Inspect.text r.model),
    ("base_url", Inspect.option Inspect.text r.baseUrl),
    ("api_key", Inspect.option Inspect.text (r.apiKey.map ApiKey.mask)),
    ("temperature", Inspect.number r.temperature),
    ("max_tokens", toString r.maxTokens.toNat),
    ("timeout", toString r.timeout.toNat)]

end ExecutionRequest

/-- A stand-in for the capability that calls models: one reply or one failure for all calls, and
the calls so far. -/
structure Rehearsal where
  /-- The reply to every call, or the reason for which every call fails. -/
  outcome : Except String String
  calls : List (ExecutionRequest × String)

namespace Rehearsal

/-- A call: its outcome, and the stand-in that remembers it. -/
def invoke (r : Rehearsal) (request : ExecutionRequest) (prompt : String) :
    Outcome String × Rehearsal :=
  (r.outcome.mapError .execution, { r with calls := r.calls ++ [(request, prompt)] })

end Rehearsal

end ProviderRegistry
