/-
# `Resolution` — where configs come from

Three sources are asked in turn, and the first that has a config supplies all
of them: the active provider records, the enabled entries of the active system
document, and the environment.  A source that cannot be read counts as empty,
and a record that does not decode is passed over, so resolving never fails.
-/
import ProviderRegistry.Environment
import ProviderRegistry.Record.Provider
import ProviderRegistry.Record.SystemConfig
import ProviderRegistry.Store.Collections
import ProviderRegistry.Store.Script

namespace ProviderRegistry

namespace Resolution

/-- The filter for active documents. -/
def activeOnly : Document := ⟨[("is_active", .boolean true)]⟩

/-- The members that decode. -/
def decodable {α : Type} (decode : Document → Decoded α) (documents : List Document) : List α :=
  documents.filterMap fun d => (decode d).toOption

/-- The first active system document, if there is one. -/
def systemConfig : Script (Option SystemConfig) := do
  match ← Script.findFirst Collections.systemConfigs activeOnly with
  | some d => some <$> Script.ofDecoded (SystemConfig.decode d)
  | none => pure none

/-- The model preferred in the system document; none where it cannot be read. -/
def preferredModel : Script (Option String) := do
  match ← systemConfig.attempt with
  | .ok system => pure (system.bind SystemConfig.preferredModel)
  | .error _ => pure none

/-- The configs of the active provider records.  The preferred model is looked up only when a
record names no model, and then once. -/
def fromProviders : Script (List LlmConfig) := do
  let documents ← Script.find Collections.providers activeOnly
  let records := decodable ProviderRecord.decode documents
  let preferred ←
    if records.any (·.explicitModel.isNone) then preferredModel else pure none
  return records.map (·.toConfig preferred)

/-- The configs of the enabled entries of the active system document. -/
def fromSystem : Script (List LlmConfig) := do
  match ← systemConfig with
  | some system =>
    return ((decodable ConfigEntry.decode system.entries).filter (·.inUse)).map (·.toConfig)
  | none => return []

/-- The config of a provider whose key is in the environment. -/
def ofEnvProvider (env : Environment) (p : EnvProvider) : Option LlmConfig :=
  (env.configured p.apiKeyVar).map fun key =>
    { LlmConfig.new p.provider (env.getOr p.modelVar p.model) with
      apiKey := some key
      baseUrl := some (env.getOr p.baseUrlVar p.baseUrl) }

/-- The configs of the environment. -/
def fromEnvironment (env : Environment) : List LlmConfig :=
  EnvProvider.all.filterMap (ofEnvProvider env)

/-- What a source has; one that fails has nothing. -/
def orNothing (source : Script (List LlmConfig)) : Script (List LlmConfig) := do
  match ← source.attempt with
  | .ok configs => pure configs
  | .error _ => pure []

/-- The configs of the first source that has any. -/
def load (env : Environment) : Script (List LlmConfig) := do
  let stored ← orNothing fromProviders
  if !stored.isEmpty then return stored
  let embedded ← orNothing fromSystem
  if !embedded.isEmpty then return embedded
  return fromEnvironment env

end Resolution

end ProviderRegistry
