/-
# `Session` — a running registry

One database, one environment, one cached list of configs and one stand-in for
the models, and the operations that users and operators perform on them.  The
cached list is filled when configs are asked for and it is empty or stale, and
emptied after every successful edit or deletion; nothing else touches it.
-/
import ProviderRegistry.Admin.Probe
import ProviderRegistry.Execution.Settings
import ProviderRegistry.Migration.Steps
import ProviderRegistry.Store.Database

namespace ProviderRegistry

/-- The state of a running registry. -/
structure Session where
  database : Database
  environment : Environment
  cached : Option (List LlmConfig)
  invoker : Option Rehearsal

namespace Session

variable {α : Type}

/-- A registry over a database, with nothing cached. -/
def start (database : Database) (environment : Environment) (invoker : Option Rehearsal) :
    Session :=
  ⟨database, environment, none, invoker⟩

/-- A script run on the registry's database. -/
def run (s : Session) (script : Script α) : Outcome α × Session :=
  let (outcome, database) := script.run s.database
  (outcome, { s with database })

/-! ## The cached configs -/

/-- What the sources hold now, past the cache. -/
def load (s : Session) : List LlmConfig × Session :=
  let (outcome, s) := s.run (Resolution.load s.environment)
  (outcome.toOption.getD [], s)

/-- The registry with nothing cached. -/
def invalidate (s : Session) : Session := { s with cached := none }

/-- The configs: the cached list where it may be used and there is one, else a fresh one, which is
then cached. -/
def configs (s : Session) (useCache : Bool) : List LlmConfig × Session :=
  match (if useCache then s.cached else none) with
  | some list => (list, s)
  | none =>
    let (list, s) := s.load
    (list, { s with cached := some list })

/-- A fresh list in place of the cached one. -/
def reload (s : Session) : List LlmConfig × Session := s.invalidate.configs false

/-- The active config. -/
def active (s : Session) : Option LlmConfig × Session :=
  let (list, s) := s.configs true
  (LlmConfig.firstEnabled list, s)

/-- The first enabled config of a provider. -/
def byProvider (s : Session) (provider : String) : Option LlmConfig × Session :=
  let (list, s) := s.configs true
  (LlmConfig.findByProvider list provider, s)

/-- A baseline with the active config projected onto it. -/
def project (s : Session) (baseline : Settings) : Settings × Session :=
  let (config, s) := s.active
  (baseline.project config, s)

/-! ## Operators -/

/-- The provider records, by name. -/
def list (s : Session) (now : Moment) : Outcome (List ConfigView) × Session :=
  s.run (ConfigView.list now)

/-- A record created or changed.  The cache is emptied once the record is written. -/
def upsert (s : Session) (now : Moment) (e : ConfigEdit) : Outcome ConfigView × Session :=
  match s.run (e.write now) with
  | (.ok id, s) => s.invalidate.run (ConfigEdit.readBack id now)
  | (.error error, s) => (.error error, s)

/-- A record deleted. -/
def delete (s : Session) (id : String) : Outcome Unit × Session :=
  match s.run (deleteConfig id) with
  | (.ok _, s) => (.ok (), s.invalidate)
  | (.error error, s) => (.error error, s)

/-- A record tried out. -/
def test (s : Session) (id : String) : Outcome ProbeOutcome × Session :=
  match s.run (Probe.prepare id) with
  | (.ok probe, s) =>
    let (outcome, invoker) := probe.conclude s.invoker
    (.ok outcome, { s with invoker })
  | (.error error, s) => (.error error, s)

end Session

end ProviderRegistry
