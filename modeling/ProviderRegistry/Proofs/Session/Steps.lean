/-
# `Proofs.Session.Steps` — everything that can happen to a running registry

Users and operators perform operations on a registry (`Session.Operation`), and
beside them others use its store: they roll a migration back, call the store or
seed it, add documents in a row, take it offline or let single collections fail.
A `Step` is one of all these, and a registry goes through them one by one,
whether they succeed or fail.

What an operation does to the database is what one script does to it
(`database_perform`).  So a statement about the databases of a registry is one
about scripts, whichever operation they belong to.
-/
import ProviderRegistry.Proofs.Cache.Coherence
import ProviderRegistry.Proofs.Store.Endings

namespace ProviderRegistry

namespace Session

/-! ## Steps -/

/-- What can happen to a running registry. -/
inductive Step where
  /-- Something that users or operators do. -/
  | operation (op : Operation)
  /-- The last migration is rolled back. -/
  | rollback
  /-- A call of the store by others, or documents that they seed. -/
  | change (made : Database.Change)
  /-- Documents that others add one after the other. -/
  | insertAll (collection : String) (documents : List Document)
  /-- The store goes offline or comes back, and collections are marked as failing. -/
  | switch (offline : Bool) (failing : List String)

/-- The registry after a step, whether it has succeeded or failed. -/
def after (s : Session) : Step → Session
  | .operation op => s.perform op
  | .rollback => (s.run Migration.rollback).2
  | .change made => { s with database := made.apply s.database }
  | .insertAll c ds => (s.run (Script.insertAll c ds)).2
  | .switch offline failing => { s with database := { s.database with offline, failing } }

/-- The registry after several steps. -/
def afterAll (s : Session) (steps : List Step) : Session := steps.foldl after s

@[simp] theorem afterAll_nil (s : Session) : s.afterAll [] = s := rfl

@[simp] theorem afterAll_cons (s : Session) (step : Step) (rest : List Step) :
    s.afterAll (step :: rest) = (s.after step).afterAll rest := rfl

theorem afterAll_append (s : Session) (steps rest : List Step) :
    s.afterAll (steps ++ rest) = (s.afterAll steps).afterAll rest :=
  List.foldl_append

/-! ## Operations as scripts -/

/-- The calls that it takes to ask for the configs: none where the cached list is used. -/
def fetch (s : Session) (useCache : Bool) : Script Unit :=
  match (if useCache then s.cached else none) with
  | some _ => pure ()
  | none => Resolution.load s.environment >>= fun _ => pure ()

/-- The calls that an operation makes. -/
def Operation.script (s : Session) : Operation → Script Unit
  | .list now => ConfigView.list now >>= fun _ => pure ()
  | .upsert now e => e.write now >>= fun id => ConfigEdit.readBack id now >>= fun _ => pure ()
  | .delete id => deleteConfig id
  | .test id => Probe.prepare id >>= fun _ => pure ()
  | .configs useCache => s.fetch useCache
  | .invalidate => pure ()
  | .reload => s.fetch false
  | .active | .byProvider _ | .project _ => s.fetch true
  | .backup => Migration.backup >>= fun _ => pure ()
  | .migrate now force => Migration.migrate now force >>= fun _ => pure ()
  | .validate => Migration.validate >>= fun _ => pure ()
  | .migrateAndValidate now force => Migration.run now force >>= fun _ => pure ()

section Databases

variable (s : Session)

theorem database_configs (useCache : Bool) :
    (s.configs useCache).2.database = ((s.fetch useCache).run s.database).2 := by
  unfold configs fetch
  cases (if useCache then s.cached else none) with
  | some list => rfl
  | none => exact (Script.run_map_snd _ _ _).symm

theorem database_upsert (now : Moment) (e : ConfigEdit) : (s.upsert now e).2.database
    = ((e.write now >>= fun id => ConfigEdit.readBack id now >>= fun _ =>
        (pure () : Script Unit)).run s.database).2 := by
  unfold upsert run
  rcases hwrite : (e.write now).run s.database with ⟨error | id, written⟩
  · rw [Script.run_bind_error hwrite]
  · rw [Script.run_bind_ok hwrite, Script.run_map_snd]
    rfl

theorem database_delete (id : String) :
    (s.delete id).2.database = ((deleteConfig id).run s.database).2 := by
  unfold delete run
  rcases (deleteConfig id).run s.database with ⟨error | _, deleted⟩ <;> rfl

theorem database_test (id : String) :
    (s.test id).2.database = ((Probe.prepare id).run s.database).2 := by
  unfold test run
  rcases (Probe.prepare id).run s.database with ⟨error | probe, prepared⟩ <;> rfl

/-- The database after an operation is the one after its script. -/
theorem database_perform (op : Operation) :
    (s.perform op).database = ((op.script s).run s.database).2 := by
  cases op with
  | list | backup | migrate | validate | migrateAndValidate =>
      exact (Script.run_map_snd _ _ _).symm
  | invalidate => rfl
  | upsert now e => exact s.database_upsert now e
  | delete id => exact s.database_delete id
  | test id => exact (s.database_test id).trans (Script.run_map_snd _ _ _).symm
  | configs useCache => exact s.database_configs useCache
  | reload => exact s.invalidate.database_configs false
  | active | byProvider | project => exact s.database_configs true

end Databases

end Session

end ProviderRegistry
