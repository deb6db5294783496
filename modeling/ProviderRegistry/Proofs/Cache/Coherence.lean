/-
# `Proofs.Cache.Coherence` — the cached list and the sources, one operation after another

The cached list has no lifetime of its own, so it is right only as long as
whatever changes a source empties it.  The sources are two collections
(`Resolution.Source`) and the environment.  An operation keeps the cache
coherent in one of three ways:

* it touches neither the sources nor the cached list (`Coherent.of_undisturbed`);
* it empties the cache;
* it fills the cache with what the sources give then.

An edit takes the second way, and the first where it fails: it has changed
nothing then (`Proofs.Admin.Edit`).  A migration takes the first, since it
writes to no source (`source_spared`); a rollback would not, and is left out.

## What is proved

Through every sequence of operations, succeeding or failing, the cached list
is the list that the sources give (`configs_of_operations`).
-/
import ProviderRegistry.Session
import ProviderRegistry.Proofs.Admin.Edit
import ProviderRegistry.Proofs.Migration.Footprint

namespace ProviderRegistry

open Collections

namespace Session

open Resolution

/-! ## Coherence -/

/-- The cached list, if there is one, is what the sources give now. -/
def Coherent (s : Session) : Prop := ∀ list, s.cached = some list → list = s.load.1

/-- A step after which the sources and the cached list are what they were. -/
structure Undisturbed (s t : Session) : Prop where
  environment : t.environment = s.environment
  cached : t.cached = s.cached
  sources : s.database.Alike Source t.database

theorem Undisturbed.refl (s : Session) : Undisturbed s s := ⟨rfl, rfl, .refl _ _⟩

theorem load_eq_of_alike {s t : Session} (henv : t.environment = s.environment)
    (h : s.database.Alike Source t.database) : t.load.1 = s.load.1 := by
  have hrun := (reads_load s.environment).run_eq h
  show ((Resolution.load t.environment).run t.database).1.toOption.getD [] = _
  rw [henv, hrun]
  rfl

theorem Undisturbed.load_eq {s t : Session} (h : Undisturbed s t) : t.load.1 = s.load.1 :=
  load_eq_of_alike h.environment h.sources

theorem Coherent.of_undisturbed {s t : Session} (hs : s.Coherent) (h : Undisturbed s t) :
    t.Coherent := by
  intro list hlist
  rw [h.load_eq]
  exact hs list (h.cached.symm.trans hlist)

theorem coherent_of_empty {s : Session} (h : s.cached = none) : s.Coherent := by
  intro list hlist
  rw [h] at hlist
  exact nomatch hlist

/-! ## What each operation does to the sources -/

section Operations

variable {α : Type} (s : Session)

theorem undisturbed_run {script : Script α} (h : script.Spares Source) :
    Undisturbed s (s.run script).2 :=
  ⟨rfl, rfl, h.alike_run s.database⟩

theorem undisturbed_load : Undisturbed s s.load.2 :=
  s.undisturbed_run ((reads_load s.environment).spares Source)

/-- A run that fails disturbs nothing, where all that it writes it writes at once. -/
theorem undisturbed_failure {script : Script α} (h : script.AllOrNothing) {t : Session}
    {error : ConfigError} (hrun : s.run script = (.error error, t)) : Undisturbed s t := by
  obtain ⟨houtcome, rfl⟩ := Prod.mk.inj hrun
  exact ⟨rfl, rfl, h Source s.database _ error (Prod.ext houtcome rfl)⟩

variable {s}

theorem Coherent.configs (hs : s.Coherent) (useCache : Bool) : (s.configs useCache).2.Coherent := by
  unfold Session.configs
  split
  · exact hs
  · intro list hlist
    obtain rfl := Option.some.inj hlist
    exact (load_eq_of_alike (s := s) s.undisturbed_load.environment
      s.undisturbed_load.sources).symm

theorem Coherent.upsert (hs : s.Coherent) (now : Moment) (e : ConfigEdit) :
    (s.upsert now e).2.Coherent := by
  unfold Session.upsert
  split
  · rename_i id t hrun
    have hread := (ConfigEdit.reads_readBack (s := Source) (.inl rfl) id now).spares Source
    exact (coherent_of_empty rfl).of_undisturbed (t.invalidate.undisturbed_run hread)
  · rename_i error t hrun
    exact hs.of_undisturbed (s.undisturbed_failure (e.allOrNothing_write now) hrun)

theorem Coherent.delete (hs : s.Coherent) (id : String) : (s.delete id).2.Coherent := by
  unfold Session.delete
  split
  · exact coherent_of_empty rfl
  · rename_i error t hrun
    exact hs.of_undisturbed (s.undisturbed_failure (allOrNothing_delete id) hrun)

theorem Coherent.test (hs : s.Coherent) (id : String) : (s.test id).2.Coherent := by
  have hread := (Probe.reads_prepare (s := Source) (.inl rfl) id).spares Source
  have hprepare := s.undisturbed_run hread
  unfold Session.test
  split
  · rename_i probe t hrun
    rw [hrun] at hprepare
    exact hs.of_undisturbed ⟨hprepare.environment, hprepare.cached, hprepare.sources⟩
  · rename_i error t hrun
    rw [hrun] at hprepare
    exact hs.of_undisturbed hprepare

end Operations

/-! ## Sequences of operations -/

/-- What users and operators do to a running registry, short of a rollback. -/
inductive Operation where
  | list (now : Moment)
  | upsert (now : Moment) (e : ConfigEdit)
  | delete (id : String)
  | test (id : String)
  | configs (useCache : Bool)
  | invalidate
  | reload
  | active
  | byProvider (provider : String)
  | project (baseline : Settings)
  | backup
  | migrate (now : DateTime) (force : Bool)
  | validate
  | migrateAndValidate (now : DateTime) (force : Bool)

/-- The registry after an operation, whether it has succeeded or failed. -/
def perform (s : Session) : Operation → Session
  | .list now => (s.list now).2
  | .upsert now e => (s.upsert now e).2
  | .delete id => (s.delete id).2
  | .test id => (s.test id).2
  | .configs useCache => (s.configs useCache).2
  | .invalidate => s.invalidate
  | .reload => s.reload.2
  | .active => s.active.2
  | .byProvider provider => (s.byProvider provider).2
  | .project baseline => (s.project baseline).2
  | .backup => (s.run Migration.backup).2
  | .migrate now force => (s.run (Migration.migrate now force)).2
  | .validate => (s.run Migration.validate).2
  | .migrateAndValidate now force => (s.run (Migration.run now force)).2

/-- Every operation keeps the cache coherent. -/
theorem coherent_perform {s : Session} (hs : s.Coherent) (op : Operation) :
    (s.perform op).Coherent := by
  have hmigrate : ∀ now force, (Migration.migrate now force).Spares Source := fun now force =>
    (Migration.spares_migrate now force).mono fun _ ht => source_spared ht
  cases op with
  | list now =>
      exact hs.of_undisturbed
        (s.undisturbed_run ((ConfigView.reads_list (s := Source) (.inl rfl) now).spares Source))
  | upsert now e => exact hs.upsert now e
  | delete id => exact hs.delete id
  | test id => exact hs.test id
  | configs useCache => exact hs.configs useCache
  | invalidate => exact coherent_of_empty rfl
  | reload => exact (coherent_of_empty (s := s.invalidate) rfl).configs false
  | active => exact hs.configs true
  | byProvider provider => exact hs.configs true
  | project baseline => exact hs.configs true
  | backup =>
      exact hs.of_undisturbed
        (s.undisturbed_run (Migration.spares_backup.mono fun _ ht => (source_spared ht).1))
  | migrate now force => exact hs.of_undisturbed (s.undisturbed_run (hmigrate now force))
  | validate => exact hs.of_undisturbed (s.undisturbed_run Migration.spares_validate)
  | migrateAndValidate now force =>
      exact hs.of_undisturbed (s.undisturbed_run
        ((Migration.spares_run now force).mono fun _ ht => source_spared ht))

theorem coherent_operations (ops : List Operation) {s : Session} (hs : s.Coherent) :
    (ops.foldl perform s).Coherent := by
  induction ops generalizing s with
  | nil => exact hs
  | cons op rest ih => exact ih (coherent_perform hs op)

/-- Where the cache is coherent, asking past it gives the cached list. -/
theorem Coherent.configs_eq {s : Session} (hs : s.Coherent) :
    (s.configs true).1 = (s.configs false).1 := by
  cases hcached : s.cached with
  | none => simp [Session.configs, hcached]
  | some list =>
      have hlist := hs list hcached
      simpa [Session.configs, hcached] using hlist

/-- From any database and an empty cache, and through any operations, the cached list is what the
sources give, and asking for it past the cache makes no difference. -/
theorem configs_of_operations (db : Database) (env : Environment) (invoker : Option Rehearsal)
    (ops : List Operation) :
    (∀ list, (ops.foldl perform (start db env invoker)).cached = some list →
      list = (ops.foldl perform (start db env invoker)).load.1) ∧
    ((ops.foldl perform (start db env invoker)).configs true).1
      = ((ops.foldl perform (start db env invoker)).configs false).1 := by
  have hcoherent := coherent_operations ops (s := start db env invoker) (coherent_of_empty rfl)
  exact ⟨hcoherent, hcoherent.configs_eq⟩

end Session

end ProviderRegistry
