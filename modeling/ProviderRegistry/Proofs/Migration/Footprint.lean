/-
# `Proofs.Migration.Footprint` — the collections that a migration writes to

The resolver reads the provider records while they are migrated, so what matters
most about the steps of a migration is where they do not write.  For most of
them that is read off the calls that they can come to make
(`Proofs.Migration.Backup`).  A rollback has a smaller footprint than its calls
tell: it leaves a legacy collection alone whose backup is empty, and for that it
has to be followed copy by copy (`alike_rollback`).

Nothing is asked of the database here: neither that it answers nor what it
holds, so that all of this holds of steps that fail half-way too.

## What is proved

    a rollback leaves what has no backup, and every backup         (`alike_rollback`)
    what spares the sources leaves the list of configs             (`outcome_load_of_alike`)
    a migration that is refused as already made is a backup        (`refused_migrate`)

and, of every step in every outcome, what it does not change (`footprint`).
-/
import ProviderRegistry.Proofs.Migration.Rebuild
import ProviderRegistry.Proofs.Migration.Recovery
import ProviderRegistry.Proofs.Resolution.Sources

namespace ProviderRegistry

open Collections

namespace Resolution

/-- No source is a backup or the destination of a migration. -/
theorem source_spared {t : String} (ht : Source t) :
    (∀ c ∈ legacy, backupOf c ≠ t) ∧ t ≠ simplified := by
  rcases ht with rfl | rfl
  · exact ⟨by decide, by decide⟩
  · exact ⟨by decide, by decide⟩

/-- What changes no source leaves the list of configs as it is. -/
theorem outcome_load_of_alike {a b : Database} (h : a.Alike Source b) (env : Environment) :
    (load env).outcome b = (load env).outcome a :=
  (reads_load env).run_eq h

end Resolution

namespace Migration

/-- A rollback leaves every collection that is neither the destination nor has a backup to be
restored from. -/
theorem alike_rollback (db : Database) :
    db.Alike (fun t => t ≠ simplified ∧ (t ∈ legacy → db.documents (backupOf t) = []))
      (rollback.run db).2 := by
  have hclear : db.Alike (· ≠ simplified)
      ((Script.deleteAll simplified Document.empty).run db).2 :=
    (Script.spares_deleteAll (fun h => h rfl) _).alike_run db
  unfold rollback
  rcases hrun : (Script.deleteAll simplified Document.empty).run db with ⟨e | cleared, middle⟩
  · rw [hrun] at hclear
    rw [Script.run_bind_error hrun]
    exact hclear.mono fun t ht => ht.1
  · rw [hrun] at hclear
    rw [Script.run_bind_ok hrun, Script.run_map_snd]
    have hcopies := alike_copyAll apart_rollback middle
    refine (hclear.mono fun t ht => ht.1).trans (hcopies.mono ?_)
    rintro t ⟨-, ht⟩ c hc rfl
    rw [hclear.documents (backupOf c) (simplified_ne c hc).2]
    exact ht hc

/-- A migration that is refused as already made has made its backup and counted the destination. -/
theorem refused_migrate {now : DateTime} {force : Bool} {db after : Database} {k : Nat}
    (h : (migrate now force).run db = (.error (.alreadyMigrated k), after)) :
    k = (db.documents simplified).length ∧ after = (backup.run db).2.counted := by
  rcases error_of_run_migrate h with hstore | ⟨he, hafter⟩
  · exact nomatch hstore
  · exact ⟨ConfigError.alreadyMigrated.inj he, hafter⟩

/-- What the steps leave alone, of any database and however they end.  A backup writes to backups
only; a migration, and a run, to the destination besides; a check to nothing; a rollback to the
destination and to what has a backup.  So the list of configs is the same before and after all but
the last.  A migration that is refused as already made tells how much the destination holds, and
leaves what a backup alone would leave. -/
theorem footprint (db : Database) (now : DateTime) (force : Bool) :
    db.Alike (fun t => ∀ c ∈ legacy, backupOf c ≠ t) (backup.run db).2 ∧
    db.Alike (fun t => (∀ c ∈ legacy, backupOf c ≠ t) ∧ t ≠ simplified)
      ((migrate now force).run db).2 ∧
    db.Alike (fun t => (∀ c ∈ legacy, backupOf c ≠ t) ∧ t ≠ simplified)
      ((run now force).run db).2 ∧
    db.Alike (fun _ => True) (validate.run db).2 ∧
    db.Alike (fun t => t ≠ simplified ∧ (t ∈ legacy → db.documents (backupOf t) = []))
      (rollback.run db).2 ∧
    (∀ c ∈ legacy, (rollback.run db).2.documents (backupOf c) = db.documents (backupOf c)) ∧
    (∀ env, ∀ left ∈ [(backup.run db).2, ((migrate now force).run db).2, (validate.run db).2,
        ((run now force).run db).2],
      (Resolution.load env).outcome left = (Resolution.load env).outcome db) ∧
    ∀ k after, (migrate now force).run db = (.error (.alreadyMigrated k), after) →
      k = (db.documents simplified).length ∧ after = (backup.run db).2.counted := by
  have hbackup := spares_backup.alike_run db
  have hmigrate := (spares_migrate now force).alike_run db
  have hrun := (spares_run now force).alike_run db
  have hvalidate : db.Alike (fun _ => True) (validate.run db).2 := spares_validate.alike_run db
  refine ⟨hbackup, hmigrate, hrun, hvalidate, alike_rollback db, ?backups, ?load,
    fun k after h => refused_migrate h⟩
  case backups =>
    intro c hc
    have hnot : backupOf c ∉ legacy := fun hmem => apart_backup.sources c hc (backupOf c) hmem rfl
    exact (alike_rollback db).documents (backupOf c)
      ⟨(simplified_ne c hc).2, fun hmem => absurd hmem hnot⟩
  case load =>
    intro env left hleft
    refine Resolution.outcome_load_of_alike ?_ env
    simp only [List.mem_cons, List.not_mem_nil, or_false] at hleft
    rcases hleft with rfl | rfl | rfl | rfl
    · exact hbackup.mono fun t ht => (Resolution.source_spared ht).1
    · exact hmigrate.mono fun t ht => Resolution.source_spared ht
    · exact hvalidate.mono fun t _ => trivial
    · exact hrun.mono fun t ht => Resolution.source_spared ht

/-- Two providers of which the destination already holds something. -/
def twoMigrated : Database := twoProviders.put simplified (twoProviders.documents providers)

/-- A second migration is refused, with the number of documents that it would have replaced. -/
theorem refused_twoMigrated :
    ∃ k after, (migrate ⟨0⟩ false).run twoMigrated = (.error (.alreadyMigrated k), after) ∧
      k = (twoMigrated.documents simplified).length ∧
      after = (backup.run twoMigrated).2.counted := by
  obtain ⟨-, -, -, -, -, -, -, hrefused⟩ := footprint twoMigrated ⟨0⟩ false
  exact ⟨_, _, rfl, hrefused _ _ rfl⟩

end Migration

end ProviderRegistry
