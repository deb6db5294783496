/-
# `Proofs.Migration.Backup` — what each step of a migration does to which collection

Three kinds of collections take part in a migration: the legacy ones, their
backups, and the destination.  Every step writes only to some of them:

    backup     the backups
    rebuild    the destination
    rollback   the destination and the legacy collections

The names of the three kinds are different from each other, which is all that
is used of them (`apart_backup`, `apart_rollback`, `simplified_ne`).

## What is proved

* which collections a step spares, ended or cut short, whatever its outcome
  (`spares_backup`, `spares_rebuild`, `spares_migrate`, `spares_validate`,
  `spares_run`, `spares_rollback`);
* the backups while and after a migration is made: `Begun` anywhere
  (`stop_migrate`), and `copied` once the backup has been made
  (`stop_migrate_of_le`, `run_migrate`), since nothing after it touches them;
* what a rollback makes of a database whose backups have distinct identities
  (`run_rollback`).
-/
import ProviderRegistry.Proofs.Migration.Copying

namespace ProviderRegistry

namespace Migration

open Collections

/-! ## The names -/

theorem apart_backup : Apart (fun c => (c, backupOf c)) legacy := ⟨by decide, by decide⟩

theorem apart_rollback : Apart (fun c => (backupOf c, c)) legacy := ⟨by decide, by decide⟩

/-- The destination is neither a legacy collection nor a backup of one. -/
theorem simplified_ne : ∀ c ∈ legacy, c ≠ simplified ∧ backupOf c ≠ simplified := by decide

/-! ## What the steps spare -/

theorem spares_backup : backup.Spares fun t => ∀ c ∈ legacy, backupOf c ≠ t :=
  (spares_copyAll (fun c => (c, backupOf c)) legacy).bind fun _ => trivial

section Rebuild

variable {s : String → Prop} {α : Type}

theorem spares_readAll (c : String) (decode : Document → Decoded α) :
    (readAll c decode).Spares s :=
  (Script.spares_find c _).bind fun _ => trivial

theorem spares_mergeAll (lookup : LegacyLookup) (now : DateTime) :
    ∀ configs : List LegacyConfig, (mergeAll lookup now configs).Spares s
  | [] => trivial
  | _ :: rest =>
      Script.spares_newId.bind fun _ => (spares_mergeAll lookup now rest).bind fun _ => trivial

end Rebuild

theorem spares_rebuild (now : DateTime) (force : Bool) (report : BackupReport) :
    (rebuild now force report).Spares (· ≠ simplified) := by
  refine (Script.spares_count _).bind fun existing => ?_
  split
  · exact Script.spares_fail _
  · refine (spares_readAll providers ProviderRecord.decode).bind fun _ => ?_
    refine (spares_readAll catalogs ModelCatalog.decode).bind fun _ => ?_
    refine (spares_readAll legacyConfigs LegacyConfig.decode).bind fun _ => ?_
    refine (spares_mergeAll _ now _).bind fun _ => ?_
    refine (Script.spares_deleteAll (fun h => h rfl) _).bind fun _ => ?_
    exact (Script.spares_insertAll (fun h => h rfl) _).bind fun _ => trivial

/-- A migration writes to the backups and to the destination. -/
theorem spares_migrate (now : DateTime) (force : Bool) :
    (migrate now force).Spares fun t => (∀ c ∈ legacy, backupOf c ≠ t) ∧ t ≠ simplified :=
  (spares_backup.mono fun _ ht => ht.1).bind fun report =>
    (spares_rebuild now force report).mono fun _ ht => ht.2

section Check

variable {s : String → Prop}

theorem spares_countAll : ∀ cs : List String, (countAll cs).Spares s
  | [] => Script.spares_pure _
  | c :: rest =>
      (Script.spares_count c).bind fun _ =>
        (spares_countAll rest).bind fun _ => Script.spares_pure _

/-- The check of a migration writes to nothing. -/
theorem spares_validate : validate.Spares s := by
  refine (Script.spares_count _).bind fun destination => (spares_countAll _).bind fun backups => ?_
  split
  · exact Script.spares_pure _
  · refine (Script.spares_findFirst _ _).bind fun sample => ?_
    dsimp only
    split
    · exact Script.spares_pure _
    · exact Script.spares_fail _

end Check

/-- A migration with a check after it writes to nothing else than the migration. -/
theorem spares_run (now : DateTime) (force : Bool) :
    (run now force).Spares fun t => (∀ c ∈ legacy, backupOf c ≠ t) ∧ t ≠ simplified :=
  (spares_migrate now force).bind fun _ =>
    spares_validate.bind fun _ => Script.spares_pure _

/-- A rollback writes to the legacy collections and to the destination. -/
theorem spares_rollback : rollback.Spares fun t => (∀ c ∈ legacy, c ≠ t) ∧ t ≠ simplified := by
  refine (Script.spares_deleteAll (fun h => h.2 rfl) _).bind fun _ => ?_
  have hcopies := spares_copyAll (fun c => (backupOf c, c)) legacy
  exact (hcopies.mono fun _ ht => ht.1).bind fun _ => Script.spares_pure _

/-- A legacy collection stays as it is, wherever a migration stops. -/
theorem legacy_stop_migrate (now : DateTime) (force : Bool) (n : Nat) (db : Database) :
    ∀ c ∈ legacy, ((migrate now force).stop n db).documents c = db.documents c :=
  fun c hc => ((spares_migrate now force).alike_stop n db).documents c
    ⟨fun c' hc' h => apart_backup.sources c' hc' c hc h.symm, (simplified_ne c hc).1⟩

/-! ## How a backup can fail -/

/-- A backup fails only as the store refuses it. -/
theorem ends_backup {E : ConfigError → Prop} (hE : ∀ e, e.FromStore → E e) :
    backup.Ends (fun _ => True) E :=
  (ends_copyAll hE _ legacy).bind fun _ _ => trivial

/-! ## The backups of a migration -/

/-- Every legacy collection, and every backup, has distinct identities. -/
structure Identified (db : Database) : Prop where
  legacy : ∀ c ∈ legacy, DistinctIds (db.documents c)
  backups : ∀ c ∈ Collections.legacy, DistinctIds (db.documents (backupOf c))

section Backups

variable {db : Database}

/-- A backup ends, with every backup copied from its collection. -/
theorem run_backup (h : db.Available) (hids : ∀ c ∈ legacy, DistinctIds (db.documents c)) :
    ∃ after,
      backup.run db = (.ok ⟨(reportOf db.documents legacy).copied,
        (reportOf db.documents legacy).skipped⟩, after) ∧
      ∀ c ∈ legacy, after.documents (backupOf c)
        = copied (db.documents c) (db.documents (backupOf c)) := by
  obtain ⟨after, hrun, hcopied⟩ := run_copyAll apart_backup h hids
  refine ⟨after, ?_, hcopied⟩
  show (copyAll (fun c => (c, backupOf c)) legacy >>= fun r =>
    pure (⟨r.copied, r.skipped⟩ : BackupReport)).run db = _
  rw [Script.run_bind_ok hrun, Script.run_pure]

/-- A backup of documents with identities draws none. -/
theorem quiet_backup (hids : ∀ c ∈ legacy, ∀ d ∈ db.documents c, (d.get? "_id").isSome) :
    backup.Quiet db :=
  (quiet_copyAll apart_backup hids).bind fun _ _ _ => Script.quiet_pure _

/-- Wherever a migration stops, every backup is begun. -/
theorem stop_migrate (h : db.Available) (hids : Identified db) (now : DateTime) (force : Bool)
    (n : Nat) :
    ∀ c ∈ legacy, Begun (db.documents c) (db.documents (backupOf c))
      (((migrate now force).stop n db).documents (backupOf c)) := by
  obtain ⟨after, hrun, hcopied⟩ := run_backup h hids.legacy
  refine Script.stop_bind (P := fun left => ∀ c ∈ legacy, Begun (db.documents c)
    (db.documents (backupOf c)) (left.documents (backupOf c))) hrun (fun n c hc => ?_)
    (fun m c hc => ?_) n
  · show Begun _ _ (((copyAll _ legacy >>= fun r =>
      pure (⟨r.copied, r.skipped⟩ : BackupReport)).stop n db).documents (backupOf c))
    rw [Script.stop_bind_pure]
    exact stop_copyAll apart_backup h hids.legacy n c hc
  · rw [((spares_rebuild now force _).alike_stop m after).documents _ (simplified_ne c hc).2,
      hcopied c hc]
    exact begun_copied _ _

/-- Once the backup has been made, every backup is copied. -/
theorem stop_migrate_of_le (h : db.Available) (hids : Identified db) (now : DateTime)
    (force : Bool) {n : Nat} (hn : backup.calls db ≤ n) :
    ∀ c ∈ legacy, ((migrate now force).stop n db).documents (backupOf c)
      = copied (db.documents c) (db.documents (backupOf c)) := by
  intro c hc
  obtain ⟨after, hrun, hcopied⟩ := run_backup h hids.legacy
  obtain ⟨m, rfl⟩ := Nat.exists_eq_add_of_le hn
  have hstop : (migrate now force).stop (backup.calls db + m) db
      = (rebuild now force _).stop m after :=
    Script.stop_bind_add hrun m
  rw [hstop, ((spares_rebuild now force _).alike_stop m after).documents _
    (simplified_ne c hc).2, hcopied c hc]

/-- A migration that has ended, in whatever outcome, has stopped after its backup. -/
theorem run_migrate (now : DateTime) (force : Bool) (db : Database) :
    ∃ n, backup.calls db ≤ n ∧ ((migrate now force).run db).2 = (migrate now force).stop n db :=
  ⟨_, Nat.le_max_left _ _, (Script.stop_of_calls_le (Nat.le_max_right _ _)).symm⟩

theorem available_stop_migrate (h : db.Available) (now : DateTime) (force : Bool) (n : Nat) :
    ((migrate now force).stop n db).Available :=
  ((spares_migrate now force).alike_stop n db).available h

end Backups

/-! ## Rollback -/

/-- A rollback to backups whose documents have identities draws none. -/
theorem quiet_rollback {db : Database}
    (hids : ∀ c ∈ legacy, ∀ d ∈ db.documents (backupOf c), (d.get? "_id").isSome) :
    rollback.Quiet db := by
  refine (Script.quiet_deleteAll simplified _).bind fun _ cleared hclear => ?_
  have hspared := (Script.spares_deleteAll (s := (· ≠ simplified)) (fun h => h rfl)
    Document.empty).alike_run db
  rw [hclear] at hspared
  have hbackups : ∀ c ∈ legacy, ∀ d ∈ cleared.documents (backupOf c), (d.get? "_id").isSome := by
    intro c hc
    rw [hspared.documents _ (simplified_ne c hc).2]
    exact hids c hc
  exact (quiet_copyAll apart_rollback hbackups).bind fun _ _ _ => Script.quiet_pure _

/-- A rollback ends, with the destination empty, the backups as they were, and every legacy
collection copied from its backup. -/
theorem run_rollback {db : Database} (h : db.Available)
    (hids : ∀ c ∈ legacy, DistinctIds (db.documents (backupOf c))) :
    ∃ after,
      rollback.run db = (.ok ⟨(db.documents simplified).length,
        (reportOf (fun c => db.documents (backupOf c)) legacy).copied,
        (reportOf (fun c => db.documents (backupOf c)) legacy).skipped⟩, after) ∧
      after.documents simplified = [] ∧
      (∀ c ∈ legacy, after.documents (backupOf c) = db.documents (backupOf c)) ∧
      ∀ c ∈ legacy, after.documents c = copied (db.documents (backupOf c)) (db.documents c) := by
  have hclear := Script.run_deleteAll (h.fault? simplified)
  have hcleared : ∀ t, t ≠ simplified → (db.put simplified []).documents t = db.documents t :=
    fun t ht => Database.documents_put_ne db ht []
  have hbackups : ∀ c ∈ legacy,
      (db.put simplified []).documents (backupOf c) = db.documents (backupOf c) :=
    fun c hc => hcleared _ (simplified_ne c hc).2
  obtain ⟨after, hrun, hcopied⟩ := run_copyAll apart_rollback (h.put simplified [])
    fun c hc => (hbackups c hc).symm ▸ hids c hc
  have halike := (spares_copyAll (fun c => (backupOf c, c)) legacy).alike_run (db.put simplified [])
  rw [hrun] at halike
  refine ⟨after, ?_, ?_, fun c hc => ?_, fun c hc => ?_⟩
  · show (Script.deleteAll simplified Document.empty >>= fun cleared =>
      copyAll (fun c => (backupOf c, c)) legacy >>= fun r =>
        pure (⟨cleared, r.copied, r.skipped⟩ : RollbackReport)).run db = _
    rw [Script.run_bind_ok hclear, Script.run_bind_ok hrun, Script.run_pure,
      reportOf_congr hbackups]
  · rw [halike.documents simplified fun c hc => (simplified_ne c hc).1, Database.documents_put_self]
  · rw [halike.documents _ fun c' hc' h => apart_rollback.sources c' hc' c hc h.symm, hbackups c hc]
  · rw [hcopied c hc, hbackups c hc, hcleared c (simplified_ne c hc).1]

end Migration

end ProviderRegistry
