/-
# `Proofs.Migration.Recovery` — what a rollback brings back

A rollback trusts the backups that it finds.  Two questions are answered here:
what those backups hold when the migration before it was cut short, and what
becomes of everything else when the migration has ended and the database was
used in between.

## What is proved

* After a migration of an available database, cut short anywhere, a rollback
  ends, and each legacy collection ends as the backup that it left behind — its
  earlier backup, or some first documents of the collection — or as it was,
  where that backup is empty.  It is as it was exactly where the backup is
  empty or whole, and always once the backup step is over
  (`rollback_after_interruption`).  A backup cut short is found and trusted like
  a whole one (`not_restored_from_partial_backup`).

* After a migration that has ended in whatever outcome, and any changes to the
  database that do not target a backup, a rollback ends and brings every legacy
  collection back that held documents when the migration began
  (`rollback_after_drift`).
-/
import ProviderRegistry.Proofs.Migration.Backup

namespace ProviderRegistry

namespace Database

/-! ## Changes of a database between two steps -/

/-- A change from outside: a call, answered or refused, or documents put in past all checks. -/
inductive Change where
  | ask (call : Call)
  | seed (collection : String) (documents : List Document)

namespace Change

/-- The collection that a change may touch. -/
def target? : Change → Option String
  | .ask call => call.target?
  | .seed c _ => some c

def apply (db : Database) : Change → Database
  | .ask call => (db.answer call).2
  | .seed c ds => db.seed c ds

end Change

variable {s : String → Prop}

theorem alike_seed {c : String} (hc : ¬ s c) (ds : List Document) (db : Database) :
    Alike s db (db.seed c ds) := by
  induction ds generalizing db with
  | nil => exact .refl s db
  | cons d rest ih => exact ((alike_identify s db d).trans (alike_put _ hc _)).trans (ih _)

theorem alike_apply {change : Change} (h : ∀ c, change.target? = some c → ¬ s c)
    (db : Database) : Alike s db (change.apply db) := by
  cases change with
  | ask call => exact db.alike_answer call h
  | seed c ds => exact alike_seed (h c rfl) ds db

theorem alike_drift {drift : List Change}
    (h : ∀ change ∈ drift, ∀ c, change.target? = some c → ¬ s c) (db : Database) :
    Alike s db (drift.foldl Change.apply db) := by
  induction drift generalizing db with
  | nil => exact .refl s db
  | cons change rest ih =>
      exact (alike_apply (h change List.mem_cons_self) db).trans
        (ih (fun change' h' => h change' (List.mem_cons_of_mem _ h')) _)

end Database

namespace Migration

open Collections

/-! ## After a migration that was cut short -/

/-- What becomes of a legacy collection of `db` that is rolled back to `after` from what a
migration, cut short, has left behind. -/
structure Recovered (db left after : Database) (c : String) : Prop where
  /-- The backup is the earlier one, or some first documents of the collection. -/
  backup : Begun (db.documents c) (db.documents (backupOf c)) (left.documents (backupOf c))
  /-- The collection is that backup, or as it was. -/
  collection : after.documents c = copied (left.documents (backupOf c)) (db.documents c)

theorem copied_eq_iff (source earlier : List Document) :
    copied source earlier = earlier ↔ source = [] ∨ source = earlier := by
  cases source with
  | nil => simp
  | cons d rest => simp [copied]

section Interruption

variable {db : Database}

/-- A migration that is cut short anywhere, and rolled back: each collection is restored to the
backup that is found, and so it is as it was exactly where that backup is empty or whole. -/
theorem rollback_after_interruption (h : db.Available) (hids : Identified db) (now : DateTime)
    (force : Bool) (n : Nat) :
    ∃ report after, rollback.run ((migrate now force).stop n db) = (.ok report, after) ∧
      (∀ c ∈ legacy, Recovered db ((migrate now force).stop n db) after c) ∧
      (∀ c ∈ legacy, after.documents c = db.documents c ↔
        ((migrate now force).stop n db).documents (backupOf c) = [] ∨
          ((migrate now force).stop n db).documents (backupOf c) = db.documents c) ∧
      (backup.calls db ≤ n → ∀ c ∈ legacy, db.documents c ≠ [] →
        after.documents c = db.documents c) := by
  have hbegun := stop_migrate h hids now force n
  have hlegacy := legacy_stop_migrate now force n db
  obtain ⟨after, hrun, -, -, hcopied⟩ := run_rollback (available_stop_migrate h now force n)
    fun c hc => (hbegun c hc).distinctIds (hids.legacy c hc) (hids.backups c hc)
  have hcollection : ∀ c ∈ legacy, after.documents c
      = copied (((migrate now force).stop n db).documents (backupOf c)) (db.documents c) :=
    fun c hc => (hcopied c hc).trans (by rw [hlegacy c hc])
  refine ⟨_, after, hrun, fun c hc => ⟨hbegun c hc, hcollection c hc⟩, fun c hc => ?_,
    fun hn c hc hne => ?_⟩
  · rw [hcollection c hc]
    exact copied_eq_iff _ _
  · rw [hcollection c hc, stop_migrate_of_le h hids now force hn c hc, copied_of_ne_nil hne,
      copied_of_ne_nil hne]

end Interruption

/-- Two provider records, and nothing else. -/
def twoProviders : Database :=
  (Database.empty ObjectId.ofNat).put providers [
    ⟨[("_id", .objectId (ObjectId.ofNat 1)), ("name", .string "openai")]⟩,
    ⟨[("_id", .objectId (ObjectId.ofNat 2)), ("name", .string "zhipu")]⟩]

theorem available_twoProviders : twoProviders.Available := ⟨rfl, rfl⟩

theorem distinctIds_twoProviders (c : String) : DistinctIds (twoProviders.documents c) := by
  by_cases hc : c = providers
  · rw [hc]
    exact ⟨by decide, by decide⟩
  · rw [twoProviders, Database.documents_put_ne _ hc]
    exact .nil

theorem identified_twoProviders : Identified twoProviders :=
  ⟨fun c _ => distinctIds_twoProviders c, fun c _ => distinctIds_twoProviders (backupOf c)⟩

/-- Cut short right after the backup step, the migration is undone. -/
theorem restored_after_backup_step :
    twoProviders.Available ∧ Identified twoProviders ∧ backup.calls twoProviders ≤ 6 ∧
      ∃ report after, rollback.run ((migrate ⟨0⟩ false).stop 6 twoProviders) = (.ok report, after) ∧
        after.documents providers = twoProviders.documents providers := by
  obtain ⟨report, after, hrun, -, -, hwhole⟩ :=
    rollback_after_interruption available_twoProviders identified_twoProviders ⟨0⟩ false 6
  exact ⟨available_twoProviders, identified_twoProviders, by decide, report, after, hrun,
    hwhole (by decide) providers (by decide) (by decide)⟩

/-- Cut short after the first document of the first backup, a migration leaves a backup that a
rollback puts in place of the collection. -/
theorem not_restored_from_partial_backup :
    ¬ ∀ db : Database, db.Available → (∀ c, DistinctIds (db.documents c)) →
      ∀ (now : DateTime) (force : Bool) (n : Nat), ∀ c ∈ legacy, db.documents c ≠ [] →
        (rollback.run ((migrate now force).stop n db)).2.documents c = db.documents c := by
  intro h
  have hproviders := h twoProviders available_twoProviders distinctIds_twoProviders ⟨0⟩ false 3
    providers (by decide) (by decide)
  have hlength : ((rollback.run ((migrate ⟨0⟩ false).stop 3 twoProviders)).2.documents
      providers).length ≠ (twoProviders.documents providers).length := by decide
  exact hlength (congrArg List.length hproviders)

/-! ## After a migration that has ended -/

/-- What a rollback has made of a database that was migrated as `db`, was left by the migration
as `migrated`, and was changed to `drifted` since. -/
structure RolledBack (db migrated drifted : Database) (report : RollbackReport)
    (after : Database) : Prop where
  /-- What held documents when the migration began is as it was then. -/
  restored : ∀ c ∈ legacy, db.documents c ≠ [] → after.documents c = db.documents c
  /-- What held none and had no earlier backup either is left alone. -/
  untouched : ∀ c ∈ legacy, db.documents c = [] → db.documents (backupOf c) = [] →
    after.documents c = drifted.documents c
  /-- What held none and had an earlier backup is that backup. -/
  earlier : ∀ c ∈ legacy, db.documents c = [] → db.documents (backupOf c) ≠ [] →
    after.documents c = db.documents (backupOf c)
  destination : after.documents simplified = []
  backups : ∀ c ∈ legacy, after.documents (backupOf c) = migrated.documents (backupOf c)
  cleared : report.clearedDestination = (drifted.documents simplified).length
  /-- The report names the restored collections and the others, each in order. -/
  reported : report.restored = (legacy.filter fun c =>
      !(copied (db.documents c) (db.documents (backupOf c))).isEmpty).map fun c =>
        ⟨c, (copied (db.documents c) (db.documents (backupOf c))).length⟩
  skipped : report.skipped = legacy.filter fun c =>
    (db.documents c).isEmpty && (db.documents (backupOf c)).isEmpty

/-- A migration that has ended, changes that target no backup, and a rollback: each collection is
as it was when the migration began, or left alone where it held nothing and had no backup. -/
theorem rollback_after_drift {db : Database} (h : db.Available) (hids : Identified db)
    (now : DateTime) (force : Bool) {drift : List Database.Change}
    (hdrift : ∀ change ∈ drift, ∀ c ∈ legacy, change.target? ≠ some (backupOf c)) :
    ∃ report after,
      rollback.run (drift.foldl Database.Change.apply ((migrate now force).run db).2)
        = (.ok report, after) ∧
      RolledBack db ((migrate now force).run db).2
        (drift.foldl Database.Change.apply ((migrate now force).run db).2) report after := by
  obtain ⟨n, hn, hmigrated⟩ := run_migrate now force db
  have hcopies := stop_migrate_of_le h hids now force hn
  have havailable := available_stop_migrate h now force n
  rw [← hmigrated] at hcopies havailable
  generalize ((migrate now force).run db).2 = migrated at *
  have halike := Database.alike_drift (s := fun t => ∃ c ∈ legacy, t = backupOf c)
    (fun change hchange c hc ⟨c', hc', h⟩ => hdrift change hchange c' hc' (h ▸ hc)) migrated
  generalize drift.foldl Database.Change.apply migrated = drifted at *
  have hbackups : ∀ c ∈ legacy, drifted.documents (backupOf c)
      = copied (db.documents c) (db.documents (backupOf c)) :=
    fun c hc => (halike.documents _ ⟨c, hc, rfl⟩).trans (hcopies c hc)
  obtain ⟨after, hrun, hsimplified, hkept, hcopied⟩ := run_rollback (halike.available havailable)
    fun c hc => hbackups c hc ▸ distinctIds_copied (hids.legacy c hc) (hids.backups c hc)
  rw [reportOf_congr hbackups, copied_reportOf, skipped_reportOf] at hrun
  refine ⟨_, after, hrun, {
    restored := fun c hc hne => ?_
    untouched := fun c hc hnil hback => ?_
    earlier := fun c hc hnil hback => ?_
    destination := hsimplified
    backups := fun c hc => (hkept c hc).trans (halike.documents _ ⟨c, hc, rfl⟩)
    cleared := rfl
    reported := rfl
    skipped := ?_ }⟩
  · rw [hcopied c hc, hbackups c hc, copied_of_ne_nil hne, copied_of_ne_nil hne]
  · rw [hcopied c hc, hbackups c hc, hnil, hback, copied_nil, copied_nil]
  · rw [hcopied c hc, hbackups c hc, hnil, copied_nil, copied_of_ne_nil hback]
  · refine List.filter_congr fun c _ => ?_
    cases hc : db.documents c <;> simp [copied]

/-- A collection emptied after the migration comes back, and one that is filled stays. -/
theorem restored_after_emptying :
    (∀ change ∈ [Database.Change.ask (.deleteAll providers Document.empty),
        .seed catalogs [⟨[("provider", .string "openai")]⟩]],
      ∀ c ∈ legacy, change.target? ≠ some (backupOf c)) ∧
      ∃ report after, rollback.run ([Database.Change.ask (.deleteAll providers Document.empty),
          .seed catalogs [⟨[("provider", .string "openai")]⟩]].foldl Database.Change.apply
            ((migrate ⟨0⟩ true).run twoProviders).2) = (.ok report, after) ∧
        after.documents providers = twoProviders.documents providers ∧
        (after.documents catalogs).length = 1 ∧ report.restored = [⟨providers, 2⟩] ∧
        report.skipped = [legacyConfigs, catalogs] := by
  have hdrift : ∀ change ∈ [Database.Change.ask (.deleteAll providers Document.empty),
      .seed catalogs [⟨[("provider", .string "openai")]⟩]],
      ∀ c ∈ legacy, change.target? ≠ some (backupOf c) := by decide
  obtain ⟨report, after, hrun, hback⟩ :=
    rollback_after_drift available_twoProviders identified_twoProviders ⟨0⟩ true hdrift
  refine ⟨hdrift, report, after, hrun, hback.restored providers (by decide) (by decide), ?_,
    hback.reported, hback.skipped⟩
  rw [hback.untouched catalogs (by decide) rfl rfl]
  rfl

end Migration

end ProviderRegistry
