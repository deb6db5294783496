/-
# `Proofs.Migration.Restart` — a rollback that is begun again

A rollback does not look at what it puts back into place, only at the backups,
and those it does not touch.  So it makes no difference how much of it has been
done before: a rollback that was stopped anywhere, also while it was clearing or
filling a collection, can be started again from the beginning.

## What is proved

* what a rollback makes of all collections, `rolledBack`, and that it changes
  nothing else but the count of reads (`ok_run_rollback`);
* where a rollback is stopped, every collection is on the way there
  (`stop_rollback`), and what is left to do leads to the same collections
  (`rolledBack_stop`);
* so one more rollback that is stopped makes no difference (`Underway.stop`), and
  it ends in the same store however often it is begun (`rollback_restarted`).
-/
import ProviderRegistry.Proofs.Migration.Recovery

namespace ProviderRegistry

namespace Migration

open Collections

/-- A copy that was begun is completed like one that was not. -/
theorem Begun.copied {source earlier now : List Document} (h : Begun source earlier now) :
    Migration.copied source now = Migration.copied source earlier := by
  cases h with
  | untouched => rfl
  | first k hne => rw [copied_of_ne_nil hne, copied_of_ne_nil hne]

/-- What a rollback makes of the documents of a store. -/
def rolledBack (held : String → List Document) (t : String) : List Document :=
  if t = simplified then []
  else if t ∈ legacy then copied (held (backupOf t)) (held t)
  else held t

section Rollback

variable {db : Database}

/-- A rollback ends, with its work done and nothing else changed. -/
theorem ok_run_rollback (h : db.Available)
    (hids : ∀ c ∈ legacy, DistinctIds (db.documents (backupOf c))) :
    ∃ after, rollback.run db = (.ok ⟨(db.documents simplified).length,
        (reportOf (fun c => db.documents (backupOf c)) legacy).copied,
        (reportOf (fun c => db.documents (backupOf c)) legacy).skipped⟩, after) ∧
      after = { db with documents := rolledBack db.documents, queries := after.queries } := by
  obtain ⟨after, hrun, hdestination, -, hcollections⟩ := run_rollback h hids
  have hundrawn := (quiet_rollback fun c hc => (hids c hc).identified).run
  have hspared := spares_rollback.alike_run db
  rw [hrun] at hundrawn hspared
  refine ⟨after, hrun, ?_⟩
  have hdocuments : after.documents = rolledBack db.documents := by
    funext t
    unfold rolledBack
    split
    · rename_i ht
      rw [ht, hdestination]
    · rename_i ht
      split
      · rename_i hlegacy
        exact hcollections t hlegacy
      · rename_i hlegacy
        exact hspared.documents t ⟨fun c hc heq => hlegacy (heq ▸ hc), ht⟩
  rw [← hdocuments]
  exact hundrawn.eq

/-- Wherever a rollback is stopped, every legacy collection is begun. -/
theorem stop_rollback (h : db.Available)
    (hids : ∀ c ∈ legacy, DistinctIds (db.documents (backupOf c))) (n : Nat) :
    ∀ c ∈ legacy, Begun (db.documents (backupOf c)) (db.documents c)
      ((rollback.stop n db).documents c) := by
  have hcleared : ∀ t, t ≠ simplified → (db.put simplified []).documents t = db.documents t :=
    fun t ht => db.documents_put_ne ht []
  have hsources : ∀ c ∈ legacy, DistinctIds ((db.put simplified []).documents (backupOf c)) := by
    intro c hc
    rw [hcleared _ (simplified_ne c hc).2]
    exact hids c hc
  refine Script.stop_bind (P := fun left => ∀ c ∈ legacy,
    Begun (db.documents (backupOf c)) (db.documents c) (left.documents c))
    (Script.run_deleteAll (h.fault? simplified)) (fun n c hc => ?clearing) (fun m c hc => ?copying) n
  case clearing =>
    have hclear := Script.spares_deleteAll (s := (· ≠ simplified)) (fun h => h rfl) Document.empty
    rw [(hclear.alike_stop n db).documents c (simplified_ne c hc).1]
    exact .untouched
  case copying =>
    rw [Script.stop_bind_pure]
    have hbegun := stop_copyAll apart_rollback (h.put simplified []) hsources m c hc
    rwa [hcleared _ (simplified_ne c hc).2, hcleared _ (simplified_ne c hc).1] at hbegun

/-- The backups are as they were. -/
theorem backup_stop_rollback (n : Nat) (db : Database) {c : String} (hc : c ∈ legacy) :
    (rollback.stop n db).documents (backupOf c) = db.documents (backupOf c) :=
  (spares_rollback.alike_stop n db).documents (backupOf c)
    ⟨fun c' hc' heq => apart_rollback.sources c' hc' c hc heq.symm, (simplified_ne c hc).2⟩

/-- What a rollback has left to do where it is stopped makes up for what it has done. -/
theorem rolledBack_stop (h : db.Available)
    (hids : ∀ c ∈ legacy, DistinctIds (db.documents (backupOf c))) (n : Nat) :
    rolledBack (rollback.stop n db).documents = rolledBack db.documents := by
  funext t
  unfold rolledBack
  split
  · rfl
  · rename_i ht
    split
    · rename_i hlegacy
      rw [backup_stop_rollback n db hlegacy]
      exact (stop_rollback h hids n t hlegacy).copied
    · rename_i hlegacy
      exact (spares_rollback.alike_stop n db).documents t ⟨fun c hc heq => hlegacy (heq ▸ hc), ht⟩

/-! ### Stopped any number of times -/

/-- What rollbacks that were stopped may have made of a database. -/
structure Underway (db left : Database) : Prop where
  undrawn : db.Undrawn left
  backups : ∀ c ∈ legacy, left.documents (backupOf c) = db.documents (backupOf c)
  /-- What they have left to do makes up for what they have done. -/
  toCome : rolledBack left.documents = rolledBack db.documents

theorem Underway.refl (db : Database) : Underway db db := ⟨.refl db, fun _ _ => rfl, rfl⟩

section Underway

variable {left : Database}

theorem Underway.available (hleft : Underway db left) (h : db.Available) : left.Available :=
  ⟨hleft.undrawn.offline.trans h.online, hleft.undrawn.failing.trans h.noneFailing⟩

theorem Underway.distinctIds (hleft : Underway db left)
    (hids : ∀ c ∈ legacy, DistinctIds (db.documents (backupOf c))) :
    ∀ c ∈ legacy, DistinctIds (left.documents (backupOf c)) := by
  intro c hc
  rw [hleft.backups c hc]
  exact hids c hc

/-- One more rollback that is stopped makes no difference. -/
theorem Underway.stop (hleft : Underway db left) (h : db.Available)
    (hids : ∀ c ∈ legacy, DistinctIds (db.documents (backupOf c))) (n : Nat) :
    Underway db (rollback.stop n left) := by
  have hids' := hleft.distinctIds hids
  refine ⟨hleft.undrawn.trans ?undrawn, fun c hc => ?backups, ?toCome⟩
  case undrawn => exact quiet_rollback (fun c hc => (hids' c hc).identified) n
  case backups => exact (backup_stop_rollback n left hc).trans (hleft.backups c hc)
  case toCome => exact (rolledBack_stop (hleft.available h) hids' n).trans hleft.toCome

theorem Underway.foldl (hleft : Underway db left) (h : db.Available)
    (hids : ∀ c ∈ legacy, DistinctIds (db.documents (backupOf c))) (stops : List Nat) :
    Underway db (stops.foldl (fun left n => rollback.stop n left) left) := by
  induction stops generalizing left with
  | nil => exact hleft
  | cons n rest ih => exact ih (hleft.stop h hids n)

end Underway

/-- A rollback that is begun again after it was stopped, wherever and however many times that was, ends
in the store in which it would have ended, and restores and skips the same collections; reads are
counted anew.  So does a rollback of what a rollback has restored. -/
theorem rollback_restarted (h : db.Available)
    (hids : ∀ c ∈ legacy, DistinctIds (db.documents (backupOf c))) :
    ∃ report whole, rollback.run db = (.ok report, whole) ∧
      (∀ stops : List Nat, ∃ report' again,
        rollback.run (stops.foldl (fun left n => rollback.stop n left) db) = (.ok report', again) ∧
        again = { whole with queries := again.queries } ∧
        report'.restored = report.restored ∧ report'.skipped = report.skipped) ∧
      ∃ report' twice, rollback.run whole = (.ok report', twice) ∧
        twice = { whole with queries := twice.queries } := by
  obtain ⟨whole, hrun, hwhole⟩ := ok_run_rollback h hids
  have hagain : ∀ stops : List Nat, ∃ report' again,
      rollback.run (stops.foldl (fun left n => rollback.stop n left) db) = (.ok report', again) ∧
        again = { whole with queries := again.queries } ∧
        report'.restored = (reportOf (fun c => db.documents (backupOf c)) legacy).copied ∧
        report'.skipped = (reportOf (fun c => db.documents (backupOf c)) legacy).skipped := by
    intro stops
    have hleft := (Underway.refl db).foldl h hids stops
    generalize stops.foldl (fun left n => rollback.stop n left) db = left at hleft ⊢
    obtain ⟨again, hrun', hagain⟩ := ok_run_rollback (hleft.available h) (hleft.distinctIds hids)
    refine ⟨_, again, hrun', ?_, ?_⟩
    · rw [hleft.toCome] at hagain
      rw [hagain, hwhole, hleft.undrawn.eq]
    · rw [reportOf_congr hleft.backups]
      exact ⟨rfl, rfl⟩
  refine ⟨_, whole, hrun, hagain, ?_⟩
  -- stopped after all of its calls, a rollback has ended
  have hended : rollback.stop (rollback.calls db) db = whole := by
    rw [Script.stop_of_calls_le (Nat.le_refl _), hrun]
  obtain ⟨report', twice, htwice, heq, -⟩ := hagain [rollback.calls db]
  rw [List.foldl_cons, List.foldl_nil, hended] at htwice
  exact ⟨report', twice, htwice, heq⟩

end Rollback

/-- Two provider records and their backup. -/
def twoBackedUp : Database :=
  twoProviders.put (backupOf providers) (twoProviders.documents providers)

/-- Stopped when the providers are cleared, and begun again, a rollback brings them back. -/
theorem restarted_after_clearing :
    twoBackedUp.Available ∧
      (∀ c ∈ legacy, DistinctIds (twoBackedUp.documents (backupOf c))) ∧
      (rollback.stop 3 twoBackedUp).documents providers = [] ∧
      ∃ report again, rollback.run (rollback.stop 3 twoBackedUp) = (.ok report, again) ∧
        again.documents providers = twoProviders.documents providers := by
  have havailable : twoBackedUp.Available := available_twoProviders.put _ _
  have hids : ∀ c ∈ legacy, DistinctIds (twoBackedUp.documents (backupOf c)) := by
    intro c _
    by_cases hc : backupOf c = backupOf providers
    · rw [hc, twoBackedUp, Database.documents_put_self]
      exact distinctIds_twoProviders providers
    · rw [twoBackedUp, Database.documents_put_ne _ hc]
      exact distinctIds_twoProviders (backupOf c)
  obtain ⟨report, whole, hrun, hagain, -⟩ := rollback_restarted havailable hids
  obtain ⟨report', again, hrun', heq, -⟩ := hagain [3]
  refine ⟨havailable, hids, rfl, report', again, hrun', ?_⟩
  rw [heq]
  exact congrArg (·.documents providers) (Prod.mk.inj hrun).2.symm

end Migration

end ProviderRegistry
