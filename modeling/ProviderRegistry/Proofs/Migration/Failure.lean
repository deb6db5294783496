/-
# `Proofs.Migration.Failure` — what a step of a migration that fails leaves behind

Any of the collections may be marked as failing, and every step clears a
collection before it fills it.  But what could be cleared can be filled: the
flags do not change during a step, and the documents that are put there have
distinct identities.  So a step fails between two collections, never inside one.

For a row of copies this is `FailedAt`.  It cuts the row at the first copy that
meets a fault (`copyFault?`): the copies before it are complete, and from it on
every target is untouched.

## What is proved

    a row of copies that fails has failed at one of them       (`failedAt_copyAll`)
    a rebuild that fails has not begun to write                (`kept_of_rebuild_error`)

and from these what the three steps that write leave of their targets when they
fail (`failedAt_backup`, `kept_of_migrate_error`, `failed_rollback`), together in
`all_or_nothing_of_failure`.
-/
import ProviderRegistry.Proofs.Migration.Rebuild

namespace ProviderRegistry

namespace Migration

open Collections

/-! ## A row of copies that fails -/

theorem copyFault?_of_alike {s : String → Prop} {a b : Database} (h : a.Alike s b)
    {source : String} (hsource : s source) (target : String) :
    copyFault? b source target = copyFault? a source target := by
  simp only [copyFault?, h.fault?, h.documents source hsource]

/-- A row of copies has failed at one of them: it is cut there, with the complete copies before it
and the ones that have not begun from it on. -/
structure FailedAt (ends : String → String × String) (cs : List String) (db after : Database)
    (e : ConfigError) (before : List String) (c : String) (rest : List String) : Prop where
  cut : cs = before ++ c :: rest
  passed : ∀ c' ∈ before, copyFault? db (ends c').1 (ends c').2 = none
  met : ∃ fault, copyFault? db (ends c).1 (ends c).2 = some fault ∧ e = fault.toError
  complete : ∀ c' ∈ before, after.documents (ends c').2
    = copied (db.documents (ends c').1) (db.documents (ends c').2)
  untouched : ∀ c' ∈ c :: rest, after.documents (ends c').2 = db.documents (ends c').2

section Row

variable {ends : String → String × String} {cs : List String} {db after : Database}
  {e : ConfigError}

/-- Of the database at the start, only what the row copies between counts. -/
theorem FailedAt.of_alike {a b : Database} {before rest : List String} {c : String}
    (h : FailedAt ends cs a after e before c rest) (hab : a.Alike (Involved ends cs) b) :
    FailedAt ends cs b after e before c rest := by
  have hmem : ∀ c' ∈ before ++ c :: rest, c' ∈ cs := fun _ hc' => h.cut ▸ hc'
  have hbefore : ∀ c' ∈ before, c' ∈ cs := fun c' hc' => hmem c' (List.mem_append_left _ hc')
  have hlater : ∀ c' ∈ c :: rest, c' ∈ cs := fun c' hc' => hmem c' (List.mem_append_right _ hc')
  have hsource : ∀ c' ∈ cs, Involved ends cs (ends c').1 := fun c' hc' => ⟨c', hc', .inl rfl⟩
  have htarget : ∀ c' ∈ cs, Involved ends cs (ends c').2 := fun c' hc' => ⟨c', hc', .inr rfl⟩
  have hfault : ∀ c' ∈ cs, copyFault? b (ends c').1 (ends c').2
      = copyFault? a (ends c').1 (ends c').2 :=
    fun c' hc' => copyFault?_of_alike hab (hsource c' hc') _
  refine ⟨h.cut, ?passed, ?met, ?complete, ?untouched⟩
  case passed =>
    intro c' hc'
    rw [hfault c' (hbefore c' hc')]
    exact h.passed c' hc'
  case met =>
    rw [hfault c (hlater c List.mem_cons_self)]
    exact h.met
  case complete =>
    intro c' hc'
    rw [hab.documents _ (hsource c' (hbefore c' hc')), hab.documents _ (htarget c' (hbefore c' hc'))]
    exact h.complete c' hc'
  case untouched =>
    intro c' hc'
    rw [hab.documents _ (htarget c' (hlater c' hc'))]
    exact h.untouched c' hc'

/-- A copy that ended before a row that has failed makes it longer at its start. -/
theorem FailedAt.cons {first c : String} {before rest : List String}
    (h : FailedAt ends cs db after e before c rest)
    (hpassed : copyFault? db (ends first).1 (ends first).2 = none)
    (hcomplete : after.documents (ends first).2
      = copied (db.documents (ends first).1) (db.documents (ends first).2)) :
    FailedAt ends (first :: cs) db after e (first :: before) c rest where
  cut := congrArg (List.cons first) h.cut
  passed := by
    intro c' hc'
    rcases List.mem_cons.mp hc' with rfl | hbefore
    · exact hpassed
    · exact h.passed c' hbefore
  met := h.met
  complete := by
    intro c' hc'
    rcases List.mem_cons.mp hc' with rfl | hbefore
    · exact hcomplete
    · exact h.complete c' hbefore
  untouched := h.untouched

/-- A row of copies of documents with distinct identities fails at a copy that meets a fault, and at
the first one that does. -/
theorem failedAt_copyAll (hcs : Apart ends cs)
    (hids : ∀ c ∈ cs, DistinctIds (db.documents (ends c).1))
    (h : (copyAll ends cs).run db = (.error e, after)) :
    ∃ before c rest, FailedAt ends cs db after e before c rest := by
  induction cs generalizing db with
  | nil => exact nomatch (Prod.mk.inj h).1
  | cons c rest ih =>
      cases hfault : copyFault? db (ends c).1 (ends c).2 with
      | some fault =>
          obtain ⟨reads, hcopy⟩ := run_copy_of_fault hfault
          obtain ⟨he, rfl⟩ := Prod.mk.inj ((Script.run_bind_error hcopy).symm.trans h)
          exact ⟨[], c, rest, {
            cut := rfl
            passed := fun _ hc' => nomatch hc'
            met := ⟨fault, hfault, (Except.error.inj he).symm⟩
            complete := fun _ hc' => nomatch hc'
            untouched := fun _ _ => rfl }⟩
      | none =>
          obtain ⟨middle, hcopy, htarget, hkept⟩ := hcs.run_head hfault (hids c List.mem_cons_self)
          rcases Script.error_of_run_bind ((Script.run_bind_ok hcopy).symm.trans h) with
            hrest | ⟨_, _, _, hend⟩
          · obtain ⟨before, c', later, hfailed⟩ := ih hcs.tail (sources_tail hids hkept) hrest
            have hlater := hcs.spares_target.alike_run middle
            rw [hrest] at hlater
            have hcomplete := (hlater.documents _ rfl).trans htarget
            exact ⟨c :: before, c', later, (hfailed.of_alike hkept.symm).cons hfault hcomplete⟩
          · exact nomatch (Prod.mk.inj hend).1

end Row

/-! ## A rebuild that fails -/

section Rebuild

variable {db after : Database} {e : ConfigError}

/-- A rebuild that fails has not begun to write: it was refused by the store or by the destination
before, and what it writes then is not refused. -/
theorem kept_of_rebuild_error (hfresh : db.Supplies (db.documents legacyConfigs).length)
    {now : DateTime} {force : Bool} {report : BackupReport}
    (h : (rebuild now force report).run db = (.error e, after)) :
    after.documents simplified = db.documents simplified := by
  rw [rebuild_eq] at h
  rcases Script.error_of_run_bind h with hsurvey | ⟨found, middle, hsurvey, hfill⟩
  · have halike := ((reads_survey force).spares fun _ => True).alike_run db
    rw [hsurvey] at halike
    exact halike.documents simplified trivial
  · obtain ⟨rfl, husable⟩ := ok_of_run_survey hsurvey
    obtain ⟨reads, -, hserved⟩ := (reads_survey force).run_served db
    rw [hsurvey] at hserved
    obtain rfl : middle = db.served reads := hserved
    have hconfigs : (Survey.of db).configs.length ≤ (db.documents legacyConfigs).length :=
      List.length_filterMap_le _ _
    have hsupplies : (db.served reads).Supplies (Survey.of db).configs.length :=
      (db.undrawn_served reads).supplies (hfresh.mono hconfigs)
    have husable' : (db.served reads).fault? simplified = none := husable
    rw [run_fill husable' hsupplies now report] at hfill
    exact nomatch (Prod.mk.inj hfill).1

end Rebuild

/-! ## The steps -/

section Steps

variable {db after : Database} {e : ConfigError}

theorem failedAt_backup (hids : ∀ c ∈ legacy, DistinctIds (db.documents c))
    (h : backup.run db = (.error e, after)) :
    ∃ before c rest, FailedAt (fun c => (c, backupOf c)) legacy db after e before c rest := by
  rcases Script.error_of_run_bind h with hcopies | ⟨_, _, _, hend⟩
  · exact failedAt_copyAll apart_backup hids hcopies
  · exact nomatch (Prod.mk.inj hend).1

/-- A migration that fails leaves the destination: its backup is not into it, and draws no identity
that the rebuild could want. -/
theorem kept_of_migrate_error (hids : ∀ c ∈ legacy, DistinctIds (db.documents c))
    (hfresh : db.Supplies (db.documents legacyConfigs).length) {now : DateTime} {force : Bool}
    (h : (migrate now force).run db = (.error e, after)) :
    after.documents simplified = db.documents simplified := by
  have hspared : ∀ c ∈ legacy, backupOf c ≠ simplified := fun c hc => (simplified_ne c hc).2
  have halike := spares_backup.alike_run db
  rcases Script.error_of_run_bind h with hbackup | ⟨report, middle, hbackup, hrebuild⟩
  · rw [hbackup] at halike
    exact halike.documents simplified hspared
  · have hundrawn := (quiet_backup fun c hc => (hids c hc).identified).run
    rw [hbackup] at halike hundrawn
    have hconfigs : middle.documents legacyConfigs = db.documents legacyConfigs :=
      halike.documents legacyConfigs (by decide)
    have hsupplies : middle.Supplies (middle.documents legacyConfigs).length := by
      rw [hconfigs]
      exact hundrawn.supplies hfresh
    exact (kept_of_rebuild_error hsupplies hrebuild).trans (halike.documents simplified hspared)

/-- A rollback that fails has not been able to clear the destination, and has changed nothing, or it
has cleared it and failed between two collections. -/
theorem failed_rollback (hids : ∀ c ∈ legacy, DistinctIds (db.documents (backupOf c)))
    (h : rollback.run db = (.error e, after)) :
    (∃ fault, db.fault? simplified = some fault ∧ e = fault.toError ∧ after = db) ∨
      (db.fault? simplified = none ∧ after.documents simplified = [] ∧
        ∃ before c rest, FailedAt (fun c => (backupOf c, c)) legacy db after e before c rest) := by
  cases hfault : db.fault? simplified with
  | some fault =>
      have hclear : (Script.deleteAll simplified Document.empty).run db
          = (.error fault.toError, db) := Script.run_call_of_fault hfault (.inr rfl)
      obtain ⟨he, rfl⟩ := Prod.mk.inj ((Script.run_bind_error hclear).symm.trans h)
      exact .inl ⟨fault, rfl, (Except.error.inj he).symm, rfl⟩
  | none =>
      have hcleared : (db.put simplified []).Alike (Involved (fun c => (backupOf c, c)) legacy) db := by
        refine (db.alike_put ?_ []).symm
        rintro ⟨c, hc, hbackup | hcollection⟩
        · exact (simplified_ne c hc).2 hbackup.symm
        · exact (simplified_ne c hc).1 hcollection.symm
      rcases Script.error_of_run_bind
          ((Script.run_bind_ok (Script.run_deleteAll hfault)).symm.trans h) with
        hcopies | ⟨_, _, _, hend⟩
      · have hsources : ∀ c ∈ legacy, DistinctIds ((db.put simplified []).documents (backupOf c)) := by
          intro c hc
          rw [Database.documents_put_ne db (simplified_ne c hc).2]
          exact hids c hc
        obtain ⟨before, c, rest, hfailed⟩ := failedAt_copyAll apart_rollback hsources hcopies
        have hkept := (spares_copyAll (fun c => (backupOf c, c)) legacy).alike_run
          (db.put simplified [])
        rw [hcopies] at hkept
        have hempty : after.documents simplified = [] := by
          rw [hkept.documents simplified fun c hc => (simplified_ne c hc).1,
            Database.documents_put_self]
        exact .inr ⟨rfl, hempty, before, c, rest, hfailed.of_alike hcleared⟩
      · exact nomatch (Prod.mk.inj hend).1

end Steps

/-- What the steps leave of a database with distinct identities when they fail.  A backup has failed
between two collections; a migration has left the destination; and a rollback has not even begun, or
it has cleared the destination and failed between two collections. -/
theorem all_or_nothing_of_failure {db : Database} (hids : ∀ c, DistinctIds (db.documents c))
    (hfresh : db.Supplies (db.documents legacyConfigs).length) :
    (∀ e after, backup.run db = (.error e, after) →
      ∃ before c rest, FailedAt (fun c => (c, backupOf c)) legacy db after e before c rest) ∧
    (∀ now force e after, (migrate now force).run db = (.error e, after) →
      after.documents simplified = db.documents simplified) ∧
    ∀ e after, rollback.run db = (.error e, after) →
      (∃ fault, db.fault? simplified = some fault ∧ e = fault.toError ∧ after = db) ∨
        (db.fault? simplified = none ∧ after.documents simplified = [] ∧
          ∃ before c rest, FailedAt (fun c => (backupOf c, c)) legacy db after e before c rest) := by
  refine ⟨?backup, ?migrate, ?rollback⟩
  case backup =>
    intro e after h
    exact failedAt_backup (fun c _ => hids c) h
  case migrate =>
    intro now force e after h
    exact kept_of_migrate_error (fun c _ => hids c) hfresh h
  case rollback =>
    intro e after h
    exact failed_rollback (fun c _ => hids (backupOf c)) h

/-- Two documents in every collection, of which the catalogs cannot be used. -/
def catalogsFailing : Database where
  documents := fun _ =>
    [⟨[("_id", .objectId (ObjectId.ofNat 1))]⟩, ⟨[("_id", .objectId (ObjectId.ofNat 2))]⟩]
  offline := false
  failing := [catalogs]
  queries := 0
  ids := ObjectId.ofNat
  drawn := 0

/-- Every step fails there, and the rollback after it has cleared the destination. -/
theorem failures_of_catalogs :
    (∀ c, DistinctIds (catalogsFailing.documents c)) ∧
      catalogsFailing.Supplies (catalogsFailing.documents legacyConfigs).length ∧
      (∃ e after, backup.run catalogsFailing = (.error e, after) ∧
        ∃ before c rest,
          FailedAt (fun c => (c, backupOf c)) legacy catalogsFailing after e before c rest) ∧
      (∃ e after, (migrate ⟨0⟩ true).run catalogsFailing = (.error e, after) ∧
        after.documents simplified = catalogsFailing.documents simplified) ∧
      ∃ e after, rollback.run catalogsFailing = (.error e, after) ∧
        after.documents simplified = [] := by
  have hproviders : DistinctIds (catalogsFailing.documents providers) := ⟨by decide, by decide⟩
  have hids : ∀ c, DistinctIds (catalogsFailing.documents c) := fun _ => hproviders
  have hfresh : catalogsFailing.Supplies (catalogsFailing.documents legacyConfigs).length := by
    show catalogsFailing.Supplies 2
    unfold Database.Supplies
    decide
  obtain ⟨hbackup, hmigrate, hrollback⟩ := all_or_nothing_of_failure hids hfresh
  refine ⟨hids, hfresh, ⟨_, _, rfl, hbackup _ _ rfl⟩, ⟨_, _, rfl, hmigrate ⟨0⟩ true _ _ rfl⟩,
    _, _, rfl, ?_⟩
  rcases hrollback _ _ rfl with ⟨fault, hfault, -, -⟩ | ⟨-, hcleared, -⟩
  · exact nomatch hfault
  · exact hcleared

end Migration

end ProviderRegistry
