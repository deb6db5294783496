/-
# `Proofs.Migration.Destination` — what can ever stand in the destination

Nothing but a migration writes to the destination, and a migration clears it
and then adds the documents of its records one by one.  So the destination is
`Filled` at all times: it holds the documents of some records, which can be read
back and among which the first enabled one is the default.  An insertion that is
refused leaves a first part of the records, and the default of a first part is
the default of the whole where it is reached, so nothing is asked of the
identities that are drawn, and nothing of the outcome of any step.

`Event` is what can happen to a database whose destination nobody else writes
to: the steps of a migration in any order, changes of all other collections, and
flags that are switched between them.

## What is proved

* every step of a migration, and so every event, keeps `Filled`
  (`keeps_backup`, `keeps_migrate`, `keeps_run`, `keeps_rollback`,
  `filled_apply`);
* on a `Filled` destination the check finds no field missing, and neither does
  the check at the end of a run (`validate_not_mismatch`, `run_not_mismatch`);
* so both hold after any row of events that has begun with an empty
  destination (`destination_after_events`).
-/
import ProviderRegistry.Proofs.Migration.Rebuild
import ProviderRegistry.Proofs.Migration.Recovery

namespace ProviderRegistry

open SimplifiedConfig (DefaultMarked)

/-- The documents of records that can be read back and whose default is marked. -/
def Filled (documents : List Document) : Prop :=
  ∃ records : List SimplifiedConfig, documents = records.map SimplifiedConfig.encode ∧
    (∀ r ∈ records, r.createdAt.Resolved) ∧ DefaultMarked records

namespace Filled

theorem nil : Filled [] :=
  ⟨[], rfl, fun _ h => absurd h List.not_mem_nil, SimplifiedConfig.defaultMarked_nil⟩

theorem take {documents : List Document} (h : Filled documents) (n : Nat) :
    Filled (documents.take n) := by
  obtain ⟨records, rfl, hresolved, hmarked⟩ := h
  exact ⟨records.take n, List.map_take.symm, fun r hr => hresolved r (List.mem_of_mem_take hr),
    hmarked.take n⟩

/-- Records of configs that have been read are filled in once their default is assigned. -/
theorem assigned {merged : List SimplifiedConfig} (h : ∀ r ∈ merged, r.createdAt.Resolved) :
    Filled ((SimplifiedConfig.assignDefault merged).map SimplifiedConfig.encode) :=
  ⟨_, rfl, SimplifiedConfig.resolved_assignDefault h,
    SimplifiedConfig.defaultMarked_assignDefault merged⟩

end Filled

namespace Migration

open Collections

/-- The destination of a database is filled. -/
def DestinationFilled (db : Database) : Prop := Filled (db.documents simplified)

theorem destinationFilled_of_alike {s : String → Prop} (hs : s simplified) {a b : Database}
    (hab : Database.Alike s a b) (h : DestinationFilled a) : DestinationFilled b := by
  unfold DestinationFilled
  rw [hab.documents simplified hs]
  exact h

/-- A script that spares the destination keeps it filled. -/
theorem keeps_of_spares {α : Type} {s : String → Prop} {script : Script α}
    (h : script.Spares s) (hs : s simplified) : script.Keeps DestinationFilled :=
  h.keeps fun _ _ hab => destinationFilled_of_alike hs hab

theorem keeps_of_spares_all {α : Type} {script : Script α} (h : script.Spares fun _ => True) :
    script.Keeps DestinationFilled :=
  keeps_of_spares h trivial

/-! ## What the steps end in -/

/-- Any failure but a destination of the wrong shape. -/
def NotMismatch (e : ConfigError) : Prop := ∀ missing, e ≠ .schemaMismatch missing

theorem notMismatch_of_fromStore {e : ConfigError} (h : e.FromStore) : NotMismatch e := by
  intro missing
  cases h <;> exact nofun

theorem ends_call (c : Call) : (Script.call c).Ends (fun _ => True) NotMismatch :=
  Script.ends_call (fun _ => notMismatch_of_fromStore) c

/-- A migration may be refused, but not for the shape of the destination. -/
theorem migrate_not_mismatch {now : DateTime} {force : Bool} {db after : Database} {e : ConfigError}
    (h : (migrate now force).run db = (.error e, after)) : NotMismatch e := by
  rcases error_of_run_migrate h with hstore | ⟨rfl, -⟩
  · exact notMismatch_of_fromStore hstore
  · exact nofun

/-! ## What the steps keep -/

theorem keeps_backup : backup.Keeps DestinationFilled :=
  keeps_of_spares spares_backup fun c hc => (simplified_ne c hc).2

/-- A cleared collection is empty, unless the clearing was refused and left it as it was. -/
theorem documents_clear (db : Database) (c : String) :
    (∃ e after, (Script.deleteAll c Document.empty).run db = (.error e, after) ∧
      after.documents c = db.documents c) ∨
    ∃ n after, (Script.deleteAll c Document.empty).run db = (.ok n, after) ∧
      after.documents c = [] := by
  cases hfault : db.fault? c with
  | none =>
      exact .inr ⟨_, _, Script.run_deleteAll hfault, Database.documents_put_self db c []⟩
  | some fault =>
      exact .inl ⟨fault.toError, db, Script.run_call_of_fault hfault (.inr rfl), rfl⟩

/-- Cleared and filled again, the destination holds first documents of what was to be put there. -/
theorem keeps_refill {α : Type} {ds : List Document} (hds : Filled ds)
    (hids : ∀ d ∈ ds, (d.get? "_id").isSome) (value : α) :
    (Script.deleteAll simplified Document.empty >>= fun _ =>
      Script.insertAll simplified ds >>= fun _ => pure value).Keeps DestinationFilled := by
  intro db hdb
  rcases documents_clear db simplified with ⟨e, after, hclear, hafter⟩ | ⟨n, after, hclear, hafter⟩
  · rw [Script.run_bind_error hclear]
    unfold DestinationFilled
    rw [hafter]
    exact hdb
  · obtain ⟨k, hk⟩ := Script.documents_insertAll simplified hids after
    rw [Script.run_bind_ok hclear, Script.run_map_snd]
    unfold DestinationFilled
    rw [hk, hafter, List.nil_append]
    exact hds.take k

theorem keeps_rebuild (now : DateTime) (force : Bool) (report : BackupReport) :
    (rebuild now force report).Keeps DestinationFilled := by
  intro db hdb
  have hread := keeps_of_spares_all ((reads_survey force).spares _) db hdb
  rw [rebuild_eq]
  rcases hsurvey : (survey force).run db with ⟨e | found, middle⟩
  · rw [hsurvey] at hread
    rw [Script.run_bind_error hsurvey]
    exact hread
  · rw [hsurvey] at hread
    obtain ⟨rfl, -⟩ := ok_of_run_survey hsurvey
    rw [Script.run_bind_ok hsurvey, fill, Script.run_bind_ok (run_mergeAll _ now _ middle)]
    have hrecords := Filled.assigned
      (Survey.resolved_merged db now fun i => middle.ids (middle.drawn + i))
    refine keeps_refill hrecords (fun d hd => ?_) _ _ hread
    obtain ⟨r, -, rfl⟩ := List.mem_map.mp hd
    rfl

theorem keeps_migrate (now : DateTime) (force : Bool) :
    (migrate now force).Keeps DestinationFilled :=
  keeps_backup.bind (Script.ends_any backup) fun report _ => keeps_rebuild now force report

theorem keeps_validate : validate.Keeps DestinationFilled := keeps_of_spares_all spares_validate

theorem keeps_run (now : DateTime) (force : Bool) : (run now force).Keeps DestinationFilled := by
  refine (keeps_migrate now force).bind (Script.ends_any _) fun report _ db hdb => ?_
  rw [Script.run_map_snd]
  exact keeps_validate db hdb

theorem keeps_rollback : rollback.Keeps DestinationFilled := by
  have hclear : (Script.deleteAll simplified Document.empty).Keeps DestinationFilled := by
    intro db hdb
    unfold DestinationFilled
    rcases documents_clear db simplified with ⟨e, after, hrun, hafter⟩ | ⟨n, after, hrun, hafter⟩
    · rw [hrun, hafter]
      exact hdb
    · rw [hrun, hafter]
      exact Filled.nil
  have hcopies : (copyAll (fun c => (backupOf c, c)) legacy).Keeps DestinationFilled :=
    keeps_of_spares (spares_copyAll _ legacy) fun c hc => (simplified_ne c hc).1
  refine hclear.bind (Script.ends_any _) fun cleared _ => ?_
  intro db hdb
  rw [Script.run_map_snd]
  exact hcopies db hdb

/-! ## The check -/

section Check

variable {db after : Database} {α : Type}

theorem alike_of_run {script : Script α} (h : script.Spares fun _ => True)
    {outcome : Outcome α} (hrun : script.run db = (outcome, after)) :
    Database.Alike (fun _ => True) db after := by
  have halike := h.alike_run db
  rwa [hrun] at halike

theorem ok_of_run_findFirst {c : String} {d? : Option Document}
    (h : (Script.findFirst c Document.empty).run db = (.ok d?, after)) :
    d? = (db.documents c).head? := by
  obtain ⟨documents, middle, hfind, hhead⟩ := Script.ok_of_run_bind h
  obtain ⟨-, rfl, -⟩ := Script.ok_of_run_find hfind
  exact (Except.ok.inj (Prod.mk.inj hhead).1).symm

theorem ends_countAll : ∀ cs : List String, (countAll cs).Ends (fun _ => True) NotMismatch
  | [] => trivial
  | _ :: rest =>
      (ends_call _).bind fun _ _ => (ends_countAll rest).bind fun _ _ => trivial

theorem ends_findFirst (c : String) (filter : Document) :
    (Script.findFirst c filter).Ends (fun _ => True) NotMismatch :=
  (ends_call (.find c filter)).bind fun _ _ => trivial

/-- The first document of a filled destination has every required field. -/
theorem missingFields_of_filled {documents : List Document} (h : Filled documents)
    (hne : documents ≠ []) : missingFields (documents.head?.getD Document.empty) = [] := by
  obtain ⟨records, rfl, -, -⟩ := h
  cases records with
  | nil => exact absurd rfl hne
  | cons r rest =>
      refine List.filter_eq_nil_iff.mpr fun name hname => ?_
      have hcontains := SimplifiedConfig.contains_required r name hname
      simp [hcontains]

/-- The check of a filled destination may fail with the store, but finds nothing missing. -/
theorem validate_not_mismatch (h : DestinationFilled db) {e : ConfigError}
    (hrun : validate.run db = (.error e, after)) : NotMismatch e := by
  rcases Script.error_of_run_bind hrun with hcount | ⟨n, db₁, hcount, hrun⟩
  · exact (ends_call _).error hcount
  obtain ⟨-, hn, -⟩ := Script.ok_of_run_count hcount
  have hcounted := alike_of_run (Script.spares_count _) hcount
  rcases Script.error_of_run_bind hrun with hbackups | ⟨backups, db₂, hbackups, hrun⟩
  · exact (ends_countAll _).error hbackups
  have hread := hcounted.trans (alike_of_run (spares_countAll _) hbackups)
  have hfilled : DestinationFilled db₂ := destinationFilled_of_alike trivial hread h
  split at hrun
  · exact nomatch (Prod.mk.inj hrun).1
  · rename_i hpositive
    rcases Script.error_of_run_bind hrun with hfind | ⟨sample, db₃, hfind, hrun⟩
    · exact (ends_findFirst _ _).error hfind
    -- the destination has not changed since its documents were counted
    have hne : db₂.documents simplified ≠ [] := by
      intro hnil
      rw [hread.documents simplified trivial] at hnil
      simp [hn, hnil] at hpositive
    rw [ok_of_run_findFirst hfind, missingFields_of_filled hfilled hne] at hrun
    exact nomatch (Prod.mk.inj hrun).1

theorem run_not_mismatch (h : DestinationFilled db) (now : DateTime) (force : Bool)
    {e : ConfigError} (hrun : (run now force).run db = (.error e, after)) : NotMismatch e := by
  rcases Script.error_of_run_bind hrun with hmigrate | ⟨report, middle, hmigrate, hrun⟩
  · exact migrate_not_mismatch hmigrate
  have hmiddle := keeps_migrate now force db h
  rw [hmigrate] at hmiddle
  rcases Script.error_of_run_bind hrun with hvalidate | ⟨validation, middle', hvalidate, hrun⟩
  · exact validate_not_mismatch hmiddle hvalidate
  · exact nomatch (Prod.mk.inj hrun).1

end Check

/-! ## Everything that can happen to a database -/

/-- A step of a migration, or something that happens between two steps. -/
inductive Event where
  | backup
  | migrate (now : DateTime) (force : Bool)
  | run (now : DateTime) (force : Bool)
  | validate
  | rollback
  /-- A call or a seeding by others, who do not write to the destination. -/
  | change (made : Database.Change) (elsewhere : made.target? ≠ some simplified)
  /-- The store goes offline or comes back, and collections are marked as failing. -/
  | switch (offline : Bool) (failing : List String)

/-- The database after an event; what a step answers is left out. -/
def Event.apply (db : Database) : Event → Database
  | .backup => (Migration.backup.run db).2
  | .migrate now force => ((Migration.migrate now force).run db).2
  | .run now force => ((Migration.run now force).run db).2
  | .validate => (Migration.validate.run db).2
  | .rollback => (Migration.rollback.run db).2
  | .change made _ => made.apply db
  | .switch offline failing => { db with offline, failing }

theorem filled_apply {db : Database} (h : DestinationFilled db) (event : Event) :
    DestinationFilled (event.apply db) := by
  cases event with
  | backup => exact keeps_backup db h
  | migrate now force => exact keeps_migrate now force db h
  | run now force => exact keeps_run now force db h
  | validate => exact keeps_validate db h
  | rollback => exact keeps_rollback db h
  | change made elsewhere =>
      have hspared : ∀ c, made.target? = some c → ¬ c = simplified :=
        fun c hc heq => elsewhere (heq ▸ hc)
      exact destinationFilled_of_alike (s := (· = simplified)) rfl (Database.alike_apply hspared db) h
  | switch offline failing => exact h

theorem filled_foldl {db : Database} (h : DestinationFilled db) (events : List Event) :
    DestinationFilled (events.foldl Event.apply db) := by
  induction events generalizing db with
  | nil => exact h
  | cons event rest ih => exact ih (filled_apply h event)

/-- Whatever happens to a database whose destination was empty and to which nobody else writes:
each document of the destination decodes, exactly the first enabled record is the default, and
neither a check nor a run finds the destination to be of the wrong shape. -/
theorem destination_after_events {db : Database} (hempty : db.documents simplified = [])
    (events : List Event) :
    (∃ records, ((events.foldl Event.apply db).documents simplified).mapM SimplifiedConfig.decode
        = .ok records ∧ DefaultMarked records) ∧
      (∀ missing, validate.outcome (events.foldl Event.apply db)
        ≠ .error (.schemaMismatch missing)) ∧
      ∀ now force missing, (run now force).outcome (events.foldl Event.apply db)
        ≠ .error (.schemaMismatch missing) := by
  have hstart : DestinationFilled db := by
    unfold DestinationFilled
    rw [hempty]
    exact Filled.nil
  have hfilled := filled_foldl hstart events
  generalize events.foldl Event.apply db = left at hfilled ⊢
  refine ⟨?_, fun missing h => ?_, fun now force missing h => ?_⟩
  · obtain ⟨records, hrecords, hresolved, hmarked⟩ := hfilled
    rw [hrecords]
    exact ⟨records, SimplifiedConfig.mapM_decode_encode hresolved, hmarked⟩
  · exact validate_not_mismatch hfilled (Prod.ext h rfl) missing rfl
  · exact run_not_mismatch hfilled now force (Prod.ext h rfl) missing rfl

/-- Two configs, of which the second is enabled, and a document that is none. -/
def twoConfigs : Database :=
  (Database.empty ObjectId.ofNat).put legacyConfigs [
    ⟨[("_id", .objectId (ObjectId.ofNat 1)), ("provider", .string "openai"),
      ("model_name", .string "gpt-4o"), ("enabled", .boolean false)]⟩,
    ⟨[("_id", .objectId (ObjectId.ofNat 2)), ("provider", .int32 5)]⟩,
    ⟨[("_id", .objectId (ObjectId.ofNat 3)), ("provider", .string "zhipu"),
      ("model_name", .string "glm-4"), ("api_key", .string "sk-1")]⟩]

/-- A migration, a run that cannot clear the destination, a rollback and a run by force. -/
def interruptedRuns : List Event :=
  [.migrate ⟨0⟩ false, .switch false [simplified], .run ⟨1⟩ true, .switch false [], .rollback,
    .run ⟨2⟩ true]

/-- Both configs end in the destination, and the enabled one is the default. -/
theorem destination_twoConfigs :
    twoConfigs.documents simplified = [] ∧
      ∃ records, ((interruptedRuns.foldl Event.apply twoConfigs).documents simplified).mapM
          SimplifiedConfig.decode = .ok records ∧
        DefaultMarked records ∧ records.map (·.isDefault) = [false, true] := by
  obtain ⟨⟨records, hrecords, hmarked⟩, -, -⟩ :=
    @destination_after_events twoConfigs rfl interruptedRuns
  have hmarks : (((interruptedRuns.foldl Event.apply twoConfigs).documents simplified).mapM
      SimplifiedConfig.decode).toOption.map (·.map (·.isDefault)) = some [false, true] := by
    decide +kernel
  rw [hrecords] at hmarks
  exact ⟨rfl, records, hrecords, hmarked, Option.some.inj hmarks⟩

end Migration

end ProviderRegistry
