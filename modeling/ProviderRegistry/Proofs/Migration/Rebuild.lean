/-
# `Proofs.Migration.Rebuild` — a rebuild reads first, and then it writes

A rebuild makes all its reads before its first write.  Taken apart there, it is
a survey of the legacy collections, which may refuse or fail and leaves
everything as it is, and the filling of the destination with the records that
the survey gives (`rebuild_eq`).  These are `Survey.records`, a function of what
was found and of the identities that are next in the supply.

## What is proved

    survey, ended          what it found is `Survey.of db`                (`ok_of_run_survey`)
    fill, ended            the destination holds the survey's records     (`ok_of_run_fill`)
    fill, on a destination that can be used and with a supply of distinct
      identities           it ends                                        (`run_fill`)

A rebuild fails as the store refuses it, or because the destination holds
documents and is not overwritten by force, and then it has only counted them
(`error_of_run_rebuild`); a migration has made its backup besides
(`error_of_run_migrate`).
-/
import ProviderRegistry.Proofs.Migration.Backup
import ProviderRegistry.Proofs.Record.Simplified
import ProviderRegistry.Proofs.Store.Endings
import ProviderRegistry.Resolution

namespace ProviderRegistry

open Resolution (decodable)

namespace SimplifiedConfig

/-- Documents of records with distinct identities. -/
theorem distinctIds_encode {records : List SimplifiedConfig}
    (h : records.Pairwise fun earlier later => earlier.id ≠ later.id) :
    DistinctIds (records.map encode) where
  identified := by
    intro d hd
    obtain ⟨r, -, rfl⟩ := List.mem_map.mp hd
    rfl
  apart := by
    refine List.pairwise_map.mpr (h.imp fun {a b} hne => ?_)
    rintro x ⟨⟩ y ⟨⟩
    exact beq_false_of_ne hne

end SimplifiedConfig

namespace Script

variable {db after : Database} {c : String}

/-- Documents that have all been added stand at the end of the collection, in order. -/
theorem ok_of_run_insertAll {ds : List Document} (hids : ∀ d ∈ ds, (d.get? "_id").isSome) {n : Nat}
    (h : (insertAll c ds).run db = (.ok n, after)) :
    after.documents c = db.documents c ++ ds := by
  induction ds generalizing db after n with
  | nil =>
      rw [← (Prod.mk.inj h).2, List.append_nil]
  | cons d rest ih =>
      obtain ⟨id, middle, hinsert, hthen⟩ := ok_of_run_bind h
      obtain ⟨k, last, hrest, hend⟩ := ok_of_run_bind hthen
      have hanswer : db.answer (.insert c d) = (.ok id, middle) :=
        (run_call (.insert c d) db).symm.trans hinsert
      rcases db.documents_insert c (hids d List.mem_cons_self) with
        ⟨e, refused, hrefused, -⟩ | ⟨id', added, hadded, hdocuments⟩
      · exact nomatch (Prod.mk.inj (hanswer.symm.trans hrefused)).1
      · have hmiddle : middle = added := (Prod.mk.inj (hanswer.symm.trans hadded)).2
        have hlast := ih (fun d' hd' => hids d' (List.mem_cons_of_mem d hd')) hrest
        rw [← (Prod.mk.inj hend).2, hlast, hmiddle, hdocuments, List.append_assoc]
        rfl

end Script

namespace Migration

open Collections

/-! ## The two halves -/

/-- What the legacy collections hold that decodes, and how many documents do not. -/
structure Survey where
  providers : List ProviderRecord
  catalogs : List ModelCatalog
  configs : List LegacyConfig
  skipped : Nat

/-- The number of documents that do not decode. -/
def undecoded {α : Type} (decode : Document → Decoded α) (documents : List Document) : Nat :=
  documents.length - (decodable decode documents).length

namespace Survey

/-- The providers and catalogs by name. -/
def lookup (s : Survey) : LegacyLookup := LegacyLookup.ofRecords s.providers s.catalogs

/-- What is found in a database. -/
def of (db : Database) : Survey where
  providers := decodable ProviderRecord.decode (db.documents Collections.providers)
  catalogs := decodable ModelCatalog.decode (db.documents Collections.catalogs)
  configs := decodable LegacyConfig.decode (db.documents legacyConfigs)
  skipped := undecoded ProviderRecord.decode (db.documents Collections.providers)
    + undecoded ModelCatalog.decode (db.documents Collections.catalogs)
    + undecoded LegacyConfig.decode (db.documents legacyConfigs)

/-- The flat records of what was found, under the identities of a supply from a number on. -/
def records (s : Survey) (now : DateTime) (ids : Nat → ObjectId) (first : Nat) :
    List SimplifiedConfig :=
  SimplifiedConfig.assignDefault
    (s.configs.mapIdx fun i c => SimplifiedConfig.merge s.lookup now (ids (first + i)) c)

/-- What a rebuild tells of a survey and of the records that it made. -/
def report (s : Survey) (backup : BackupReport) (records : List SimplifiedConfig) :
    MigrationReport where
  backup := backup
  providersRead := s.providers.length
  catalogsRead := s.catalogs.length
  configsRead := s.configs.length
  migrated := records.length
  skippedRecords := s.skipped
  unmatchedProviders := unmatched s.lookup s.configs
  defaultConfig := (records.find? (·.isDefault)).map SimplifiedConfig.label

end Survey

/-- The reads of a rebuild. -/
def survey (force : Bool) : Script Survey := do
  let existing ← Script.count simplified
  if existing > 0 && !force then
    Script.fail (.alreadyMigrated existing)
  else
    let (providers, badProviders) ← readAll Collections.providers ProviderRecord.decode
    let (catalogs, badCatalogs) ← readAll Collections.catalogs ModelCatalog.decode
    let (configs, badConfigs) ← readAll legacyConfigs LegacyConfig.decode
    return ⟨providers, catalogs, configs, badProviders + badCatalogs + badConfigs⟩

/-- The writes of a rebuild. -/
def fill (now : DateTime) (backup : BackupReport) (s : Survey) : Script MigrationReport := do
  let merged ← mergeAll s.lookup now s.configs
  let records := SimplifiedConfig.assignDefault merged
  let _ ← Script.deleteAll simplified Document.empty
  let _ ← Script.insertAll simplified (records.map SimplifiedConfig.encode)
  return s.report backup records

theorem rebuild_eq (now : DateTime) (force : Bool) (backup : BackupReport) :
    rebuild now force backup = survey force >>= fill now backup := by
  unfold rebuild survey
  rw [bind_assoc]
  refine bind_congr fun existing => ?_
  split
  · rfl
  · simp only [bind_assoc, pure_bind]
    rfl

/-! ## The survey -/

section Survey

variable {db after : Database}

theorem reads_readAll {α : Type} {s : String → Prop} {c : String} (hc : s c)
    (decode : Document → Decoded α) : (readAll c decode).Reads s :=
  (Script.reads_find hc _).bind fun _ => Script.reads_pure _

theorem reads_survey (force : Bool) : (survey force).Reads fun _ => True := by
  refine (Script.reads_count trivial).bind fun existing => ?_
  split
  · exact Script.reads_fail _
  · refine (reads_readAll trivial ProviderRecord.decode).bind fun _ => ?_
    refine (reads_readAll trivial ModelCatalog.decode).bind fun _ => ?_
    exact (reads_readAll trivial LegacyConfig.decode).bind fun _ => Script.reads_pure _

theorem ok_of_run_readAll {α : Type} {c : String} {decode : Document → Decoded α}
    {found : List α × Nat} (h : (readAll c decode).run db = (.ok found, after)) :
    found = (decodable decode (db.documents c), undecoded decode (db.documents c)) ∧
      after = db.counted := by
  obtain ⟨documents, middle, hfind, hend⟩ := Script.ok_of_run_bind h
  obtain ⟨-, rfl, rfl⟩ := Script.ok_of_run_find hfind
  obtain ⟨hfound, rfl⟩ := Prod.mk.inj hend
  exact ⟨(Except.ok.inj hfound).symm, rfl⟩

/-- A survey that ends has read the legacy collections as they are. -/
theorem ok_of_run_survey {force : Bool} {found : Survey}
    (h : (survey force).run db = (.ok found, after)) :
    found = Survey.of db ∧ db.fault? simplified = none := by
  obtain ⟨existing, db₁, hcount, h⟩ := Script.ok_of_run_bind h
  obtain ⟨husable, rfl, rfl⟩ := Script.ok_of_run_count hcount
  split at h
  · exact nomatch (Prod.mk.inj h).1
  · obtain ⟨providers, db₂, hproviders, h⟩ := Script.ok_of_run_bind h
    obtain ⟨rfl, rfl⟩ := ok_of_run_readAll hproviders
    obtain ⟨catalogs, db₃, hcatalogs, h⟩ := Script.ok_of_run_bind h
    obtain ⟨rfl, rfl⟩ := ok_of_run_readAll hcatalogs
    obtain ⟨configs, db₄, hconfigs, h⟩ := Script.ok_of_run_bind h
    obtain ⟨rfl, rfl⟩ := ok_of_run_readAll hconfigs
    exact ⟨(Except.ok.inj (Prod.mk.inj h).1).symm, husable⟩

/-- A survey that fails was refused by the store, or found a destination that holds documents and is
not to be overwritten. -/
theorem error_of_run_survey {force : Bool} {e : ConfigError}
    (h : (survey force).run db = (.error e, after)) :
    e.FromStore ∨ e = .alreadyMigrated (db.documents simplified).length ∧ after = db.counted := by
  have hcall : ∀ call : Call, (Script.call call).Ends (fun _ => True) ConfigError.FromStore :=
    Script.ends_call fun _ he => he
  have hread : ∀ {α : Type} (c : String) (decode : Document → Decoded α),
      (readAll c decode).Ends (fun _ => True) ConfigError.FromStore :=
    fun c _ => (hcall (.find c _)).bind fun _ _ => trivial
  rcases Script.error_of_run_bind h with hcount | ⟨existing, middle, hcount, hthen⟩
  · exact .inl ((hcall _).error hcount)
  · obtain ⟨-, rfl, rfl⟩ := Script.ok_of_run_count hcount
    split at hthen
    · obtain ⟨he, rfl⟩ := Prod.mk.inj hthen
      exact .inr ⟨(Except.error.inj he).symm, rfl⟩
    · refine .inl (Script.Ends.error (Q := fun _ => True) ?_ hthen)
      refine (hread providers ProviderRecord.decode).bind fun _ _ => ?_
      refine (hread catalogs ModelCatalog.decode).bind fun _ _ => ?_
      exact (hread legacyConfigs LegacyConfig.decode).bind fun _ _ => trivial

end Survey

/-! ## The filling -/

section Fill

variable {db after : Database}

/-- Identities are drawn one after the other, in the order of the configs. -/
theorem run_mergeAll (lookup : LegacyLookup) (now : DateTime) (configs : List LegacyConfig)
    (db : Database) :
    (mergeAll lookup now configs).run db
      = (.ok (configs.mapIdx fun i c =>
          SimplifiedConfig.merge lookup now (db.ids (db.drawn + i)) c),
        { db with drawn := db.drawn + configs.length }) := by
  induction configs generalizing db with
  | nil => rfl
  | cons c rest ih =>
      have hdraw : Script.newId.run db = (.ok (db.ids db.drawn), { db with drawn := db.drawn + 1 }) :=
        Script.run_call .newId db
      show (Script.newId >>= fun id => mergeAll lookup now rest >>= fun records =>
        pure (SimplifiedConfig.merge lookup now id c :: records)).run db = _
      rw [Script.run_bind_ok hdraw, Script.run_bind_ok (ih _), Script.run_pure, List.mapIdx_cons,
        List.length_cons]
      simp only [Nat.add_zero, Nat.add_assoc, Nat.add_comm 1]

theorem Survey.length_records (s : Survey) (now : DateTime) (ids : Nat → ObjectId) (first : Nat) :
    (s.records now ids first).length = s.configs.length := by
  simp [Survey.records, SimplifiedConfig.assignDefault_eq]

/-- What is merged of configs that have been read can be read back. -/
theorem Survey.resolved_merged (db : Database) (now : DateTime) (ids : Nat → ObjectId) :
    ∀ r ∈ (Survey.of db).configs.mapIdx fun i c =>
      SimplifiedConfig.merge (Survey.of db).lookup now (ids i) c, r.createdAt.Resolved := by
  intro r hr
  obtain ⟨i, hi, rfl⟩ := List.mem_mapIdx.mp hr
  obtain ⟨d, -, hd⟩ := List.mem_filterMap.mp (List.getElem_mem hi)
  cases hdecode : LegacyConfig.decode d with
  | error e => simp [hdecode, Except.toOption] at hd
  | ok c =>
      obtain rfl : c = (Survey.of db).configs[i] := by simpa [hdecode, Except.toOption] using hd
      exact SimplifiedConfig.resolved_merge _ now (ids i) hdecode

/-- The records have the identities of the supply, in its order. -/
theorem Survey.id_records (s : Survey) (now : DateTime) (ids : Nat → ObjectId) (first : Nat)
    {i : Nat} (hi : i < (s.records now ids first).length) :
    (s.records now ids first)[i].id = ids (first + i) := by
  simp [Survey.records, SimplifiedConfig.assignDefault_eq, SimplifiedConfig.merge]

theorem Survey.distinctIds_records (s : Survey) (now : DateTime) (h : db.Supplies s.configs.length) :
    DistinctIds ((s.records now db.ids db.drawn).map SimplifiedConfig.encode) := by
  refine SimplifiedConfig.distinctIds_encode (List.pairwise_iff_getElem.mpr ?_)
  intro i j hi hj hij
  rw [s.id_records, s.id_records]
  exact h j (s.length_records now db.ids db.drawn ▸ hj) i hij

/-- The destination, where it can be used, is filled with the records of a survey. -/
theorem run_fill {s : Survey} (h : db.fault? simplified = none)
    (hfresh : db.Supplies s.configs.length) (now : DateTime) (backup : BackupReport) :
    (fill now backup s).run db
      = (.ok (s.report backup (s.records now db.ids db.drawn)),
        { db with drawn := db.drawn + s.configs.length }.put simplified
          ((s.records now db.ids db.drawn).map SimplifiedConfig.encode)) := by
  have husable : Database.fault? { db with drawn := db.drawn + s.configs.length } simplified = none := h
  rw [fill, Script.run_bind_ok (run_mergeAll s.lookup now s.configs db)]
  exact run_refill husable (s.distinctIds_records now hfresh) _

/-- A filling that has ended has left the records in the destination, whatever the identities. -/
theorem ok_of_run_fill {s : Survey} {now : DateTime} {backup : BackupReport}
    {report : MigrationReport} (h : (fill now backup s).run db = (.ok report, after)) :
    after.documents simplified = (s.records now db.ids db.drawn).map SimplifiedConfig.encode := by
  have hids : ∀ d ∈ (s.records now db.ids db.drawn).map SimplifiedConfig.encode,
      (d.get? "_id").isSome := by
    intro d hd
    obtain ⟨r, -, rfl⟩ := List.mem_map.mp hd
    rfl
  rw [fill, Script.run_bind_ok (run_mergeAll s.lookup now s.configs db)] at h
  obtain ⟨_, cleared, hclear, h⟩ := Script.ok_of_run_bind h
  obtain ⟨-, rfl⟩ := Script.ok_of_run_deleteAll hclear
  obtain ⟨_, filled, hfill, hend⟩ := Script.ok_of_run_bind h
  rw [← (Prod.mk.inj hend).2, Script.ok_of_run_insertAll hids hfill, Database.documents_put_self]
  exact List.nil_append _

/-- A filling fails only as the store refuses it. -/
theorem error_of_run_fill {s : Survey} {now : DateTime} {backup : BackupReport} {e : ConfigError}
    (h : (fill now backup s).run db = (.error e, after)) : e.FromStore := by
  rw [fill, Script.run_bind_ok (run_mergeAll s.lookup now s.configs db)] at h
  rcases Script.error_of_run_bind h with hclear | ⟨_, cleared, -, h⟩
  · exact (Script.ends_call (fun _ he => he) (.deleteAll simplified _)).error hclear
  · rcases Script.error_of_run_bind h with hinsert | ⟨_, _, _, hend⟩
    · exact (Script.ends_insertAll (fun _ he => he) simplified _).error hinsert
    · exact nomatch (Prod.mk.inj hend).1

end Fill

/-- A rebuild that fails was refused by the store, or by a destination that holds documents and is
not to be overwritten; it has done no more than count them then. -/
theorem error_of_run_rebuild {now : DateTime} {force : Bool} {backup : BackupReport}
    {db after : Database} {e : ConfigError}
    (h : (rebuild now force backup).run db = (.error e, after)) :
    e.FromStore ∨ e = .alreadyMigrated (db.documents simplified).length ∧ after = db.counted := by
  rw [rebuild_eq] at h
  rcases Script.error_of_run_bind h with hsurvey | ⟨found, middle, -, hfill⟩
  · exact error_of_run_survey hsurvey
  · exact .inl (error_of_run_fill hfill)

/-- A migration that fails was refused by the store, or by the destination once the backup was made. -/
theorem error_of_run_migrate {now : DateTime} {force : Bool} {db after : Database} {e : ConfigError}
    (h : (migrate now force).run db = (.error e, after)) :
    e.FromStore ∨
      e = .alreadyMigrated (db.documents simplified).length ∧ after = (backup.run db).2.counted := by
  rcases Script.error_of_run_bind h with hbackup | ⟨report, middle, hbackup, hrebuild⟩
  · exact .inl ((ends_backup fun _ he => he).error hbackup)
  · have hkept := spares_backup.alike_run db
    rw [hbackup] at hkept ⊢
    rw [← hkept.documents simplified fun c hc => (simplified_ne c hc).2]
    exact error_of_run_rebuild hrebuild

end Migration

end ProviderRegistry
