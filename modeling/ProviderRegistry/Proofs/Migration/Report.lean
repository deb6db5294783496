/-
# `Proofs.Migration.Report` — what a run tells, against what it has found and left

A run that ends answers with a report, and each number and list of it is made at
a place of its own: the backup counts what it copies, the survey what it reads
and what does not decode, the filling what it writes, and the check counts the
destination and the backups once more.  `Truthful` reads the whole report against
the two databases that can be looked at, the one before the run and the one it
has left.

Nothing is asked of the database but that the run has ended.  In particular no
identities are assumed to be distinct, or even to be there: a document without one
gets one when it is copied, so the backup need not be what was copied, document by
document, but it has as many documents (`length_of_run_insertAll`), and that is all
that a report tells of it.

## What is proved

    a row of copies, ended    its report, and the size of each target    (`ok_of_run_copyAll`)
    a migration, ended        its report is that of the survey of the
                              database before it                         (`ok_of_run_migrate`)
    a check, ended            the sizes of the destination and backups   (`ok_of_run_validate`)

    the providers that are missed are the first uses of names without
    a record                                                             (`firstUses_unmatched`)

and, put together, that every report of a run is truthful (`truthful_of_run`).
-/
import Mathlib.Data.List.Induction
import ProviderRegistry.Proofs.Migration.Contents
import ProviderRegistry.Proofs.Migration.Destination
import ProviderRegistry.Proofs.Store.History

namespace ProviderRegistry

open Collections

open Resolution (decodable)

/-! ## Sizes -/

/-- The number of documents that several collections hold together. -/
def totalLength (held : String → List Document) : List String → Nat
  | [] => 0
  | c :: rest => (held c).length + totalLength held rest

section TotalLength

variable {held held' : String → List Document} {cs : List String}

@[simp] theorem totalLength_nil : totalLength held [] = 0 := rfl

@[simp] theorem totalLength_cons (c : String) :
    totalLength held (c :: cs) = (held c).length + totalLength held cs := rfl

theorem totalLength_congr (h : ∀ c ∈ cs, (held c).length = (held' c).length) :
    totalLength held cs = totalLength held' cs := by
  induction cs with
  | nil => rfl
  | cons c rest ih =>
      rw [totalLength_cons, totalLength_cons, h c List.mem_cons_self,
        ih fun c' hc' => h c' (List.mem_cons_of_mem c hc')]

theorem totalLength_map (f : String → String) :
    totalLength held (cs.map f) = totalLength (fun c => held (f c)) cs := by
  induction cs with
  | nil => rfl
  | cons c rest ih => rw [List.map_cons, totalLength_cons, totalLength_cons, ih]

end TotalLength

/-- Documents that have all been added make the collection longer by their number, whatever
identities they have got. -/
theorem Script.length_of_run_insertAll {c : String} {ds : List Document} {db after : Database}
    {n : Nat} (h : (insertAll c ds).run db = (.ok n, after)) :
    (after.documents c).length = (db.documents c).length + ds.length := by
  induction ds generalizing db after n with
  | nil =>
      rw [← (Prod.mk.inj h).2]
      rfl
  | cons d rest ih =>
      obtain ⟨id, middle, hinsert, hthen⟩ := ok_of_run_bind h
      obtain ⟨k, last, hrest, hend⟩ := ok_of_run_bind hthen
      have hanswer : db.answer (.insert c d) = (.ok id, middle) :=
        (run_call (.insert c d) db).symm.trans hinsert
      have hmiddle : middle.documents c = db.documents c ++ [(db.identify d).2.1] := by
        rw [Database.documents_of_answered hanswer rfl, Database.documents_put_self]
        rfl
      rw [← (Prod.mk.inj hend).2, ih hrest, hmiddle, List.length_append, List.length_cons,
        List.length_cons, List.length_nil]
      omega

namespace Migration

/-! ## Copies that have ended -/

section Copies

variable {ends : String → String × String} {db after : Database}

/-- A copy that has ended tells the size of its source, and its target has the size of what a copy
makes of it. -/
theorem ok_of_run_copy {source target : String} {count : Option Nat}
    (h : (copy source target).run db = (.ok count, after)) :
    count = countOf (db.documents source) ∧
      (after.documents target).length
        = (copied (db.documents source) (db.documents target)).length := by
  obtain ⟨documents, read, hfind, h⟩ := Script.ok_of_run_bind h
  obtain ⟨-, rfl, rfl⟩ := Script.ok_of_run_find hfind
  cases hsource : db.documents source with
  | nil =>
      rw [hsource] at h
      obtain ⟨hcount, rfl⟩ := Prod.mk.inj h
      exact ⟨(Except.ok.inj hcount).symm, rfl⟩
  | cons d rest =>
      rw [hsource] at h
      obtain ⟨_, cleared, hclear, h⟩ := Script.ok_of_run_bind h
      obtain ⟨-, rfl⟩ := Script.ok_of_run_deleteAll hclear
      obtain ⟨_, filled, hfill, hend⟩ := Script.ok_of_run_bind h
      obtain ⟨hcount, rfl⟩ := Prod.mk.inj hend
      refine ⟨(Except.ok.inj hcount).symm, ?_⟩
      rw [Script.length_of_run_insertAll hfill, Database.documents_put_self,
        copied_of_ne_nil (List.cons_ne_nil d rest)]
      exact Nat.zero_add _

/-- A row of copies that has ended tells what its sources held, and each target has the size of what
a copy makes of it. -/
theorem ok_of_run_copyAll {cs : List String} (hcs : Apart ends cs) {report : CopyReport}
    (h : (copyAll ends cs).run db = (.ok report, after)) :
    report = reportOf (fun c => db.documents (ends c).1) cs ∧
      ∀ c ∈ cs, (after.documents (ends c).2).length
        = (copied (db.documents (ends c).1) (db.documents (ends c).2)).length := by
  induction cs generalizing db report with
  | nil =>
      exact ⟨(Except.ok.inj (Prod.mk.inj h).1).symm, fun c hc => absurd hc List.not_mem_nil⟩
  | cons c rest ih =>
      obtain ⟨count, middle, hfirst, h⟩ := Script.ok_of_run_bind h
      obtain ⟨later, last, hrest, hend⟩ := Script.ok_of_run_bind h
      obtain ⟨hreport, rfl⟩ := Prod.mk.inj hend
      obtain ⟨rfl, htarget⟩ := ok_of_run_copy hfirst
      obtain ⟨rfl, htargets⟩ := ih hcs.tail hrest
      have hkept := hcs.spares_later.alike_run db
      rw [hfirst] at hkept
      refine ⟨?_, fun c' hc' => ?_⟩
      · rw [← Except.ok.inj hreport,
          reportOf_congr fun c' hc' => hkept.documents _ ⟨c', hc', .inl rfl⟩]
        rfl
      · rcases List.mem_cons.mp hc' with rfl | hc'
        · have hlater := hcs.spares_target.alike_run middle
          rw [hrest] at hlater
          exact (congrArg List.length (hlater.documents _ rfl)).trans htarget
        · rw [htargets c' hc', hkept.documents _ ⟨c', hc', .inl rfl⟩,
            hkept.documents _ ⟨c', hc', .inr rfl⟩]

/-- The targets of a row hold together what is reported as copied, and besides what was in those
targets whose sources are skipped. -/
theorem totalLength_copied (held earlier : String → List Document) (cs : List String) :
    totalLength (fun c => copied (held c) (earlier c)) cs
      = BackupReport.total ⟨(reportOf held cs).copied, (reportOf held cs).skipped⟩
        + totalLength earlier (reportOf held cs).skipped := by
  induction cs with
  | nil => rfl
  | cons c rest ih =>
      rw [totalLength_cons, ih]
      cases hc : held c with
      | nil =>
          simp only [reportOf, hc, countOf, List.isEmpty_nil, if_true, CopyReport.cons, copied_nil,
            BackupReport.total, totalLength_cons]
          omega
      | cons d ds =>
          simp only [reportOf, hc, countOf, List.isEmpty_cons, Bool.false_eq_true, if_false,
            CopyReport.cons, copied_of_ne_nil (List.cons_ne_nil d ds), BackupReport.total,
            List.foldr_cons]
          omega

end Copies

/-! ## The names that have no record -/

/-- The names of a list that satisfy `P`, each listed once and in the order of their first uses. -/
structure FirstUses (P : String → Prop) (names listed : List String) : Prop where
  mem : ∀ name, name ∈ listed ↔ name ∈ names ∧ P name
  nodup : listed.Nodup
  ordered : listed.Pairwise fun earlier later => names.idxOf earlier < names.idxOf later

namespace FirstUses

variable {P : String → Prop} {names listed : List String} {name : String}

theorem nil : FirstUses P [] [] where
  mem := by simp
  nodup := List.nodup_nil
  ordered := List.Pairwise.nil

/-- Where the names already listed are first used does not change when another name is read. -/
theorem ordered_append (h : FirstUses P names listed) (name : String) :
    listed.Pairwise fun earlier later =>
      (names ++ [name]).idxOf earlier < (names ++ [name]).idxOf later := by
  refine h.ordered.imp_of_mem fun {earlier later} hearlier hlater hlt => ?_
  rwa [List.idxOf_append_of_mem ((h.mem earlier).mp hearlier).1,
    List.idxOf_append_of_mem ((h.mem later).mp hlater).1]

/-- A name that is listed already, or is not to be, leaves the list as it is. -/
theorem keep (h : FirstUses P names listed) (hname : P name → name ∈ listed) :
    FirstUses P (names ++ [name]) listed where
  mem other := by
    rw [h.mem, List.mem_append, List.mem_singleton]
    refine ⟨fun ⟨hother, hP⟩ => ⟨.inl hother, hP⟩, fun ⟨hother, hP⟩ => ?_⟩
    rcases hother with hother | rfl
    · exact ⟨hother, hP⟩
    · exact (h.mem other).mp (hname hP)
  nodup := h.nodup
  ordered := h.ordered_append name

/-- A name that is to be listed and is not yet is used here first. -/
theorem add (h : FirstUses P names listed) (hP : P name) (hnew : name ∉ listed) :
    FirstUses P (names ++ [name]) (listed ++ [name]) := by
  have hunused : name ∉ names := fun hused => hnew ((h.mem name).mpr ⟨hused, hP⟩)
  refine ⟨fun other => ?_, ?_, ?_⟩
  · simp only [List.mem_append, List.mem_singleton, h.mem, or_and_right]
    refine or_congr_right ⟨fun heq => ⟨heq, heq ▸ hP⟩, And.left⟩
  · exact List.nodup_append.mpr ⟨h.nodup, by simp, fun other hother last hlast => by
      rintro rfl
      exact hnew (List.mem_singleton.mp hlast ▸ hother)⟩
  · refine List.pairwise_append.mpr ⟨h.ordered_append name, by simp, fun other hother last hlast => ?_⟩
    obtain rfl := List.mem_singleton.mp hlast
    have hused := ((h.mem other).mp hother).1
    rw [List.idxOf_append_of_mem hused, List.idxOf_append_of_notMem hunused]
    exact Nat.lt_add_right _ (List.idxOf_lt_length_iff.mpr hused)

end FirstUses

/-- The providers that a lookup has not are listed as they are first used. -/
theorem firstUses_unmatched (lookup : LegacyLookup) (configs : List LegacyConfig) :
    FirstUses (fun name => lookup.provider? name = none) (configs.map (·.provider))
      (unmatched lookup configs) := by
  -- the list is built at its end, so the configs are read from the last one back
  induction configs using List.reverseRecOn with
  | nil => exact .nil
  | append_singleton configs c ih =>
      rw [unmatched, List.foldl_append, ← unmatched, List.map_append, List.foldl_cons,
        List.foldl_nil]
      split
      · rename_i hlisted
        simp only [Bool.and_eq_true, Option.isNone_iff_eq_none, Bool.not_eq_true',
          List.contains_eq_mem, decide_eq_false_iff_not] at hlisted
        exact ih.add hlisted.1 hlisted.2
      · rename_i hlisted
        simp only [Bool.and_eq_true, Option.isNone_iff_eq_none, Bool.not_eq_true',
          List.contains_eq_mem, decide_eq_false_iff_not, not_and, not_not] at hlisted
        exact ih.keep hlisted

/-! ## The parts of a run -/

section Parts

variable {db after : Database}

/-- A document of a collection decodes or is counted as one that does not. -/
theorem length_decodable_add_undecoded {α : Type} (decode : Document → Decoded α)
    (documents : List Document) :
    (decodable decode documents).length + undecoded decode documents = documents.length := by
  have hle : (decodable decode documents).length ≤ documents.length :=
    List.length_filterMap_le _ documents
  unfold undecoded
  omega

/-- A survey accounts for every legacy document. -/
theorem Survey.length_add_skipped (db : Database) :
    (Survey.of db).providers.length + (Survey.of db).catalogs.length
        + (Survey.of db).configs.length + (Survey.of db).skipped
      = totalLength db.documents legacy := by
  have hproviders :=
    length_decodable_add_undecoded ProviderRecord.decode (db.documents Collections.providers)
  have hcatalogs :=
    length_decodable_add_undecoded ModelCatalog.decode (db.documents Collections.catalogs)
  have hconfigs := length_decodable_add_undecoded LegacyConfig.decode (db.documents legacyConfigs)
  simp only [Survey.of, legacy, totalLength_cons, totalLength_nil]
  omega

/-- What a backup leaves of the backups: each has the size of a copy, and that of an empty
collection is the one that was there. -/
structure BackedUp (before after : Database) : Prop where
  sizes : ∀ c ∈ legacy, (after.documents (backupOf c)).length
    = (copied (before.documents c) (before.documents (backupOf c))).length
  old : ∀ c ∈ legacy, before.documents c = [] →
    after.documents (backupOf c) = before.documents (backupOf c)

/-- What spares the backups keeps them so. -/
theorem BackedUp.of_alike {before middle : Database} {s : String → Prop}
    (h : BackedUp before middle) (hkept : middle.Alike s after)
    (hs : ∀ c ∈ legacy, s (backupOf c)) : BackedUp before after where
  sizes c hc := (congrArg List.length (hkept.documents _ (hs c hc))).trans (h.sizes c hc)
  old c hc hempty := (hkept.documents _ (hs c hc)).trans (h.old c hc hempty)

/-- The backups hold together what is reported as copied, and the old backups of the collections that
are reported as skipped. -/
theorem BackedUp.size {before : Database} (h : BackedUp before after) :
    totalLength after.documents (legacy.map backupOf)
      = BackupReport.total
          ⟨(reportOf before.documents legacy).copied, (reportOf before.documents legacy).skipped⟩
        + totalLength before.documents
            ((reportOf before.documents legacy).skipped.map backupOf) := by
  rw [totalLength_map, totalLength_map,
    ← totalLength_copied before.documents (fun c => before.documents (backupOf c)) legacy]
  exact totalLength_congr h.sizes

theorem ok_of_run_backup {report : BackupReport} (h : backup.run db = (.ok report, after)) :
    report = ⟨(reportOf db.documents legacy).copied, (reportOf db.documents legacy).skipped⟩ ∧
      BackedUp db after := by
  obtain ⟨copies, last, hcopies, hend⟩ := Script.ok_of_run_bind h
  obtain ⟨hreport, rfl⟩ := Prod.mk.inj hend
  obtain ⟨rfl, hsizes⟩ := ok_of_run_copyAll apart_backup hcopies
  have hleft := alike_copyAll apart_backup db
  rw [hcopies] at hleft
  have hone : ∀ c ∈ legacy, ∀ c' ∈ legacy, backupOf c' = backupOf c → c' = c := by decide
  refine ⟨(Except.ok.inj hreport).symm, hsizes, fun c hc hempty => ?_⟩
  refine hleft.documents _ fun c' hc' heq => ?_
  rw [hone c hc c' hc' heq]
  exact hempty

theorem report_of_run_fill {s : Survey} {now : DateTime} {backup : BackupReport}
    {report : MigrationReport} (h : (fill now backup s).run db = (.ok report, after)) :
    report = s.report backup (s.records now db.ids db.drawn) := by
  rw [fill, Script.run_bind_ok (run_mergeAll s.lookup now s.configs db)] at h
  obtain ⟨_, cleared, -, h⟩ := Script.ok_of_run_bind h
  obtain ⟨_, filled, -, hend⟩ := Script.ok_of_run_bind h
  exact (Except.ok.inj (Prod.mk.inj hend).1).symm

/-- A migration that has ended tells of what it found before its backup, and of the records that it
has left in the destination. -/
theorem ok_of_run_migrate {now : DateTime} {force : Bool} {report : MigrationReport}
    (h : (migrate now force).run db = (.ok report, after)) :
    ∃ records,
      (∃ ids first, records = (Survey.of db).records now ids first) ∧
      after.documents simplified = records.map SimplifiedConfig.encode ∧
      report = (Survey.of db).report
        ⟨(reportOf db.documents legacy).copied, (reportOf db.documents legacy).skipped⟩ records ∧
      BackedUp db after := by
  obtain ⟨copies, middle, hbackup, hrebuild⟩ := Script.ok_of_run_bind h
  have hspared := (spares_rebuild now force copies).alike_run middle
  rw [hrebuild] at hspared
  obtain ⟨rfl, hbackedUp⟩ := ok_of_run_backup hbackup
  -- the backup changes nothing that the survey reads
  have hkept := spares_backup.alike_run db
  rw [hbackup] at hkept
  have hlegacy : db.Alike (· ∈ legacy) middle :=
    hkept.mono fun t ht c hc => apart_backup.sources c hc t ht ∘ Eq.symm
  rw [rebuild_eq] at hrebuild
  obtain ⟨found, surveyed, hsurvey, hfill⟩ := Script.ok_of_run_bind hrebuild
  obtain ⟨rfl, -⟩ := ok_of_run_survey hsurvey
  rw [Survey.of_alike hlegacy] at hfill
  exact ⟨_, ⟨_, _, rfl⟩, ok_of_run_fill hfill, report_of_run_fill hfill,
    hbackedUp.of_alike hspared fun c hc => (simplified_ne c hc).2⟩

theorem ok_of_run_countAll {cs : List String} {n : Nat}
    (h : (countAll cs).run db = (.ok n, after)) : n = totalLength db.documents cs := by
  induction cs generalizing db after n with
  | nil => exact (Except.ok.inj (Prod.mk.inj h).1).symm
  | cons c rest ih =>
      obtain ⟨first, read, hcount, h⟩ := Script.ok_of_run_bind h
      obtain ⟨-, rfl, rfl⟩ := Script.ok_of_run_count hcount
      obtain ⟨later, last, hrest, hend⟩ := Script.ok_of_run_bind h
      rw [← Except.ok.inj (Prod.mk.inj hend).1, ih hrest]
      rfl

/-- A check that has ended tells the sizes of the destination and of the backups together. -/
theorem ok_of_run_validate {report : ValidationReport} (h : validate.run db = (.ok report, after)) :
    report = ⟨(db.documents simplified).length,
      totalLength db.documents (legacy.map backupOf), (db.documents simplified).length == 0⟩ := by
  obtain ⟨destination, read, hcount, h⟩ := Script.ok_of_run_bind h
  obtain ⟨-, rfl, rfl⟩ := Script.ok_of_run_count hcount
  obtain ⟨backups, last, hbackups, h⟩ := Script.ok_of_run_bind h
  have hsize : backups = totalLength db.documents (legacy.map backupOf) :=
    (ok_of_run_countAll hbackups).trans rfl
  split at h
  · rename_i hzero
    rw [← Except.ok.inj (Prod.mk.inj h).1, hsize, hzero]
  · rename_i hpositive
    obtain ⟨sample, seen, -, h⟩ := Script.ok_of_run_bind h
    dsimp only at h
    split at h
    · rw [← Except.ok.inj (Prod.mk.inj h).1, hsize, Bool.eq_false_iff.mpr hpositive]
    · exact nomatch (Prod.mk.inj h).1

end Parts

/-! ## The whole report -/

/-- What the report of a run says, of the database before it and of the one it has left. -/
structure Truthful (before after : Database) (r : RunReport) : Prop where
  providersRead : r.migration.providersRead
    = (decodable ProviderRecord.decode (before.documents providers)).length
  catalogsRead : r.migration.catalogsRead
    = (decodable ModelCatalog.decode (before.documents catalogs)).length
  configsRead : r.migration.configsRead = (configsOf before).length
  /-- No legacy document is left out of account, and none is counted twice. -/
  everyDocument : r.migration.providersRead + r.migration.catalogsRead + r.migration.configsRead
    + r.migration.skippedRecords = totalLength before.documents legacy
  migrated : r.migration.migrated = r.migration.configsRead
  destinationCount : r.validation.destinationCount = r.migration.configsRead
  destination : (after.documents simplified).length = r.validation.destinationCount
  empty : r.validation.empty = true ↔ r.validation.destinationCount = 0
  backedUp : r.migration.backup.backedUp
    = (legacy.filter fun c => !(before.documents c).isEmpty).map fun c =>
        ⟨c, (before.documents c).length⟩
  skipped : r.migration.backup.skipped = legacy.filter fun c => (before.documents c).isEmpty
  backupCount : r.validation.backupCount
    = r.migration.backup.total
      + totalLength before.documents (r.migration.backup.skipped.map backupOf)
  /-- The old backups of what is skipped are still there. -/
  oldBackups : ∀ c ∈ r.migration.backup.skipped,
    after.documents (backupOf c) = before.documents (backupOf c)
  unmatchedProviders : FirstUses
    (fun name => ∀ p ∈ decodable ProviderRecord.decode (before.documents providers), p.name ≠ name)
    ((configsOf before).map (·.provider)) r.migration.unmatchedProviders
  /-- The default is the first enabled record of the destination, if there is one. -/
  defaultConfig : ∃ records,
    (after.documents simplified).mapM SimplifiedConfig.decode = .ok records ∧
    r.migration.defaultConfig
      = (records.find? (·.enabled)).map fun record => record.provider ++ "/" ++ record.modelName

/-- A lookup lacks a name where no provider record that decodes has it. -/
theorem provider?_lookup_eq_none (db : Database) (name : String) :
    (Survey.of db).lookup.provider? name = none
      ↔ ∀ p ∈ decodable ProviderRecord.decode (db.documents providers), p.name ≠ name := by
  rw [provider?_lookup, providerOf, getLast?_named_eq_none_iff]

/-- Every report of a run that has ended tells the truth about what was there and what is now. -/
theorem truthful_of_run {now : DateTime} {force : Bool} {db after : Database} {report : RunReport}
    (h : (run now force).run db = (.ok report, after)) : Truthful db after report := by
  obtain ⟨migration, migrated, hmigrate, h⟩ := Script.ok_of_run_bind h
  obtain ⟨validation, checked, hvalidate, hend⟩ := Script.ok_of_run_bind h
  obtain ⟨hreport, rfl⟩ := Prod.mk.inj hend
  obtain rfl := Except.ok.inj hreport
  obtain ⟨records, ⟨ids, first, rfl⟩, hdocuments, rfl, hbackedUp⟩ := ok_of_run_migrate hmigrate
  obtain rfl := ok_of_run_validate hvalidate
  -- the check reads only, so what the migration has left is there after it
  have hchecked := alike_of_run spares_validate hvalidate
  have hlength : ((Survey.of db).records now ids first).length = (configsOf db).length :=
    Survey.length_records _ now ids first
  have hdestination : (migrated.documents simplified).length = (configsOf db).length := by
    rw [hdocuments, List.length_map, hlength]
  constructor
  case providersRead | catalogsRead | configsRead => rfl
  case everyDocument => exact Survey.length_add_skipped db
  case migrated => exact hlength
  case destinationCount => exact hdestination
  case destination => rw [hchecked.documents simplified trivial]
  case empty => exact beq_iff_eq
  case backedUp => exact copied_reportOf db.documents legacy
  case skipped => exact skipped_reportOf db.documents legacy
  case backupCount => exact hbackedUp.size
  case oldBackups =>
    intro c hc
    have hskipped : c ∈ (reportOf db.documents legacy).skipped := hc
    rw [skipped_reportOf, List.mem_filter, List.isEmpty_iff] at hskipped
    exact (hchecked.documents _ trivial).trans (hbackedUp.old c hskipped.1 hskipped.2)
  case unmatchedProviders =>
    have hmissing := firstUses_unmatched (Survey.of db).lookup (Survey.of db).configs
    simp only [provider?_lookup_eq_none] at hmissing
    exact hmissing
  case defaultConfig =>
    refine ⟨(Survey.of db).records now ids first, ?_, ?_⟩
    · rw [hchecked.documents simplified trivial, hdocuments]
      exact SimplifiedConfig.mapM_decode_encode (SimplifiedConfig.resolved_assignDefault
        (Survey.resolved_merged db now fun i => ids (first + i)))
    · exact congrArg (·.map SimplifiedConfig.label)
        (SimplifiedConfig.find?_isDefault_assignDefault _)

/-- No provider record, but an older backup of two; and configs of which one does not decode, one is
not enabled, and two name one provider. -/
def recordless : Database :=
  (((Database.empty ObjectId.ofNat).put (backupOf providers) [
    ⟨[("_id", .objectId (ObjectId.ofNat 1)), ("name", .string "zhipu")]⟩,
    ⟨[("_id", .objectId (ObjectId.ofNat 2)), ("name", .string "openai")]⟩]).put catalogs [
    ⟨[("_id", .objectId (ObjectId.ofNat 3)), ("provider", .string "zhipu"),
      ("models", .array [])]⟩]).put legacyConfigs [
    ⟨[("_id", .objectId (ObjectId.ofNat 4)), ("provider", .string "zhipu"),
      ("model_name", .string "glm-4"), ("enabled", .boolean false)]⟩,
    ⟨[("_id", .objectId (ObjectId.ofNat 5)), ("provider", .int32 5)]⟩,
    ⟨[("_id", .objectId (ObjectId.ofNat 6)), ("provider", .string "openai"),
      ("model_name", .string "gpt-4o")]⟩,
    ⟨[("_id", .objectId (ObjectId.ofNat 7)), ("provider", .string "zhipu"),
      ("model_name", .string "glm-4-air")]⟩]

/-- The config that does not decode is told, the older backup is counted with the new ones, and a
provider that is only in a backup is missed. -/
theorem truthful_recordless :
    ∃ report after, (run ⟨0⟩ false).run recordless = (.ok report, after) ∧
      Truthful recordless after report ∧
      report.migration.skippedRecords = 1 ∧
      report.migration.backup.backedUp = [⟨legacyConfigs, 4⟩, ⟨catalogs, 1⟩] ∧
      report.migration.backup.skipped = [providers] ∧
      report.validation.backupCount = 7 ∧
      report.validation.destinationCount = 3 ∧
      "zhipu" ∈ report.migration.unmatchedProviders := by
  have hended : ((run ⟨0⟩ false).outcome recordless).toOption.isSome = true := by decide +kernel
  unfold Script.outcome at hended
  rcases hrun : (run ⟨0⟩ false).run recordless with ⟨e | report, after⟩
  · rw [hrun] at hended
    exact nomatch hended
  have htruthful := truthful_of_run hrun
  have hproviders : report.migration.providersRead = 0 :=
    htruthful.providersRead.trans (by decide +kernel)
  have hcatalogs : report.migration.catalogsRead = 1 :=
    htruthful.catalogsRead.trans (by decide +kernel)
  have hconfigs : report.migration.configsRead = 3 :=
    htruthful.configsRead.trans (by decide +kernel)
  have hbackedUp : report.migration.backup.backedUp = [⟨legacyConfigs, 4⟩, ⟨catalogs, 1⟩] :=
    htruthful.backedUp.trans (by decide +kernel)
  have hskipped : report.migration.backup.skipped = [providers] :=
    htruthful.skipped.trans (by decide +kernel)
  refine ⟨report, after, rfl, htruthful, ?_, hbackedUp, hskipped, ?_, ?_, ?_⟩
  · have htotal : totalLength recordless.documents legacy = 5 := by decide +kernel
    have haccount := htruthful.everyDocument
    omega
  · rw [htruthful.backupCount, hskipped, BackupReport.total, hbackedUp]
    decide +kernel
  · exact htruthful.destinationCount.trans hconfigs
  · refine (htruthful.unmatchedProviders.mem _).mpr ⟨by decide +kernel, ?_⟩
    have hnone : (decodable ProviderRecord.decode (recordless.documents providers)).isEmpty := by
      decide +kernel
    rw [List.isEmpty_iff.mp hnone]
    exact fun p hp => absurd hp List.not_mem_nil

end Migration

end ProviderRegistry
