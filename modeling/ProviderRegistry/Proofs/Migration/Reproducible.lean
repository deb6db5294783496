/-
# `Proofs.Migration.Reproducible` — a migration sees the legacy collections only

A migration by force reads three collections and clears the fourth before it
fills it.  What the destination and the backups held does not matter, nor does
the order of the providers and of the catalogs, as long as no two that decode
have one name: the tables are built by letting the last of a name count, and
then there is only one.

## What is proved

    a migration by force, of a database that answers, ends with the records of
      its legacy collections in the destination                (`run_migrate_forced`)
    lists without repeated names, in any order, give one table (`getLast?_filter_of_perm`)
    a record depends on its identity and on the time of the migration in three
      fields                                         (`get?_encode_restamped`, `merge_eq`)

So the destinations of two databases that hold the same legacy records agree
document by document, but for these fields (`destinations_agree`).
-/
import ProviderRegistry.Proofs.Migration.Contents

namespace ProviderRegistry

open Collections

open Resolution (decodable)

/-! ## Lists without repeated names -/

section Named

variable {α : Type} {name : α → String} {xs ys : List α}

theorem length_filter_of_nodup (h : (xs.map name).Nodup) (key : String) :
    (xs.filter (name · == key)).length ≤ 1 := by
  have hsame : (xs.filter (name · == key)).map name
      = List.replicate (xs.filter (name · == key)).length key := by
    refine List.eq_replicate_iff.mpr ⟨List.length_map _, fun n hn => ?_⟩
    obtain ⟨x, hx, rfl⟩ := List.mem_map.mp hn
    simpa using (List.mem_filter.mp hx).2
  have hnodup : ((xs.filter (name · == key)).map name).Nodup :=
    h.sublist (List.filter_sublist.map name)
  rw [hsame] at hnodup
  exact List.nodup_replicate.mp hnodup

/-- Where every name stands once, the order makes no difference to which is the last of a name. -/
theorem getLast?_filter_of_perm (hperm : ys.Perm xs) (h : (xs.map name).Nodup) (key : String) :
    (ys.filter (name · == key)).getLast? = (xs.filter (name · == key)).getLast? := by
  have hfilter := hperm.filter (name · == key)
  have hlength := length_filter_of_nodup h key
  cases hxs : xs.filter (name · == key) with
  | nil =>
      rw [hxs] at hfilter
      rw [hfilter.eq_nil]
  | cons x rest =>
      rw [hxs] at hfilter hlength
      obtain rfl : rest = [] := List.eq_nil_of_length_eq_zero (by simpa using hlength)
      rw [List.perm_singleton.mp hfilter]

end Named

/-- The time of creation that a config tells; null tells none. -/
def LegacyConfig.toldCreation (c : LegacyConfig) : Option Bson :=
  c.createdAt.filter fun v => !v.isNull

namespace SimplifiedConfig

/-! ## What a record takes from the migration itself -/

/-- The identity and the two times of a record stand in three fields of its document. -/
theorem get?_encode_restamped (r : SimplifiedConfig) (id : ObjectId) (createdAt : Bson)
    (updatedAt : DateTime) {key : String} (hid : key ≠ "_id") (hcreated : key ≠ "created_at")
    (hupdated : key ≠ "updated_at") :
    (encode { r with id, createdAt, updatedAt }).get? key = (encode r).get? key := by
  have hid' : (key == "_id") = false := beq_false_of_ne hid
  have hcreated' : (key == "created_at") = false := beq_false_of_ne hcreated
  have hupdated' : (key == "updated_at") = false := beq_false_of_ne hupdated
  simp only [Document.get?, encode, List.lookup_cons, hid', hcreated', hupdated']

/-- Merged at another time under another identity, from tables that agree on its provider and its
model, a record differs in these. -/
theorem merge_eq {lookup other : LegacyLookup} {c : LegacyConfig}
    (hprovider : other.provider? c.provider = lookup.provider? c.provider)
    (hentry : other.catalogEntry? c.provider c.modelName
      = lookup.catalogEntry? c.provider c.modelName)
    (now now' : DateTime) (id id' : ObjectId) :
    merge other now' id' c = { merge lookup now id c with
      id := id'
      createdAt := c.toldCreation.getD (.dateTime now')
      updatedAt := now' } := by
  simp only [merge, hprovider, hentry, LegacyConfig.toldCreation]

end SimplifiedConfig

namespace Migration

/-! ## A migration by force -/

/-- A database on which nothing can go wrong: it answers, its legacy documents have distinct
identities, and so will the records that are made of them. -/
structure Migratable (db : Database) : Prop where
  available : db.Available
  identified : ∀ c ∈ legacy, DistinctIds (db.documents c)
  supplied : db.Supplies (configsOf db).length

section Forced

variable {db : Database}

theorem run_readAll {α : Type} {c : String} (h : db.fault? c = none)
    (decode : Document → Decoded α) :
    (readAll c decode).run db
      = (.ok (decodable decode (db.documents c), undecoded decode (db.documents c)),
        db.counted) := by
  unfold readAll
  rw [Script.run_bind_ok (Script.run_find h Document.empty), Database.findIn_empty]
  rfl

/-- A destination that is to be overwritten does not keep a survey from ending. -/
theorem run_survey (h : db.Available) :
    (survey true).run db = (.ok (Survey.of db), db.counted.counted.counted.counted) := by
  unfold survey
  rw [Script.run_bind_ok (Script.run_count (h.fault? simplified)), Bool.not_true, Bool.and_false,
    if_neg Bool.false_ne_true,
    Script.run_bind_ok (run_readAll (h.counted.fault? providers) ProviderRecord.decode),
    Script.run_bind_ok (run_readAll (h.counted.counted.fault? catalogs) ModelCatalog.decode),
    Script.run_bind_ok (run_readAll (h.counted.counted.counted.fault? legacyConfigs)
      LegacyConfig.decode)]
  rfl

/-- A migration by force ends, and the destination holds the records of the legacy collections,
whatever it held before. -/
theorem run_migrate_forced (h : Migratable db) (now : DateTime) :
    ∃ report after, (migrate now true).run db = (.ok report, after) ∧
      after.documents simplified
        = ((Survey.of db).records now db.ids db.drawn).map SimplifiedConfig.encode := by
  obtain ⟨middle, hbackup, -⟩ := run_backup h.available h.identified
  have hspared := spares_backup.alike_run db
  have hundrawn := (quiet_backup fun c hc => (h.identified c hc).identified).run
  rw [hbackup] at hspared hundrawn
  have hlegacy : db.Alike (· ∈ legacy) middle :=
    hspared.mono fun t ht c hc => apart_backup.sources c hc t ht ∘ Eq.symm
  have havailable : middle.Available := hlegacy.available h.available
  -- what is surveyed after the backup is what was there before it
  have hsurvey := run_survey havailable
  rw [Survey.of_alike hlegacy] at hsurvey
  have hfill := run_fill (s := Survey.of db) (havailable.counted.counted.counted.counted.fault? _)
    ((hundrawn.trans (middle.undrawn_served 4)).supplies h.supplied) now
  have hrun : (migrate now true).run db
      = (fill now _ (Survey.of db)).run middle.counted.counted.counted.counted :=
    (Script.run_bind_ok hbackup).trans (by rw [rebuild_eq, Script.run_bind_ok hsurvey])
  refine ⟨_, _, hrun.trans (hfill _), ?_⟩
  rw [Database.documents_put_self]
  show ((Survey.of db).records now middle.ids middle.drawn).map SimplifiedConfig.encode = _
  rw [hundrawn.ids, hundrawn.drawn]

end Forced

/-! ## Two databases -/

/-- The same configs, and the same providers and catalogs in any order.  Of those that decode, no
two providers have one name, and no two catalogs are of one provider. -/
structure SameLegacy (a b : Database) : Prop where
  configs : b.documents legacyConfigs = a.documents legacyConfigs
  providers : (b.documents providers).Perm (a.documents providers)
  catalogs : (b.documents catalogs).Perm (a.documents catalogs)
  providersNamed :
    ((decodable ProviderRecord.decode (a.documents Collections.providers)).map (·.name)).Nodup
  catalogsNamed :
    ((decodable ModelCatalog.decode (a.documents Collections.catalogs)).map (·.provider)).Nodup

namespace SameLegacy

variable {a b : Database} (h : SameLegacy a b)

include h

theorem configsOf_eq : configsOf b = configsOf a := by
  unfold configsOf
  rw [h.configs]

theorem providerOf_eq (name : String) : providerOf b name = providerOf a name :=
  getLast?_filter_of_perm (h.providers.filterMap _) h.providersNamed name

theorem entryOf_eq (provider model : String) :
    entryOf b provider model = entryOf a provider model := by
  have hcatalog := getLast?_filter_of_perm (h.catalogs.filterMap fun d =>
    (ModelCatalog.decode d).toOption) h.catalogsNamed provider
  exact congrArg (·.bind fun catalog => (catalog.models.filter (·.name == model)).getLast?) hcatalog

end SameLegacy

/-- Two documents that were made of one config, at two times: they have the same fields in the same
order, and differ in nothing but the identity, the time of the change, and the time of creation
where the config does not tell it. -/
structure MadeAlike (c : LegacyConfig) (now now' : DateTime) (d d' : Document) : Prop where
  names : Fields.keys d'.fields = Fields.keys d.fields
  fields : ∀ key, key ≠ "_id" → key ≠ "created_at" → key ≠ "updated_at" → d'.get? key = d.get? key
  told : ∀ time, c.toldCreation = some time →
    d.get? "created_at" = some time ∧ d'.get? "created_at" = some time
  untold : c.toldCreation = none →
    d.get? "created_at" = some (.dateTime now) ∧ d'.get? "created_at" = some (.dateTime now')

theorem madeAlike_encode {lookup other : LegacyLookup} {c : LegacyConfig}
    (hprovider : other.provider? c.provider = lookup.provider? c.provider)
    (hentry : other.catalogEntry? c.provider c.modelName
      = lookup.catalogEntry? c.provider c.modelName)
    (now now' : DateTime) (id id' : ObjectId) (isDefault : Bool) :
    MadeAlike c now now'
      { SimplifiedConfig.merge lookup now id c with isDefault }.encode
      { SimplifiedConfig.merge other now' id' c with isDefault }.encode where
  names := rfl
  fields key hid hcreated hupdated := by
    rw [SimplifiedConfig.merge_eq hprovider hentry now now' id id']
    exact SimplifiedConfig.get?_encode_restamped
      { SimplifiedConfig.merge lookup now id c with isDefault } _ _ _ hid hcreated hupdated
  told time htime := by
    have hcreated : ∀ now : DateTime,
        c.toldCreation.getD (.dateTime now) = time := by
      simp [htime]
    exact ⟨congrArg some (hcreated now), congrArg some (hcreated now')⟩
  untold hnone := by
    have hcreated : ∀ now : DateTime,
        c.toldCreation.getD (.dateTime now) = .dateTime now := by
      simp [hnone]
    exact ⟨congrArg some (hcreated now), congrArg some (hcreated now')⟩

/-- Of two databases that hold the same legacy records, and whatever else they hold, a migration by
force ends on both, and leaves destinations of one length that agree document by document. -/
theorem destinations_agree {a b : Database} (ha : Migratable a) (hb : Migratable b)
    (h : SameLegacy a b) (now now' : DateTime) :
    ∃ reportA afterA reportB afterB,
      (migrate now true).run a = (.ok reportA, afterA) ∧
      (migrate now' true).run b = (.ok reportB, afterB) ∧
      (afterB.documents simplified).length = (afterA.documents simplified).length ∧
      ∀ (i : Nat) (d d' : Document), (afterA.documents simplified)[i]? = some d →
        (afterB.documents simplified)[i]? = some d' →
        ∃ c, (configsOf a)[i]? = some c ∧ MadeAlike c now now' d d' := by
  obtain ⟨reportA, afterA, hrunA, hdocumentsA⟩ := run_migrate_forced ha now
  obtain ⟨reportB, afterB, hrunB, hdocumentsB⟩ := run_migrate_forced hb now'
  have hconfigs : (Survey.of b).configs = (Survey.of a).configs := h.configsOf_eq
  refine ⟨reportA, afterA, reportB, afterB, hrunA, hrunB, ?_, fun i d d' hd hd' => ?_⟩
  · rw [hdocumentsA, hdocumentsB, List.length_map, List.length_map, Survey.length_records,
      Survey.length_records, hconfigs]
  · rw [hdocumentsA, List.getElem?_map, Survey.getElem?_records] at hd
    rw [hdocumentsB, List.getElem?_map, Survey.getElem?_records, hconfigs] at hd'
    cases hc : (Survey.of a).configs[i]? with
    | none =>
        rw [hc] at hd
        exact nomatch hd
    | some c =>
        rw [hc] at hd hd'
        obtain rfl := Option.some.inj hd
        obtain rfl := Option.some.inj hd'
        refine ⟨c, hc, madeAlike_encode ?_ ?_ now now' _ _ _⟩
        · rw [provider?_lookup, provider?_lookup, h.providerOf_eq]
        · rw [catalogEntry?_lookup, catalogEntry?_lookup, h.entryOf_eq]

/-- Two configs, of which one tells when it was created, their providers with a document that is
none between them, and a catalog. -/
def oneOrder : Database :=
  (((Database.empty ObjectId.ofNat).put providers [
    ⟨[("_id", .objectId (ObjectId.ofNat 1)), ("name", .string "openai"),
      ("display_name", .string "OpenAI")]⟩,
    ⟨[("_id", .objectId (ObjectId.ofNat 2)), ("name", .int32 5)]⟩,
    ⟨[("_id", .objectId (ObjectId.ofNat 3)), ("name", .string "zhipu")]⟩]).put catalogs [
    ⟨[("_id", .objectId (ObjectId.ofNat 4)), ("provider", .string "openai"),
      ("models", .array [])]⟩]).put legacyConfigs [
    ⟨[("_id", .objectId (ObjectId.ofNat 5)), ("provider", .string "openai"),
      ("model_name", .string "gpt-4o")]⟩,
    ⟨[("_id", .objectId (ObjectId.ofNat 6)), ("provider", .string "zhipu"),
      ("model_name", .string "glm-4"), ("created_at", .string "2024")]⟩]

/-- The same with the providers in reverse, and a document left over in the destination. -/
def otherOrder : Database :=
  (oneOrder.put providers (oneOrder.documents providers).reverse).put simplified
    [⟨[("_id", .objectId (ObjectId.ofNat 7))]⟩]

theorem migratable_oneOrder : Migratable oneOrder where
  available := ⟨rfl, rfl⟩
  identified c hc := by
    simp only [legacy, List.mem_cons, List.not_mem_nil, or_false] at hc
    rcases hc with rfl | rfl | rfl <;> exact ⟨by decide +kernel, by decide +kernel⟩
  supplied := by
    have hconfigs : (configsOf oneOrder).length = 2 := by decide +kernel
    rw [hconfigs]
    decide +kernel

theorem sameLegacy_otherOrder : SameLegacy oneOrder otherOrder where
  configs := rfl
  providers := List.reverse_perm _
  catalogs := .refl _
  providersNamed := by decide +kernel
  catalogsNamed := by decide +kernel

theorem migratable_otherOrder : Migratable otherOrder where
  available := ⟨rfl, rfl⟩
  identified c hc := by
    have hone := migratable_oneOrder.identified c hc
    simp only [legacy, List.mem_cons, List.not_mem_nil, or_false] at hc
    rcases hc with rfl | rfl | rfl
    · exact ⟨by decide +kernel, by decide +kernel⟩
    · exact hone
    · exact hone
  supplied := by
    rw [sameLegacy_otherOrder.configsOf_eq]
    exact migratable_oneOrder.supplied

/-- Migrated at another time, the second database gets the same two records: only the config that
does not tell when it was created takes the time of its migration. -/
theorem agree_otherOrder :
    ∃ reportA afterA reportB afterB one two one' two',
      (migrate ⟨0⟩ true).run oneOrder = (.ok reportA, afterA) ∧
      (migrate ⟨1⟩ true).run otherOrder = (.ok reportB, afterB) ∧
      afterA.documents simplified = [one, two] ∧ afterB.documents simplified = [one', two'] ∧
      one'.get? "provider_name" = one.get? "provider_name" ∧
      one.get? "created_at" = some (.dateTime ⟨0⟩) ∧
      one'.get? "created_at" = some (.dateTime ⟨1⟩) ∧
      two'.get? "created_at" = two.get? "created_at" := by
  obtain ⟨reportA, afterA, reportB, afterB, hrunA, hrunB, hlength, hagree⟩ := destinations_agree
    migratable_oneOrder migratable_otherOrder sameLegacy_otherOrder ⟨0⟩ ⟨1⟩
  have htwo : (afterA.documents simplified).length = 2 := by
    obtain ⟨_, _, hrun, hdocuments⟩ := run_migrate_forced migratable_oneOrder ⟨0⟩
    obtain rfl := (Prod.mk.inj (hrunA.symm.trans hrun)).2
    rw [hdocuments, List.length_map, Survey.length_records]
    decide +kernel
  obtain ⟨one, two, hA⟩ := List.length_eq_two.mp htwo
  obtain ⟨one', two', hB⟩ := List.length_eq_two.mp (hlength.trans htwo)
  rw [hA, hB] at hagree
  obtain ⟨first, hfirst, hone⟩ := hagree 0 one one' rfl rfl
  obtain ⟨second, hsecond, htwo⟩ := hagree 1 two two' rfl rfl
  have htold : (configsOf oneOrder).map (·.toldCreation.isSome) = [false, true] := by decide +kernel
  have huntold : first.toldCreation = none := by
    have hflag := congrArg (·[0]?) htold
    exact Option.not_isSome_iff_eq_none.mp (by simpa [hfirst] using hflag)
  obtain ⟨time, htime⟩ : ∃ time, second.toldCreation = some time := by
    have hflag := congrArg (·[1]?) htold
    exact Option.isSome_iff_exists.mp (by simpa [hsecond] using hflag)
  refine ⟨reportA, afterA, reportB, afterB, one, two, one', two', hrunA, hrunB, hA, hB,
    hone.fields "provider_name" (by decide) (by decide) (by decide), (hone.untold huntold).1,
    (hone.untold huntold).2, ?_⟩
  rw [(htwo.told time htime).1, (htwo.told time htime).2]

end Migration

end ProviderRegistry
