/-
# `Proofs.Migration.Contents` — what a migration puts into the destination

A flat record is put together from three sources: the config, the provider of
its name, and the entry of its model in the catalog of that provider.  The
tables in which the migration looks these up are said here of the collections
themselves: the last record of a name counts, and the last catalog of a provider
as a whole, even where it lacks the model and an earlier one had it (`providerOf`,
`entryOf`).

`Flattened` says of a document, field by field, where each of its values comes
from.  It is about the document that is stored, and not about the record that
it was written from.

## What is proved

    the lookups of a migration are those in its collections   (`provider?_lookup`, `catalogEntry?_lookup`)
    the document of a merged record is flattened              (`flattened_encode`)

and from these, of the destination after every migration that has ended, that it
holds one flattened document for each config that decodes, in their order, and
nothing else (`contents_of_migration`).
-/
import ProviderRegistry.Proofs.Migration.Lookup
import ProviderRegistry.Proofs.Migration.Rebuild
import ProviderRegistry.Proofs.Text

namespace ProviderRegistry

open Collections

open Resolution (decodable)

/-- Whether a config is enabled; one that does not tell, or not readably, is. -/
def LegacyConfig.inUse (c : LegacyConfig) : Bool := (c.enabled.bind Bson.toBool?).getD true

namespace Migration

/-! ## The configs, their providers and their catalog entries -/

/-- The configs that decode, in the order of the collection. -/
def configsOf (db : Database) : List LegacyConfig :=
  decodable LegacyConfig.decode (db.documents legacyConfigs)

/-- The last provider record of a name, of those that decode. -/
def providerOf (db : Database) (name : String) : Option ProviderRecord :=
  ((decodable ProviderRecord.decode (db.documents providers)).filter (·.name == name)).getLast?

/-- The last entry of a model in the last catalog of a provider, of those that decode. -/
def entryOf (db : Database) (provider model : String) : Option CatalogModel :=
  ((decodable ModelCatalog.decode (db.documents catalogs)).filter
    (·.provider == provider)).getLast?.bind fun catalog =>
      (catalog.models.filter (·.name == model)).getLast?

theorem provider?_lookup (db : Database) (name : String) :
    (Survey.of db).lookup.provider? name = providerOf db name :=
  LegacyLookup.provider?_ofRecords _ _ name

theorem catalogEntry?_lookup (db : Database) (provider model : String) :
    (Survey.of db).lookup.catalogEntry? provider model = entryOf db provider model :=
  LegacyLookup.catalogEntry?_ofRecords _ _ provider model

/-! ## One document -/

/-- What a migration at a time stores of a config `c` whose provider is `p` and whose catalog entry is
`k`, under an identity: all fields, in their order, and their values. -/
structure Flattened (now : DateTime) (p : Option ProviderRecord) (k : Option CatalogModel)
    (c : LegacyConfig) (id : ObjectId) (default : Bool) (d : Document) : Prop where
  names : Fields.keys d.fields = ["_id", "provider", "provider_name", "model_name",
    "model_display_name", "api_key", "api_base", "max_tokens", "temperature", "timeout", "enabled",
    "is_default", "input_price", "output_price", "currency", "capabilities", "suitable_for",
    "description", "created_at", "updated_at"]
  identity : d.get? "_id" = some (.objectId id)
  provider : d.get? "provider" = some (.string c.provider)
  providerName : d.get? "provider_name"
    = some (.string ((Text.firstNonBlank [p.bind (·.displayName)]).getD c.provider))
  modelName : d.get? "model_name" = some (.string c.modelName)
  modelDisplayName : d.get? "model_display_name" = some (.string ((Text.firstNonBlank
    [c.modelDisplayName, k.bind (·.displayName)]).getD c.modelName))
  apiKey : d.get? "api_key" = some (Bson.ofOption .string (Text.firstNonBlank
    [c.apiKey, p.bind (·.apiKey)]))
  apiBase : d.get? "api_base" = some (Bson.ofOption .string (Text.firstNonBlank
    [c.apiBase, p.bind (·.defaultBaseUrl)]))
  maxTokens : d.get? "max_tokens" = some (.int64 ((c.maxTokens.bind Bson.toInt64?).getD 4000))
  temperature : d.get? "temperature"
    = some (.double ((c.temperature.bind Bson.toDouble?).getD Double.sevenTenths))
  timeout : d.get? "timeout" = some (.int64 ((c.timeout.bind Bson.toInt64?).getD 180))
  enabled : d.get? "enabled" = some (.boolean ((c.enabled.bind Bson.toBool?).getD true))
  isDefault : d.get? "is_default" = some (.boolean default)
  inputPrice : d.get? "input_price"
    = some (Bson.ofOption .double ((k.bind (·.inputPrice)).bind Bson.toDouble?))
  outputPrice : d.get? "output_price"
    = some (Bson.ofOption .double ((k.bind (·.outputPrice)).bind Bson.toDouble?))
  currency : d.get? "currency"
    = some (.string ((Text.firstNonBlank [k.bind (·.currency)]).getD "CNY"))
  capabilities : d.get? "capabilities"
    = some (.array (((k.bind (·.capabilities)).getD []).map .string))
  suitableFor : d.get? "suitable_for" = some (.array ((c.suitableRoles.getD []).map .string))
  description : d.get? "description" = some (Bson.ofOption .string c.description)
  createdAt : d.get? "created_at"
    = some ((c.createdAt.filter fun v => !v.isNull).getD (.dateTime now))
  updatedAt : d.get? "updated_at" = some (.dateTime now)

/-- The document of a record that has been merged, and marked as the default or not. -/
theorem flattened_encode (lookup : LegacyLookup) (now : DateTime) (id : ObjectId)
    (c : LegacyConfig) (isDefault : Bool) :
    Flattened now (lookup.provider? c.provider) (lookup.catalogEntry? c.provider c.modelName) c id
      isDefault { SimplifiedConfig.merge lookup now id c with isDefault }.encode := by
  constructor
  case names | identity | provider | modelName | maxTokens | temperature | timeout | enabled
      | isDefault | capabilities | suitableFor | description | createdAt | updatedAt => rfl
  case inputPrice | outputPrice =>
    rw [Option.bind_assoc]
    rfl
  case providerName | currency =>
    rw [Text.firstNonBlank_one, Text.nonBlank_bind]
    rfl
  case modelDisplayName | apiKey | apiBase =>
    rw [Text.firstNonBlank_two, Text.nonBlank_bind]
    rfl

/-! ## The records of a survey -/

theorem Survey.of_alike {a b : Database} (h : a.Alike (· ∈ legacy) b) : Survey.of b = Survey.of a := by
  have hproviders : b.documents Collections.providers = a.documents Collections.providers :=
    h.documents _ (by decide)
  have hcatalogs : b.documents Collections.catalogs = a.documents Collections.catalogs :=
    h.documents _ (by decide)
  have hconfigs : b.documents legacyConfigs = a.documents legacyConfigs := h.documents _ (by decide)
  simp only [Survey.of, hproviders, hcatalogs, hconfigs]

/-- Each record is merged from its config, and the first one in use is the default. -/
theorem Survey.getElem?_records (s : Survey) (now : DateTime) (ids : Nat → ObjectId) (first i : Nat) :
    (s.records now ids first)[i]? = s.configs[i]?.map fun c =>
      { SimplifiedConfig.merge s.lookup now (ids (first + i)) c with
        isDefault := s.configs.findIdx? LegacyConfig.inUse == some i } := by
  have henabled : (s.configs.mapIdx fun i c =>
      SimplifiedConfig.merge s.lookup now (ids (first + i)) c).findIdx? (·.enabled)
        = s.configs.findIdx? LegacyConfig.inUse := by
    have hflags : (s.configs.mapIdx fun i c =>
        SimplifiedConfig.merge s.lookup now (ids (first + i)) c).map (·.enabled)
          = s.configs.map LegacyConfig.inUse := by
      refine List.ext_getElem? fun i => ?_
      rw [List.getElem?_map, List.getElem?_mapIdx, Option.map_map, List.getElem?_map]
      rfl
    have hmerged := List.findIdx?_map (p := id) (f := SimplifiedConfig.enabled)
      (l := s.configs.mapIdx fun i c => SimplifiedConfig.merge s.lookup now (ids (first + i)) c)
    have hconfigs := List.findIdx?_map (p := id) (f := LegacyConfig.inUse) (l := s.configs)
    rw [hflags] at hmerged
    exact hmerged.symm.trans hconfigs
  rw [Survey.records, SimplifiedConfig.assignDefault_eq, henabled, List.getElem?_mapIdx,
    List.getElem?_mapIdx, Option.map_map]
  rfl

/-! ## The destination -/

/-- After a migration that has ended, the destination holds a document for each config that decodes,
in their order, and nothing else.  Its identities are drawn from the supply one after the other, and
its default is the first config in use. -/
theorem contents_of_migration {now : DateTime} {force : Bool} {db after : Database}
    {report : MigrationReport} (h : (migrate now force).run db = (.ok report, after)) :
    ∃ first, db.drawn ≤ first ∧ (after.documents simplified).length = (configsOf db).length ∧
      ∀ (i : Nat) (c : LegacyConfig) (d : Document),
        (configsOf db)[i]? = some c → (after.documents simplified)[i]? = some d →
        Flattened now (providerOf db c.provider) (entryOf db c.provider c.modelName) c
          (db.ids (first + i)) ((configsOf db).findIdx? LegacyConfig.inUse == some i) d := by
  obtain ⟨report', middle, hbackup, hrebuild⟩ := Script.ok_of_run_bind h
  rw [rebuild_eq] at hrebuild
  obtain ⟨found, surveyed, hsurvey, hfill⟩ := Script.ok_of_run_bind hrebuild
  obtain ⟨rfl, -⟩ := ok_of_run_survey hsurvey
  have hdocuments := ok_of_run_fill hfill
  -- the backup changes no legacy collection
  have hkept := spares_backup.alike_run db
  rw [hbackup] at hkept
  have hlegacy : db.Alike (· ∈ legacy) middle :=
    hkept.mono fun t ht c hc => apart_backup.sources c hc t ht ∘ Eq.symm
  rw [Survey.of_alike hlegacy] at hdocuments
  -- and neither it nor the survey changes the supply
  obtain ⟨hids, hdrawn⟩ := backup.supply_run db
  obtain ⟨hids', hdrawn'⟩ := (survey force).supply_run middle
  rw [hbackup] at hids hdrawn
  rw [hsurvey] at hids' hdrawn'
  rw [hids', hids] at hdocuments
  refine ⟨surveyed.drawn, Nat.le_trans hdrawn hdrawn', ?_, fun i c d hc hd => ?_⟩
  · rw [hdocuments, List.length_map, Survey.length_records]
    rfl
  · rw [hdocuments, List.getElem?_map, Survey.getElem?_records] at hd
    have hconfig : (Survey.of db).configs[i]? = some c := hc
    rw [hconfig] at hd
    obtain rfl := Option.some.inj hd
    have hflat := flattened_encode (Survey.of db).lookup now (db.ids (surveyed.drawn + i)) c
      ((Survey.of db).configs.findIdx? LegacyConfig.inUse == some i)
    rwa [provider?_lookup, catalogEntry?_lookup] at hflat

/-- Two records of one provider and two catalogs of it, and two configs after a document that is
none. -/
def mixedLegacy : Database :=
  (((Database.empty ObjectId.ofNat).put providers [
    ⟨[("_id", .objectId (ObjectId.ofNat 1)), ("name", .string "openai"),
      ("display_name", .string "OpenAI"), ("api_key", .string "sk-old")]⟩,
    ⟨[("_id", .objectId (ObjectId.ofNat 2)), ("name", .string "openai"),
      ("display_name", .string "  "), ("api_key", .string "sk-new")]⟩]).put catalogs [
    ⟨[("_id", .objectId (ObjectId.ofNat 3)), ("provider", .string "openai"),
      ("models", .array [.document [("name", .string "gpt-4o"), ("currency", .string "USD")]])]⟩,
    ⟨[("_id", .objectId (ObjectId.ofNat 4)), ("provider", .string "openai"),
      ("models", .array [.document [("name", .string "gpt-4o"), ("display_name", .string "Omni")]])]⟩]).put
    legacyConfigs [
    ⟨[("_id", .objectId (ObjectId.ofNat 5)), ("provider", .int32 5)]⟩,
    ⟨[("_id", .objectId (ObjectId.ofNat 6)), ("provider", .string "openai"),
      ("model_name", .string "gpt-4o"), ("enabled", .string "no")]⟩,
    ⟨[("_id", .objectId (ObjectId.ofNat 7)), ("provider", .string "zhipu"),
      ("model_name", .string "glm-4")]⟩]

/-- The later record and the later catalog count, also where they are blank or say less. -/
theorem contents_mixedLegacy :
    ∃ report after one two, (migrate ⟨0⟩ false).run mixedLegacy = (.ok report, after) ∧
      after.documents simplified = [one, two] ∧
      one.get? "provider_name" = some (.string "openai") ∧
      one.get? "model_display_name" = some (.string "Omni") ∧
      one.get? "api_key" = some (.string "sk-new") ∧
      one.get? "currency" = some (.string "CNY") ∧
      one.get? "is_default" = some (.boolean false) ∧
      two.get? "provider_name" = some (.string "zhipu") ∧
      two.get? "is_default" = some (.boolean true) := by
  have hended : ((migrate ⟨0⟩ false).outcome mixedLegacy).toOption.isSome = true := by
    decide +kernel
  unfold Script.outcome at hended
  rcases hrun : (migrate ⟨0⟩ false).run mixedLegacy with ⟨e | report, after⟩
  · rw [hrun] at hended
    exact nomatch hended
  obtain ⟨first, -, hlength, hflat⟩ := contents_of_migration hrun
  have hconfigs : (configsOf mixedLegacy).length = 2 := by decide +kernel
  rw [hconfigs] at hlength
  have htext : ∀ {s t : String}, s = t → some (Bson.string s) = some (.string t) := by
    rintro s t rfl
    rfl
  have hflag : ∀ {a b : Bool}, a = b → some (Bson.boolean a) = some (.boolean b) := by
    rintro a b rfl
    rfl
  have hpresent : ∀ {s : Option String} {t : String}, s = some t →
      some (Bson.ofOption .string s) = some (.string t) := by
    rintro s t rfl
    rfl
  match hdocuments : after.documents simplified, hlength with
  | [one, two], _ =>
      have hone := hflat 0 _ one (List.getElem?_eq_getElem (by decide +kernel))
        (by rw [hdocuments]; rfl)
      have htwo := hflat 1 _ two (List.getElem?_eq_getElem (by decide +kernel))
        (by rw [hdocuments]; rfl)
      refine ⟨report, after, one, two, rfl, hdocuments,
        hone.providerName.trans (htext (by decide +kernel)),
        hone.modelDisplayName.trans (htext (by decide +kernel)),
        hone.apiKey.trans (hpresent (by decide +kernel)),
        hone.currency.trans (htext (by decide +kernel)),
        hone.isDefault.trans (hflag (by decide +kernel)),
        htwo.providerName.trans (htext (by decide +kernel)),
        htwo.isDefault.trans (hflag (by decide +kernel))⟩

end Migration

end ProviderRegistry
