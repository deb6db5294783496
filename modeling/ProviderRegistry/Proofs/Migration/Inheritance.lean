/-
# `Proofs.Migration.Inheritance` — the key and the address that come from a provider

A config of the older form that has no key or no address of its own takes them
over from the provider record of its name when it is migrated.  The same records
are what a resolution makes configs of, by rules of its own:

                  key            address
    resolution    `api_key`      `base_url`, or else `default_base_url`
    migration     `api_key`      `default_base_url`

where a blank text counts as none.  So the keys are the same for every record
(`apiKey_merge`), and the addresses exactly where the record is not `Bypassed`:
where it has no `base_url`, or the same address under both names.

## What is proved

    one config and its provider                       (`SimplifiedConfig.merge_inherited`)
    every record that a migration stores              (`Migration.inherited_of_migration`)
    the records that operators create and change
      have no other address than their `base_url`,
      so that no migration takes it over              (`Ledger.Entry.bypassed_record`)
-/
import ProviderRegistry.Proofs.Admin.Ledger
import ProviderRegistry.Proofs.Migration.Report

namespace ProviderRegistry

/-! ## Two rules for one record -/

/-- The address that the record resolves to is not the one that a migration takes over. -/
def ProviderRecord.Bypassed (p : ProviderRecord) : Prop :=
  ∃ url, Text.nonBlank p.baseUrl = some url ∧ Text.nonBlank p.defaultBaseUrl ≠ some url

theorem ProviderRecord.defaultBaseUrl_eq_iff (p : ProviderRecord) (preferred : Option String) :
    Text.nonBlank p.defaultBaseUrl = (p.toConfig preferred).baseUrl ↔ ¬p.Bypassed := by
  show Text.nonBlank p.defaultBaseUrl
    = (Text.nonBlank p.baseUrl <|> Text.nonBlank p.defaultBaseUrl) ↔ _
  unfold Bypassed
  cases hown : Text.nonBlank p.baseUrl with
  | none => exact iff_of_true rfl fun ⟨_, hurl, _⟩ => nomatch hurl
  | some url =>
      show Text.nonBlank p.defaultBaseUrl = some url ↔ _
      constructor
      · rintro heq ⟨other, hother, hne⟩
        exact hne (heq.trans hother)
      · exact fun h => by_contra fun hne => h ⟨url, rfl, hne⟩

namespace SimplifiedConfig

variable {lookup : LegacyLookup} {c : LegacyConfig} {p : ProviderRecord}
  (hprovider : lookup.provider? c.provider = some p) (now : DateTime) (id : ObjectId)

include hprovider

theorem apiKey_merge (hkey : Text.nonBlank c.apiKey = none) (preferred : Option String) :
    (merge lookup now id c).apiKey = (p.toConfig preferred).apiKey := by
  simp only [merge, hkey, hprovider]
  rfl

theorem apiBase_merge (hbase : Text.nonBlank c.apiBase = none) :
    (merge lookup now id c).apiBase = Text.nonBlank p.defaultBaseUrl := by
  simp only [merge, hbase, hprovider]
  rfl

end SimplifiedConfig

/-! ## One config and its provider -/

/-- A config that has no key and no address takes over the key to which its provider record
resolves, and the address exactly where the record is not bypassed. -/
theorem SimplifiedConfig.merge_inherited {lookup : LegacyLookup} {c : LegacyConfig}
    {p : ProviderRecord} (hprovider : lookup.provider? c.provider = some p)
    (hkey : Text.nonBlank c.apiKey = none) (hbase : Text.nonBlank c.apiBase = none)
    (now : DateTime) (id : ObjectId) (preferred : Option String) :
    (merge lookup now id c).apiKey = (p.toConfig preferred).apiKey ∧
    (merge lookup now id c).apiBase = Text.nonBlank p.defaultBaseUrl ∧
    ((merge lookup now id c).apiBase = (p.toConfig preferred).baseUrl ↔ ¬p.Bypassed) := by
  refine ⟨apiKey_merge hprovider now id hkey preferred, apiBase_merge hprovider now id hbase, ?_⟩
  rw [apiBase_merge hprovider now id hbase]
  exact p.defaultBaseUrl_eq_iff preferred

/-- A provider with an address under one name, or the other. -/
def providerAt (baseUrl defaultBaseUrl : Option String) : ProviderRecord :=
  { ProviderRecord.blank with
    name := "openai"
    apiKey := some "sk-abc123"
    baseUrl := baseUrl
    defaultBaseUrl := defaultBaseUrl }

/-- A config that leaves its key and its address to its provider. -/
def unaddressed : LegacyConfig :=
  { LegacyConfig.blank with provider := "openai", modelName := "gpt-4o", apiKey := some " " }

/-- Beside a blank address the default one is resolved, and taken over with the key. -/
theorem merge_unaddressed :
    ∃ lookup p, lookup = LegacyLookup.ofRecords [p] [] ∧
      p = providerAt (some " ") (some "https://api.example") ∧
      (SimplifiedConfig.merge lookup ⟨0⟩ (ObjectId.ofNat 1) unaddressed).apiKey = some "sk-abc123" ∧
      (SimplifiedConfig.merge lookup ⟨0⟩ (ObjectId.ofNat 1) unaddressed).apiBase
        = (p.toConfig none).baseUrl ∧
      (p.toConfig none).baseUrl = some "https://api.example" := by
  have hprovider : (LegacyLookup.ofRecords [providerAt (some " ") (some "https://api.example")]
      []).provider? unaddressed.provider
      = some (providerAt (some " ") (some "https://api.example")) := rfl
  obtain ⟨hkey, -, hbase⟩ := SimplifiedConfig.merge_inherited hprovider (by decide) (by decide) ⟨0⟩
    (ObjectId.ofNat 1) none
  refine ⟨_, _, rfl, rfl, hkey.trans (by decide), hbase.mpr ?_, by decide⟩
  rintro ⟨url, hurl, -⟩
  have hblank : Text.nonBlank (some " ") = none := by decide
  exact nomatch hblank.symm.trans hurl

/-- An address under the first name is resolved and not taken over. -/
theorem bypassed_address :
    ∃ p, (LegacyLookup.ofRecords [p] []).provider? unaddressed.provider = some p ∧
      Text.nonBlank unaddressed.apiKey = none ∧ Text.nonBlank unaddressed.apiBase = none ∧
      (p.toConfig none).baseUrl = some "https://gateway.example" ∧
      (SimplifiedConfig.merge (.ofRecords [p] []) ⟨0⟩ (ObjectId.ofNat 1) unaddressed).apiBase
        = none :=
  ⟨providerAt (some "https://gateway.example") none, rfl, by decide, by decide, by decide,
    by decide⟩

/-! ## Whole migrations -/

theorem Bson.ofOption_string_inj {s t : Option String}
    (h : ofOption .string s = ofOption .string t) : s = t := by
  cases s with
  | none => cases t with
    | none => rfl
    | some _ => exact nomatch h
  | some _ => cases t with
    | none => exact nomatch h
    | some _ => exact congrArg some (Bson.string.inj h)

open Collections in
/-- What a migration has stored for a config without key and address, it has from the last provider
record of its name. -/
theorem Migration.inherited_of_migration {now : DateTime} {force : Bool} {db after : Database}
    {report : MigrationReport} (h : (migrate now force).run db = (.ok report, after)) {i : Nat}
    {c : LegacyConfig} {d : Document} {p : ProviderRecord} (hc : (configsOf db)[i]? = some c)
    (hd : (after.documents simplified)[i]? = some d) (hprovider : providerOf db c.provider = some p)
    (hkey : Text.nonBlank c.apiKey = none) (hbase : Text.nonBlank c.apiBase = none)
    (preferred : Option String) :
    d.get? "api_key" = some (Bson.ofOption .string (p.toConfig preferred).apiKey) ∧
    (d.get? "api_base" = some (Bson.ofOption .string (p.toConfig preferred).baseUrl) ↔
      ¬p.Bypassed) := by
  obtain ⟨_, ⟨ids, first, rfl⟩, hdocuments, -, -⟩ := ok_of_run_migrate h
  have hconfig : (Survey.of db).configs[i]? = some c := hc
  rw [hdocuments, List.getElem?_map, Survey.getElem?_records, hconfig] at hd
  obtain rfl := Option.some.inj hd
  rw [← provider?_lookup] at hprovider
  have hapiKey := SimplifiedConfig.apiKey_merge hprovider now (ids (first + i)) hkey preferred
  have hapiBase := SimplifiedConfig.apiBase_merge hprovider now (ids (first + i)) hbase
  refine ⟨congrArg (some ∘ Bson.ofOption .string) hapiKey, ?_⟩
  rw [← p.defaultBaseUrl_eq_iff preferred, ← hapiBase]
  constructor
  · exact fun heq => Bson.ofOption_string_inj (Option.some.inj heq)
  · exact fun heq => congrArg (some ∘ Bson.ofOption .string) heq

/-- Where an operator has set an address, it is the one that no migration takes over. -/
theorem Ledger.Entry.bypassed_record (r : Ledger.Entry) :
    r.record.Bypassed ↔ (Text.nonBlank r.baseUrl).isSome := by
  rw [Option.isSome_iff_exists]
  exact exists_congr fun url => and_iff_left (nofun : none ≠ some url)

end ProviderRegistry
