/-
# `Proofs.Migration.Lookup` — the last record of a name counts

The tables in which a migration looks up providers and catalogs are filled
record by record, and a record takes the place of an earlier one of its name.
So where names are repeated, the last record of a name is found (`LastNamed`).

A catalog comes with a table of its own, and it takes the place of an earlier
catalog of its provider as a whole; the two are not merged:

    provider?       the last provider of the name
    catalogEntry?   the last model of the name in the last catalog of the provider

A model that the last catalog lacks is therefore not found, whichever of the
earlier ones lists it.

## What is proved

The tables answer by the lists that they are made of (`provider?_ofRecords`,
`catalogEntry?_ofRecords`), and in these terms all of their answers are told,
also where there is none (`found_iff_lastNamed`).
-/
import ProviderRegistry.Migration.Merge
import ProviderRegistry.Proofs.Fields

namespace ProviderRegistry

/-! ## The last of a name -/

section Named

variable {α : Type} {name : α → String} {records : List α} {key : String}

/-- A record of a name, after which the list has no other of that name. -/
def LastNamed (name : α → String) (records : List α) (key : String) (r : α) : Prop :=
  ∃ before after, records = before ++ r :: after ∧ name r = key ∧ ∀ later ∈ after, name later ≠ key

theorem getLast?_named_eq_some_iff {r : α} :
    (records.filter (name · == key)).getLast? = some r ↔ LastNamed name records key r := by
  rw [List.getLast?_filter, List.find?_eq_some_iff_append]
  constructor
  · rintro ⟨hkey, after, before, hreverse, hafter⟩
    refine ⟨before.reverse, after.reverse, ?_, by simpa using hkey, fun later hlater => ?_⟩
    · simpa using congrArg List.reverse hreverse
    · simpa using hafter later (List.mem_reverse.mp hlater)
  · rintro ⟨before, after, rfl, hkey, hafter⟩
    refine ⟨by simpa using hkey, after.reverse, before.reverse, by simp, fun later hlater => ?_⟩
    simpa using hafter later (List.mem_reverse.mp hlater)

theorem getLast?_named_eq_none_iff :
    (records.filter (name · == key)).getLast? = none ↔ ∀ r ∈ records, name r ≠ key := by
  rw [List.getLast?_eq_none_iff, List.filter_eq_nil_iff]
  simp only [beq_iff_eq]

end Named

namespace LegacyLookup

/-! ## The two tables -/

section Tables

variable (providers : List ProviderRecord) (catalogs : List ModelCatalog)

theorem provider?_ofRecords (name : String) :
    (ofRecords providers catalogs).provider? name
      = (providers.filter (·.name == name)).getLast? :=
  Fields.lookup_ofList_named ProviderRecord.name providers name

theorem lookup_modelTable (catalog : ModelCatalog) (model : String) :
    (modelTable catalog).lookup model = (catalog.models.filter (·.name == model)).getLast? :=
  Fields.lookup_ofList_named CatalogModel.name catalog.models model

theorem catalogEntry?_ofRecords (provider model : String) :
    catalogEntry? (ofRecords providers catalogs) provider model
      = (catalogs.filter (·.provider == provider)).getLast?.bind fun catalog =>
          (catalog.models.filter (·.name == model)).getLast? := by
  have hcatalog := Fields.lookup_ofList_map ModelCatalog.provider modelTable catalogs provider
  show ((Fields.ofList _).lookup provider).bind _ = _
  rw [hcatalog, Option.bind_map]
  exact congrArg _ (funext fun catalog => lookup_modelTable catalog model)

/-- The tables of any lists find the last provider of a name, and the last model of a name in the last
catalog of a provider; where there is none of the name they find nothing, whatever an earlier catalog
lists. -/
theorem found_iff_lastNamed :
    (∀ name r, (ofRecords providers catalogs).provider? name = some r ↔
      LastNamed ProviderRecord.name providers name r) ∧
    (∀ name, (ofRecords providers catalogs).provider? name = none ↔
      ∀ r ∈ providers, r.name ≠ name) ∧
    (∀ provider model entry,
      catalogEntry? (ofRecords providers catalogs) provider model = some entry ↔
        ∃ catalog, LastNamed ModelCatalog.provider catalogs provider catalog ∧
          LastNamed CatalogModel.name catalog.models model entry) ∧
    (∀ provider model, catalogEntry? (ofRecords providers catalogs) provider model = none ↔
      ∀ catalog, LastNamed ModelCatalog.provider catalogs provider catalog →
        ∀ entry ∈ catalog.models, entry.name ≠ model) := by
  refine ⟨fun name r => ?_, fun name => ?_, fun provider model entry => ?_,
    fun provider model => ?_⟩
  · rw [provider?_ofRecords, getLast?_named_eq_some_iff]
  · rw [provider?_ofRecords, getLast?_named_eq_none_iff]
  · rw [catalogEntry?_ofRecords, Option.bind_eq_some_iff]
    simp only [getLast?_named_eq_some_iff]
  · rw [catalogEntry?_ofRecords, Option.bind_eq_none_iff]
    simp only [getLast?_named_eq_some_iff, getLast?_named_eq_none_iff]

end Tables

/-- A model that only the earlier of two catalogs lists is not found. -/
example : catalogEntry? (ofRecords [] [
    ⟨"openai", [⟨"gpt-4o", none, none, none, none, none⟩]⟩,
    ⟨"openai", [⟨"o3-mini", none, none, none, none, none⟩]⟩]) "openai" "gpt-4o" = none := by
  rfl

end LegacyLookup

end ProviderRegistry
