/-
# `Proofs.Record.Blanks` — a blank text counts as an absent one

Every text of a record that may be absent may also be blank, and then it stands
for none: taking it away changes nothing of what is made of the record.  The
chains by which a config finds its model, its key or its address differ from
record to record, but each asks of every text on its way whether it is blank
before it asks for the next (`nonBlank_blanked` is all that is needed of them).

So the records may be changed at any number of these places at once
(`Restated Text.Blanked Eq`): the config of a provider record or of an entry is
the same, and so is what is merged out of a config, its provider and its
catalog, in whatever lists of records these are looked up.

The same holds of the documents: where a blank text gives way to null, at the
top or inside a document, the record that is decoded is changed in the same
places, or both documents fail with the same error (`decode_blanked`).
-/
import ProviderRegistry.Proofs.Record.Restated

namespace ProviderRegistry

/-! ## One text -/

/-- The same text or none, or nothing in the place of a blank text. -/
inductive Text.Blanked : Option String → Option String → Prop
  | same (s : Option String) : Blanked s s
  | blank {x : String} : isBlank x = true → Blanked (some x) none

theorem Text.nonBlank_blanked {s t : Option String} (h : Blanked s t) :
    nonBlank s = nonBlank t := by
  cases h with
  | same s => rfl
  | blank hx => exact nonBlank_of_isBlank hx

theorem forms_blanked : Forms Text.Blanked Eq where
  text _ _ := Text.nonBlank_blanked
  double _ _ h := congrArg (Option.bind · Bson.toDouble?) h
  integer _ _ h := congrArg (Option.bind · Bson.toInt64?) h

/-! ## Records -/

abbrev ProviderRecord.Blanked : ProviderRecord → ProviderRecord → Prop := Restated Text.Blanked Eq

abbrev ConfigEntry.Blanked : ConfigEntry → ConfigEntry → Prop := Restated Text.Blanked Eq

abbrev LegacyConfig.Blanked : LegacyConfig → LegacyConfig → Prop := Restated Text.Blanked Eq

abbrev ModelCatalog.Blanked : ModelCatalog → ModelCatalog → Prop := Restated Text.Blanked

theorem ProviderRecord.toConfig_blanked {r r' : ProviderRecord} (h : r.Blanked r')
    {preferred preferred' : Option String} (hpreferred : Text.Blanked preferred preferred') :
    r'.toConfig preferred' = r.toConfig preferred := by
  have hactive : r'.active = r.active := by rw [active, active, h.isActive]
  rw [toConfig_restated forms_blanked h hpreferred, hactive]
  rfl

theorem ConfigEntry.toConfig_blanked {e e' : ConfigEntry} (h : e.Blanked e') :
    e'.toConfig = e.toConfig := by
  have hinUse : e'.inUse = e.inUse := by rw [inUse, inUse, h.enabled, h.isActive]
  rw [toConfig_restated forms_blanked h, hinUse]
  rfl

theorem SimplifiedConfig.merge_blanked {l l' : LegacyLookup}
    (hlookup : l.Restated Text.Blanked Eq l') {c c' : LegacyConfig} (h : c.Blanked c')
    (now : DateTime) (id : ObjectId) :
    merge l' now id c' = merge l now id c := by
  rw [merge_restated forms_blanked hlookup h, ← h.enabled]
  rfl

/-! ## Documents -/

namespace Bson

open Decode

/-- Null in the place of a blank text. -/
inductive Blanked : Bson → Bson → Prop
  | blank {s : String} : Text.isBlank s = true → Blanked (.string s) .null

theorem matching_blanked {v w : Bson} (h : Blanked v w) :
    Matching Eq Text.Blanked (optional text v) (optional text w) := by
  cases h with
  | blank hs => exact .ok (.blank hs)

/-- The same value under every key, or under one of the given keys null for a blank text. -/
abbrev BlankedAt (keys : List String) : String → Bson → Bson → Prop := ChangedAt keys Blanked

theorem readings_blankedAt {texts numbers plain : List String}
    (hnumbers : ∀ key ∈ numbers, key ∉ texts) (hplain : ∀ key ∈ plain, key ∉ texts) :
    Readings (BlankedAt texts) Text.Blanked Eq texts numbers plain where
  text _ _ _ _ h := h.matching Text.Blanked.same matching_blanked
  number key hkey v w h := by
    rw [h.eq (hnumbers key hkey)]
    exact .refl (fun _ => rfl) (fun _ => rfl) _
  plain key hkey _ _ h := h.eq (hplain key hkey)

/-- The same value, or a record inside a document with null for blank texts under the given keys. -/
def BlankedWithin (keys names : List String) (v w : Bson) : Prop :=
  v = w ∨ RecordFormat.Within (BlankedAt keys) names v w

end Bson

open Bson (BlankedAt BlankedWithin)
open RecordFormat Decode

/-- Provider documents with null for blank texts, also among the further settings. -/
def Document.ProviderBlanked (d d' : Document) : Prop :=
  Fields.Related (fun key v w => BlankedAt ProviderRecord.textKeys key v w ∨
    key = "extra_config" ∧ BlankedWithin ["default_model"] ExtraConfig.format.names v w)
    d.fields d'.fields

/-- Documents of embedded entries with null for blank texts. -/
def Document.EntryBlanked (d d' : Document) : Prop :=
  Fields.Related (BlankedAt ConfigEntry.textKeys) d.fields d'.fields

/-- Documents of configs of single models with null for blank texts. -/
def Document.ConfigBlanked (d d' : Document) : Prop :=
  Fields.Related (BlankedAt LegacyConfig.textKeys) d.fields d'.fields

/-- Lists of catalog entries of which any may have null for blank texts. -/
inductive Bson.ModelsBlanked : Bson → Bson → Prop
  | list {items others : List Bson} :
      List.Forall₂ (BlankedWithin CatalogModel.textKeys CatalogModel.format.names) items others →
      ModelsBlanked (.array items) (.array others)

/-- Documents of catalogs with null for blank texts in their entries. -/
def Document.CatalogBlanked (d d' : Document) : Prop :=
  Fields.Related (Bson.ChangedAt ["models"] Bson.ModelsBlanked) d.fields d'.fields

/-- Further settings with null for a blank model. -/
theorem ExtraConfig.matching_blanked {v w : Bson}
    (h : BlankedWithin ["default_model"] format.names v w) :
    Matching Eq (Option.Rel fun e e' => Text.Blanked e.defaultModel e'.defaultModel)
      (optional format.read v) (optional format.read w) := by
  rcases h with rfl | hwithin
  · refine .refl (fun _ => rfl) (fun e => ?_) _
    cases e with
    | none => exact .none
    | some e => exact .some (.same _)
  · have hread := matching_restated
      (fun _ _ h => h.matching Text.Blanked.same Bson.matching_blanked) (.same none) hwithin
    cases hwithin with
    | named _ => exact hread.map fun _ _ h => .some h
    | listed _ => exact hread.map fun _ _ h => .some h

theorem CatalogModel.restated_refl (m : CatalogModel) : m.Restated Text.Blanked m :=
  ⟨rfl, .same _, rfl, rfl, .same _, rfl⟩

/-- A catalog entry with null for blank texts. -/
theorem CatalogModel.matching_blanked {v w : Bson} (h : BlankedWithin textKeys format.names v w) :
    Matching Eq (Restated Text.Blanked) (format.read v) (format.read w) := by
  rcases h with rfl | hwithin
  · exact .refl (fun _ => rfl) restated_refl _
  · exact matching_restated (N := Eq) (Bson.readings_blankedAt (by decide) (by decide)) (.same none)
      hwithin

/-- Decoding leaves blank texts and nulls in their places. -/
theorem decode_blanked (d d' : Document) :
    (d.ProviderBlanked d' →
      Matching Eq ProviderRecord.Blanked (ProviderRecord.decode d) (ProviderRecord.decode d')) ∧
    (d.EntryBlanked d' →
      Matching Eq ConfigEntry.Blanked (ConfigEntry.decode d) (ConfigEntry.decode d')) ∧
    (d.ConfigBlanked d' →
      Matching Eq LegacyConfig.Blanked (LegacyConfig.decode d) (LegacyConfig.decode d')) ∧
    (d.CatalogBlanked d' →
      Matching Eq ModelCatalog.Blanked (ModelCatalog.decode d) (ModelCatalog.decode d')) := by
  refine ⟨fun h => ?_, fun h => ?_, fun h => ?_, fun h => ?_⟩
  · have hreadings : Readings (BlankedAt ProviderRecord.textKeys) Text.Blanked Eq
        ProviderRecord.textKeys numberKeys ProviderRecord.plainKeys :=
      Bson.readings_blankedAt (by decide) (by decide)
    refine ProviderRecord.matching_restated (hreadings.imp fun key hkey v w hvw => ?_)
      (fun v w hvw => ?_) (.same none) rfl h
    · refine hvw.resolve_right fun ⟨hextra, _⟩ => ?_
      rw [hextra] at hkey
      exact absurd hkey (by decide)
    · rcases hvw with hvw | ⟨-, hvw⟩
      · exact ExtraConfig.matching_blanked (.inl (hvw.eq (by decide)))
      · exact ExtraConfig.matching_blanked hvw
  · exact ConfigEntry.matching_restated (Bson.readings_blankedAt (by decide) (by decide))
      (.same none) rfl h
  · exact LegacyConfig.matching_restated (Bson.readings_blankedAt (by decide) (by decide))
      (.same none) rfl h
  · refine ModelCatalog.matching_restated (fun v w hvw => hvw.eq (by decide)) (fun v w hvw => ?_) h
    refine hvw.matching (fun _ => List.forall₂_same.mpr fun m _ => m.restated_refl) fun hmodels => ?_
    cases hmodels with
    | list hitems => exact Matching.mapM hitems fun _ _ => CatalogModel.matching_blanked

/-! ## Blank texts make no difference -/

/-- Documents in which null stands for blank texts decode to records that lack these texts, and what
is made of such records is the same. -/
theorem results_of_blanked (d d' : Document) {r r' : ProviderRecord} (hr : r.Blanked r')
    {preferred preferred' : Option String} (hpreferred : Text.Blanked preferred preferred')
    {e e' : ConfigEntry} (he : e.Blanked e') {c c' : LegacyConfig} (hc : c.Blanked c')
    {providers providers' : List ProviderRecord}
    (hproviders : List.Forall₂ ProviderRecord.Blanked providers providers')
    {catalogs catalogs' : List ModelCatalog}
    (hcatalogs : List.Forall₂ ModelCatalog.Blanked catalogs catalogs') (now : DateTime)
    (id : ObjectId) :
    ((d.ProviderBlanked d' →
        Matching Eq ProviderRecord.Blanked (ProviderRecord.decode d) (ProviderRecord.decode d')) ∧
      (d.EntryBlanked d' →
        Matching Eq ConfigEntry.Blanked (ConfigEntry.decode d) (ConfigEntry.decode d')) ∧
      (d.ConfigBlanked d' →
        Matching Eq LegacyConfig.Blanked (LegacyConfig.decode d) (LegacyConfig.decode d')) ∧
      (d.CatalogBlanked d' →
        Matching Eq ModelCatalog.Blanked (ModelCatalog.decode d) (ModelCatalog.decode d'))) ∧
    r'.toConfig preferred' = r.toConfig preferred ∧ e'.toConfig = e.toConfig ∧
    SimplifiedConfig.merge (.ofRecords providers' catalogs') now id c'
      = SimplifiedConfig.merge (.ofRecords providers catalogs) now id c := by
  refine ⟨decode_blanked d d', ?_, ?_, ?_⟩
  · exact ProviderRecord.toConfig_blanked hr hpreferred
  · exact ConfigEntry.toConfig_blanked he
  · exact SimplifiedConfig.merge_blanked (LegacyLookup.restated_ofRecords hproviders hcatalogs) hc
      now id

/-- A provider with one value for each of its texts that may be absent. -/
def providerTexts (text : Bson) : Document := ⟨[
  ("name", .string "deepseek"), ("display_name", text), ("model", text),
  ("extra_config", .document [("default_model", text)]), ("api_key", text), ("base_url", text),
  ("default_base_url", text)]⟩

/-- The same of an entry. -/
def entryTexts (text : Bson) : Document := ⟨[
  ("provider", text), ("name", text), ("model", text), ("model_name", text), ("api_key", text),
  ("base_url", text), ("api_base", text), ("default_base_url", text)]⟩

/-- The same of the config of a single model. -/
def configTexts (text : Bson) : Document := ⟨[
  ("provider", .string "deepseek"), ("model_name", .string "deepseek-chat"),
  ("model_display_name", text), ("api_key", text), ("api_base", text)]⟩

/-- The same of a catalog with one entry. -/
def catalogTexts (text : Bson) : Document := ⟨[
  ("provider", .string "deepseek"),
  ("models", .array [.document [
    ("name", .string "deepseek-chat"), ("display_name", text), ("currency", text)]])]⟩

theorem blankedAt_space {keys : List String} {key : String} (h : key ∈ keys) :
    BlankedAt keys key (.string " ") .null :=
  .inr ⟨h, .blank (by decide)⟩

/-- Blank texts or none at all, in all places at once: what is made of the documents is the same. -/
theorem results_allBlank :
    ∃ p p' e e' c c' k k', ProviderRecord.decode (providerTexts (.string " ")) = .ok p ∧
      ProviderRecord.decode (providerTexts .null) = .ok p' ∧
      ConfigEntry.decode (entryTexts (.string " ")) = .ok e ∧
      ConfigEntry.decode (entryTexts .null) = .ok e' ∧
      LegacyConfig.decode (configTexts (.string " ")) = .ok c ∧
      LegacyConfig.decode (configTexts .null) = .ok c' ∧
      ModelCatalog.decode (catalogTexts (.string " ")) = .ok k ∧
      ModelCatalog.decode (catalogTexts .null) = .ok k' ∧
      p'.toConfig none = p.toConfig (some " ") ∧ e'.toConfig = e.toConfig ∧
      SimplifiedConfig.merge (.ofRecords [p'] [k']) ⟨0⟩ (ObjectId.ofNat 1) c'
        = SimplifiedConfig.merge (.ofRecords [p] [k]) ⟨0⟩ (ObjectId.ofNat 1) c := by
  have hp := (decode_blanked (providerTexts (.string " ")) (providerTexts .null)).1 <|
    .cons ⟨rfl, .inl (.inl rfl)⟩ <| .cons ⟨rfl, .inl (blankedAt_space (by decide))⟩ <|
    .cons ⟨rfl, .inl (blankedAt_space (by decide))⟩ <|
    .cons ⟨rfl, .inr ⟨rfl, .inr (.named (.cons ⟨rfl, blankedAt_space (by decide)⟩ .nil))⟩⟩ <|
    .cons ⟨rfl, .inl (blankedAt_space (by decide))⟩ <|
    .cons ⟨rfl, .inl (blankedAt_space (by decide))⟩ <|
    .cons ⟨rfl, .inl (blankedAt_space (by decide))⟩ .nil
  have he := (decode_blanked (entryTexts (.string " ")) (entryTexts .null)).2.1 <|
    .cons ⟨rfl, blankedAt_space (by decide)⟩ <| .cons ⟨rfl, blankedAt_space (by decide)⟩ <|
    .cons ⟨rfl, blankedAt_space (by decide)⟩ <| .cons ⟨rfl, blankedAt_space (by decide)⟩ <|
    .cons ⟨rfl, blankedAt_space (by decide)⟩ <| .cons ⟨rfl, blankedAt_space (by decide)⟩ <|
    .cons ⟨rfl, blankedAt_space (by decide)⟩ <| .cons ⟨rfl, blankedAt_space (by decide)⟩ .nil
  have hc := (decode_blanked (configTexts (.string " ")) (configTexts .null)).2.2.1 <|
    .cons ⟨rfl, .inl rfl⟩ <| .cons ⟨rfl, .inl rfl⟩ <|
    .cons ⟨rfl, blankedAt_space (by decide)⟩ <| .cons ⟨rfl, blankedAt_space (by decide)⟩ <|
    .cons ⟨rfl, blankedAt_space (by decide)⟩ .nil
  have hk := (decode_blanked (catalogTexts (.string " ")) (catalogTexts .null)).2.2.2 <|
    .cons ⟨rfl, .inl rfl⟩ <|
    .cons ⟨rfl, .inr ⟨by decide, .list (.cons (.inr (.named (.cons ⟨rfl, .inl rfl⟩ <|
      .cons ⟨rfl, blankedAt_space (by decide)⟩ <| .cons ⟨rfl, blankedAt_space (by decide)⟩ .nil)))
      .nil)⟩⟩ .nil
  refine ⟨_, _, _, _, _, _, _, _, rfl, rfl, rfl, rfl, rfl, rfl, rfl, rfl, ?_⟩
  exact (results_of_blanked (providerTexts (.string " ")) (providerTexts .null) hp.related
    (.blank (by decide)) he.related hc.related (.cons hp.related .nil) (.cons hk.related .nil) ⟨0⟩
    (ObjectId.ofNat 1)).2

end ProviderRegistry
