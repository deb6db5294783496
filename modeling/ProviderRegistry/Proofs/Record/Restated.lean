/-
# `Proofs.Record.Restated` — records that say the same in other forms

Two records of one kind may say the same in different forms: a text of white
space where the other has none, a number as a double where the other has it as
an integer.  `Restated T N` relates them, where `T` holds of the two forms of
every text that may be absent and `N` of the two forms of every number and
flag; everything else is the same.

What is made of a record reads its texts by `Text.nonBlank` and its numbers as
doubles and integers.  Where the forms agree in these three readings (`Forms`),
the results are the same but for one component, the flag, which is left as it
is read:

    a provider record's config   { r.toConfig p with enabled := r'.active }    (`toConfig_restated`)
    an entry's config            { e.toConfig with enabled := e'.inUse }       (`toConfig_restated`)
    a migrated record            { merge l now id c with enabled := … }        (`merge_restated`)

Documents whose values are related under each key decode to records that are
restated, or fail with the same error: this asks only what the relation comes to
under the keys of texts and under those of numbers (`Readings`).
-/
import ProviderRegistry.Admin.View
import ProviderRegistry.Migration.Merge
import ProviderRegistry.Proofs.Bson.RecordFormat
import ProviderRegistry.Proofs.Migration.Lookup
import ProviderRegistry.Proofs.Text
import ProviderRegistry.Record.SystemConfig

namespace ProviderRegistry

/-! ## Restated records -/

section Restated

variable (T : Option String → Option String → Prop) (N : Option Bson → Option Bson → Prop)

/-- Two provider records that say the same in forms related by `T` and `N`. -/
structure ProviderRecord.Restated (r r' : ProviderRecord) : Prop where
  id : r.id = r'.id
  name : r.name = r'.name
  displayName : T r.displayName r'.displayName
  model : T r.model r'.model
  extraConfig : Option.Rel (fun e e' => T e.defaultModel e'.defaultModel) r.extraConfig
    r'.extraConfig
  apiKey : T r.apiKey r'.apiKey
  baseUrl : T r.baseUrl r'.baseUrl
  defaultBaseUrl : T r.defaultBaseUrl r'.defaultBaseUrl
  temperature : N r.temperature r'.temperature
  maxTokens : N r.maxTokens r'.maxTokens
  timeout : N r.timeout r'.timeout
  enabled : N r.enabled r'.enabled
  isActive : N r.isActive r'.isActive
  createdAt : r.createdAt = r'.createdAt
  updatedAt : r.updatedAt = r'.updatedAt

/-- Two embedded entries that say the same. -/
structure ConfigEntry.Restated (e e' : ConfigEntry) : Prop where
  provider : T e.provider e'.provider
  name : T e.name e'.name
  model : T e.model e'.model
  modelName : T e.modelName e'.modelName
  apiKey : T e.apiKey e'.apiKey
  baseUrl : T e.baseUrl e'.baseUrl
  apiBase : T e.apiBase e'.apiBase
  defaultBaseUrl : T e.defaultBaseUrl e'.defaultBaseUrl
  temperature : N e.temperature e'.temperature
  maxTokens : N e.maxTokens e'.maxTokens
  timeout : N e.timeout e'.timeout
  enabled : N e.enabled e'.enabled
  isActive : N e.isActive e'.isActive

/-- Two configs of single models that say the same. -/
structure LegacyConfig.Restated (c c' : LegacyConfig) : Prop where
  provider : c.provider = c'.provider
  modelName : c.modelName = c'.modelName
  modelDisplayName : T c.modelDisplayName c'.modelDisplayName
  apiKey : T c.apiKey c'.apiKey
  apiBase : T c.apiBase c'.apiBase
  maxTokens : N c.maxTokens c'.maxTokens
  temperature : N c.temperature c'.temperature
  timeout : N c.timeout c'.timeout
  enabled : N c.enabled c'.enabled
  suitableRoles : c.suitableRoles = c'.suitableRoles
  description : c.description = c'.description
  createdAt : c.createdAt = c'.createdAt

/-- Two catalog entries that say the same; their prices are left alone. -/
structure CatalogModel.Restated (m m' : CatalogModel) : Prop where
  name : m.name = m'.name
  displayName : T m.displayName m'.displayName
  inputPrice : m.inputPrice = m'.inputPrice
  outputPrice : m.outputPrice = m'.outputPrice
  currency : T m.currency m'.currency
  capabilities : m.capabilities = m'.capabilities

/-- Two catalogs of one provider, entry by entry. -/
structure ModelCatalog.Restated (k k' : ModelCatalog) : Prop where
  provider : k.provider = k'.provider
  models : List.Forall₂ (CatalogModel.Restated T) k.models k'.models

/-- Under every name the two lookups have records that say the same, or both have none. -/
structure LegacyLookup.Restated (l l' : LegacyLookup) : Prop where
  provider : ∀ name, Option.Rel (ProviderRecord.Restated T N) (l.provider? name) (l'.provider? name)
  entry : ∀ provider model, Option.Rel (CatalogModel.Restated T)
    ( l.catalogEntry? provider model) ( l'.catalogEntry? provider model)

/-- The forms agree in what is read of them: the text that is not blank, the double and the
integer. -/
structure Forms : Prop where
  text : ∀ s t, T s t → Text.nonBlank s = Text.nonBlank t
  double : ∀ v w, N v w → v.bind Bson.toDouble? = w.bind Bson.toDouble?
  integer : ∀ v w, N v w → v.bind Bson.toInt64? = w.bind Bson.toInt64?

end Restated

theorem bind_eq_of_rel {α β γ : Type} {R : α → β → Prop} {x : Option α} {y : Option β}
    (h : Option.Rel R x y) {f : α → Option γ} {g : β → Option γ}
    (hfg : ∀ a b, R a b → f a = g b) : x.bind f = y.bind g := by
  cases h with
  | some hab => exact hfg _ _ hab
  | none => rfl

variable {T : Option String → Option String → Prop} {N : Option Bson → Option Bson → Prop}

/-! ## What is made of them -/

section Results

variable (hforms : Forms T N)

include hforms

theorem ProviderRecord.explicitModel_restated {r r' : ProviderRecord} (h : r.Restated T N r') :
    r.explicitModel = r'.explicitModel := by
  have hextra : Text.nonBlank (r.extraConfig.bind (·.defaultModel))
      = Text.nonBlank (r'.extraConfig.bind (·.defaultModel)) := by
    rw [Text.nonBlank_bind, Text.nonBlank_bind]
    exact bind_eq_of_rel h.extraConfig fun _ _ => hforms.text _ _
  rw [explicitModel, explicitModel, hforms.text _ _ h.model, hextra]

theorem ProviderRecord.toConfig_restated {r r' : ProviderRecord} (h : r.Restated T N r')
    {preferred preferred' : Option String} (hpreferred : T preferred preferred') :
    r'.toConfig preferred' = { r.toConfig preferred with enabled := r'.active } := by
  simp only [toConfig, explicitModel_restated hforms h, hforms.text _ _ hpreferred, h.name,
    hforms.text _ _ h.apiKey, hforms.text _ _ h.baseUrl, hforms.text _ _ h.defaultBaseUrl,
    hforms.double _ _ h.temperature, hforms.integer _ _ h.maxTokens, hforms.integer _ _ h.timeout]

theorem ConfigEntry.toConfig_restated {e e' : ConfigEntry} (h : e.Restated T N e') :
    e'.toConfig = { e.toConfig with enabled := e'.inUse } := by
  simp only [toConfig, hforms.text _ _ h.provider, hforms.text _ _ h.name, hforms.text _ _ h.model,
    hforms.text _ _ h.modelName, hforms.text _ _ h.apiKey, hforms.text _ _ h.baseUrl,
    hforms.text _ _ h.apiBase, hforms.text _ _ h.defaultBaseUrl,
    hforms.double _ _ h.temperature, hforms.integer _ _ h.maxTokens, hforms.integer _ _ h.timeout]

theorem SimplifiedConfig.merge_restated {l l' : LegacyLookup} (hlookup : l.Restated T N l')
    {c c' : LegacyConfig} (h : c.Restated T N c') (now : DateTime) (id : ObjectId) :
    merge l' now id c' = { merge l now id c with
      enabled := (c'.enabled.bind Bson.toBool?).getD true } := by
  have hprovider := hlookup.provider c'.provider
  have hentry := hlookup.entry c'.provider c'.modelName
  have hname := bind_eq_of_rel hprovider fun _ _ hp => hforms.text _ _ hp.displayName
  have hkey := bind_eq_of_rel hprovider fun _ _ hp => hforms.text _ _ hp.apiKey
  have hbase := bind_eq_of_rel hprovider fun _ _ hp => hforms.text _ _ hp.defaultBaseUrl
  have hdisplay := bind_eq_of_rel hentry fun _ _ hm => hforms.text _ _ hm.displayName
  have hcurrency := bind_eq_of_rel hentry fun _ _ hm => hforms.text _ _ hm.currency
  have hinput := bind_eq_of_rel hentry fun _ _ hm =>
    congrArg (Option.bind · Bson.toDouble?) hm.inputPrice
  have houtput := bind_eq_of_rel hentry fun _ _ hm =>
    congrArg (Option.bind · Bson.toDouble?) hm.outputPrice
  have hcapabilities := bind_eq_of_rel hentry fun _ _ hm => hm.capabilities
  simp only [merge, h.provider, h.modelName, hforms.text _ _ h.modelDisplayName,
    hforms.text _ _ h.apiKey, hforms.text _ _ h.apiBase, hforms.double _ _ h.temperature,
    hforms.integer _ _ h.maxTokens, hforms.integer _ _ h.timeout, h.suitableRoles, h.description,
    h.createdAt, hname, hkey, hbase, hdisplay, hcurrency, hinput, houtput, hcapabilities]

end Results

/-! ## Lookups -/

/-- Of lists that are related member by member, the last members are related. -/
theorem rel_getLast? {α : Type} {R : α → α → Prop} {records others : List α}
    (h : List.Forall₂ R records others) : Option.Rel R records.getLast? others.getLast? := by
  induction h with
  | nil => exact .none
  | @cons a b rest last hab _ ih =>
      rw [List.getLast?_cons, List.getLast?_cons]
      generalize rest.getLast? = x at ih ⊢
      generalize last.getLast? = y at ih ⊢
      cases ih with
      | some hxy => exact .some hxy
      | none => exact .some hab

theorem rel_getLast?_filter {α : Type} {R : α → α → Prop} {name : α → String}
    (hname : ∀ a b, R a b → name a = name b) {records others : List α}
    (h : List.Forall₂ R records others) (key : String) :
    Option.Rel R (records.filter (name · == key)).getLast?
      (others.filter (name · == key)).getLast? := by
  refine rel_getLast? (List.rel_filter (fun a b hab => ?_) h)
  show (name a == key) = true ↔ (name b == key) = true
  rw [hname a b hab]

theorem LegacyLookup.restated_ofRecords {providers providers' : List ProviderRecord}
    (hproviders : List.Forall₂ (ProviderRecord.Restated T N) providers providers')
    {catalogs catalogs' : List ModelCatalog}
    (hcatalogs : List.Forall₂ (ModelCatalog.Restated T) catalogs catalogs') :
    (ofRecords providers catalogs).Restated T N (ofRecords providers' catalogs') where
  provider name := by
    rw [provider?_ofRecords, provider?_ofRecords]
    exact rel_getLast?_filter (fun _ _ h => h.name) hproviders name
  entry provider model := by
    have hrelated := rel_getLast?_filter (fun _ _ h => h.provider) hcatalogs provider
    rw [catalogEntry?_ofRecords, catalogEntry?_ofRecords]
    generalize (catalogs.filter (·.provider == provider)).getLast? = last at hrelated ⊢
    generalize (catalogs'.filter (·.provider == provider)).getLast? = last' at hrelated ⊢
    cases hrelated with
    | none => exact .none
    | some hcatalog => exact rel_getLast?_filter (fun _ _ h => h.name) hcatalog.models model

/-! ## Documents -/

section Documents

open RecordFormat Decode

variable {U : String → Bson → Bson → Prop}

/-- The same value under every key, or under one of the given keys a value changed by `V`. -/
def Bson.ChangedAt (keys : List String) (V : Bson → Bson → Prop) (key : String) (v w : Bson) :
    Prop :=
  v = w ∨ key ∈ keys ∧ V v w

theorem Bson.ChangedAt.eq {keys : List String} {V : Bson → Bson → Prop} {key : String} {v w : Bson}
    (h : ChangedAt keys V key v w) (hkey : key ∉ keys) : v = w :=
  h.resolve_right fun ⟨hmem, _⟩ => hkey hmem

/-- A change that a reader carries over is carried over where it is made, and elsewhere nothing
changes. -/
theorem Bson.ChangedAt.matching {β : Type} {read : Bson → Decoded β} {S : β → β → Prop}
    (hrefl : ∀ b, S b b) {keys : List String} {V : Bson → Bson → Prop} {key : String} {v w : Bson}
    (h : ChangedAt keys V key v w) (hV : V v w → Matching Eq S (read v) (read w)) :
    Matching Eq S (read v) (read w) := by
  rcases h with rfl | ⟨-, hvw⟩
  · exact .refl (fun _ => rfl) hrefl _
  · exact hV hvw

/-- What a relation of values under keys comes to when they are read: texts in related forms under
some keys, numbers in related forms under others, and the same value under the rest. -/
structure Readings (U : String → Bson → Bson → Prop) (T : Option String → Option String → Prop)
    (N : Option Bson → Option Bson → Prop) (texts numbers plain : List String) : Prop where
  text : ∀ key ∈ texts, ∀ v w, U key v w → Matching Eq T (optional text v) (optional text w)
  number : ∀ key ∈ numbers, ∀ v w, U key v w →
    Matching Eq N (optional anything v) (optional anything w)
  plain : ∀ key ∈ plain, ∀ v w, U key v w → v = w

theorem Readings.imp {U' : String → Bson → Bson → Prop} {texts numbers plain : List String}
    (h : Readings U' T N texts numbers plain)
    (hU : ∀ key, key ∈ texts ∨ key ∈ numbers ∨ key ∈ plain → ∀ v w, U key v w → U' key v w) :
    Readings U T N texts numbers plain where
  text key hkey v w hvw := h.text key hkey v w (hU key (.inl hkey) v w hvw)
  number key hkey v w hvw := h.number key hkey v w (hU key (.inr (.inl hkey)) v w hvw)
  plain key hkey v w hvw := h.plain key hkey v w (hU key (.inr (.inr hkey)) v w hvw)

/-- The keys under which records store numbers and flags. -/
def numberKeys : List String := ["temperature", "max_tokens", "timeout", "enabled", "is_active"]

/-- The keys of provider records under which texts are stored that may be absent. -/
def ProviderRecord.textKeys : List String :=
  ["display_name", "model", "api_key", "base_url", "default_base_url"]

/-- Their keys of other values. -/
def ProviderRecord.plainKeys : List String := ["_id", "name", "created_at", "updated_at"]

theorem ProviderRecord.matching_restated (h : Readings U T N textKeys numberKeys plainKeys)
    (hextra : ∀ v w, U "extra_config" v w →
      Matching Eq (Option.Rel fun e e' => T e.defaultModel e'.defaultModel)
        (optional ExtraConfig.format.read v) (optional ExtraConfig.format.read w))
    (htext : T none none) (hnumber : N none none) {d d' : Document}
    (hd : Fields.Related U d.fields d'.fields) :
    Matching Eq (Restated T N) (decode d) (decode d') := by
  have hsame : ∀ e : DecodeError, e = e := fun _ => rfl
  have hblank : format.blank.Restated T N format.blank :=
    ⟨rfl, rfl, htext, htext, .none, htext, htext, htext, hnumber, hnumber, hnumber, hnumber,
      hnumber, rfl, rfl⟩
  refine matching_ofFields hsame ?_ hblank hd
  simp only [format, List.forall_mem_cons]
  exact ⟨
    carries_same hsame (h.plain _ (by decide)) fun _ _ _ hr => { hr with id := rfl },
    carries_same hsame (h.plain _ (by decide)) fun _ _ _ hr => { hr with name := rfl },
    carries_field (h.text _ (by decide)) fun _ _ _ _ hv hr => { hr with displayName := hv },
    carries_field (h.text _ (by decide)) fun _ _ _ _ hv hr => { hr with model := hv },
    carries_field hextra fun _ _ _ _ hv hr => { hr with extraConfig := hv },
    carries_field (h.text _ (by decide)) fun _ _ _ _ hv hr => { hr with apiKey := hv },
    carries_field (h.text _ (by decide)) fun _ _ _ _ hv hr => { hr with baseUrl := hv },
    carries_field (h.text _ (by decide)) fun _ _ _ _ hv hr => { hr with defaultBaseUrl := hv },
    carries_field (h.number _ (by decide)) fun _ _ _ _ hv hr => { hr with temperature := hv },
    carries_field (h.number _ (by decide)) fun _ _ _ _ hv hr => { hr with maxTokens := hv },
    carries_field (h.number _ (by decide)) fun _ _ _ _ hv hr => { hr with timeout := hv },
    carries_field (h.number _ (by decide)) fun _ _ _ _ hv hr => { hr with enabled := hv },
    carries_field (h.number _ (by decide)) fun _ _ _ _ hv hr => { hr with isActive := hv },
    carries_same hsame (h.plain _ (by decide)) fun _ _ _ hr => { hr with createdAt := rfl },
    carries_same hsame (h.plain _ (by decide)) fun _ _ _ hr => { hr with updatedAt := rfl },
    fun _ hentry => absurd hentry List.not_mem_nil⟩

/-- The keys of entries under which texts are stored. -/
def ConfigEntry.textKeys : List String :=
  ["provider", "name", "model", "model_name", "api_key", "base_url", "api_base", "default_base_url"]

theorem ConfigEntry.matching_restated (h : Readings U T N textKeys numberKeys [])
    (htext : T none none) (hnumber : N none none) {d d' : Document}
    (hd : Fields.Related U d.fields d'.fields) :
    Matching Eq (Restated T N) (decode d) (decode d') := by
  have hblank : format.blank.Restated T N format.blank :=
    ⟨htext, htext, htext, htext, htext, htext, htext, htext, hnumber, hnumber, hnumber, hnumber,
      hnumber⟩
  refine matching_ofFields (fun _ => rfl) ?_ hblank hd
  simp only [format, List.forall_mem_cons]
  exact ⟨
    carries_field (h.text _ (by decide)) fun _ _ _ _ hv he => { he with provider := hv },
    carries_field (h.text _ (by decide)) fun _ _ _ _ hv he => { he with name := hv },
    carries_field (h.text _ (by decide)) fun _ _ _ _ hv he => { he with model := hv },
    carries_field (h.text _ (by decide)) fun _ _ _ _ hv he => { he with modelName := hv },
    carries_field (h.text _ (by decide)) fun _ _ _ _ hv he => { he with apiKey := hv },
    carries_field (h.text _ (by decide)) fun _ _ _ _ hv he => { he with baseUrl := hv },
    carries_field (h.text _ (by decide)) fun _ _ _ _ hv he => { he with apiBase := hv },
    carries_field (h.text _ (by decide)) fun _ _ _ _ hv he => { he with defaultBaseUrl := hv },
    carries_field (h.number _ (by decide)) fun _ _ _ _ hv he => { he with temperature := hv },
    carries_field (h.number _ (by decide)) fun _ _ _ _ hv he => { he with maxTokens := hv },
    carries_field (h.number _ (by decide)) fun _ _ _ _ hv he => { he with timeout := hv },
    carries_field (h.number _ (by decide)) fun _ _ _ _ hv he => { he with enabled := hv },
    carries_field (h.number _ (by decide)) fun _ _ _ _ hv he => { he with isActive := hv },
    fun _ hentry => absurd hentry List.not_mem_nil⟩

/-- The keys of configs of single models under which texts are stored that may be absent. -/
def LegacyConfig.textKeys : List String := ["model_display_name", "api_key", "api_base"]

/-- Their keys of other values. -/
def LegacyConfig.plainKeys : List String :=
  ["provider", "model_name", "suitable_roles", "description", "created_at"]

theorem LegacyConfig.matching_restated (h : Readings U T N textKeys numberKeys plainKeys)
    (htext : T none none) (hnumber : N none none) {d d' : Document}
    (hd : Fields.Related U d.fields d'.fields) :
    Matching Eq (Restated T N) (decode d) (decode d') := by
  have hsame : ∀ e : DecodeError, e = e := fun _ => rfl
  have hblank : format.blank.Restated T N format.blank :=
    ⟨rfl, rfl, htext, htext, htext, hnumber, hnumber, hnumber, hnumber, rfl, rfl, rfl⟩
  refine matching_ofFields hsame ?_ hblank hd
  simp only [format, List.forall_mem_cons]
  exact ⟨
    carries_same hsame (h.plain _ (by decide)) fun _ _ _ hc => { hc with provider := rfl },
    carries_same hsame (h.plain _ (by decide)) fun _ _ _ hc => { hc with modelName := rfl },
    carries_field (h.text _ (by decide)) fun _ _ _ _ hv hc => { hc with modelDisplayName := hv },
    carries_field (h.text _ (by decide)) fun _ _ _ _ hv hc => { hc with apiKey := hv },
    carries_field (h.text _ (by decide)) fun _ _ _ _ hv hc => { hc with apiBase := hv },
    carries_field (h.number _ (by decide)) fun _ _ _ _ hv hc => { hc with maxTokens := hv },
    carries_field (h.number _ (by decide)) fun _ _ _ _ hv hc => { hc with temperature := hv },
    carries_field (h.number _ (by decide)) fun _ _ _ _ hv hc => { hc with timeout := hv },
    carries_field (h.number _ (by decide)) fun _ _ _ _ hv hc => { hc with enabled := hv },
    carries_same hsame (h.plain _ (by decide)) fun _ _ _ hc => { hc with suitableRoles := rfl },
    carries_same hsame (h.plain _ (by decide)) fun _ _ _ hc => { hc with description := rfl },
    carries_same hsame (h.plain _ (by decide)) fun _ _ _ hc => { hc with createdAt := rfl },
    fun _ hentry => absurd hentry List.not_mem_nil⟩

/-! ### Records inside documents -/

theorem ExtraConfig.matching_restated
    (htext : ∀ v w, U "default_model" v w → Matching Eq T (optional text v) (optional text w))
    (hnone : T none none) {v w : Bson} (hvw : Within U format.names v w) :
    Matching Eq (fun e e' => T e.defaultModel e'.defaultModel) (format.read v) (format.read w) := by
  refine matching_read (fun _ => rfl) ?_ hnone hvw
  simp only [format, List.forall_mem_cons]
  exact ⟨carries_field htext fun _ _ _ _ hv _ => hv, fun _ hentry => absurd hentry List.not_mem_nil⟩

/-- The keys of catalog entries under which texts are stored that may be absent. -/
def CatalogModel.textKeys : List String := ["display_name", "currency"]

/-- Their keys of other values. -/
def CatalogModel.plainKeys : List String :=
  ["name", "input_price_per_1k", "output_price_per_1k", "capabilities"]

theorem CatalogModel.matching_restated (h : Readings U T N textKeys [] plainKeys)
    (htext : T none none) {v w : Bson} (hvw : Within U format.names v w) :
    Matching Eq (Restated T) (format.read v) (format.read w) := by
  have hsame : ∀ e : DecodeError, e = e := fun _ => rfl
  have hblank : CatalogModel.Restated T format.blank format.blank :=
    ⟨rfl, htext, rfl, rfl, htext, rfl⟩
  refine matching_read hsame ?_ hblank hvw
  simp only [format, List.forall_mem_cons]
  exact ⟨
    carries_same hsame (h.plain _ (by decide)) fun _ _ _ hm => { hm with name := rfl },
    carries_field (h.text _ (by decide)) fun _ _ _ _ hv hm => { hm with displayName := hv },
    carries_same hsame (h.plain _ (by decide)) fun _ _ _ hm => { hm with inputPrice := rfl },
    carries_same hsame (h.plain _ (by decide)) fun _ _ _ hm => { hm with outputPrice := rfl },
    carries_field (h.text _ (by decide)) fun _ _ _ _ hv hm => { hm with currency := hv },
    carries_same hsame (h.plain _ (by decide)) fun _ _ _ hm => { hm with capabilities := rfl },
    fun _ hentry => absurd hentry List.not_mem_nil⟩

theorem ModelCatalog.matching_restated (hprovider : ∀ v w, U "provider" v w → v = w)
    (hmodels : ∀ v w, U "models" v w → Matching Eq (List.Forall₂ (CatalogModel.Restated T))
      (list CatalogModel.format.read v) (list CatalogModel.format.read w))
    {d d' : Document} (hd : Fields.Related U d.fields d'.fields) :
    Matching Eq (Restated T) (decode d) (decode d') := by
  refine matching_ofFields (fun _ => rfl) ?_ ⟨rfl, .nil⟩ hd
  simp only [format, List.forall_mem_cons]
  exact ⟨
    carries_same (fun _ => rfl) hprovider fun _ _ _ hk => { hk with provider := rfl },
    carries_field hmodels fun _ _ _ _ hv hk => { hk with models := hv },
    fun _ hentry => absurd hentry List.not_mem_nil⟩

end Documents

end ProviderRegistry
