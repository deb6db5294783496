/-
# `Proofs.Resolution.Limits` — what holds of every config that is handed out

A config comes from a provider record, from an entry of a system document, or
from the environment, and the fields it is made of may hold anything: texts
for numbers, numbers that are none, blanks.  Whatever they hold, the config is
`Sound`: in use, its provider trimmed, its tuning within its limits.  A config
from the store is `Stored` besides (its model is not blank, and its key and its
address are not blank where it has them), and one from the environment is
`Configured` (it has a model, an address, and a key that somebody has filled
in).

The limits are those of `LlmConfig.tuned` and of the readers of blank texts,
proved once for each.  That a config is in use is asked of the filter in two of
the sources, and of the entry itself in the third; a provider record is read
leniently, so the filter's verdict has to be carried through its decoding
(`active_of_decode`).  There the keys of its document must be distinct, as those
of every document are that `Document.ofList`, `insert` and `merge` make.

## What is proved

All of it for every config of a fresh load, and that the active config is then
the first one, if there is any (`resolved_within_limits`).
-/
import ProviderRegistry.Proofs.Bson.RecordFormat
import ProviderRegistry.Proofs.Resolution.Tiers
import ProviderRegistry.Proofs.Text

namespace ProviderRegistry

open Collections

/-! ## Numbers -/

namespace Double

/-- A number that lies between two others, which are numbers as well. -/
def Between (low high x : Double) : Prop :=
  x.isNaN = false ∧ low.le x = true ∧ x.le high = true

theorem le_iff (x y : Double) :
    x.le y = true ↔ x.isNaN = false ∧ y.isNaN = false ∧ x.rank ≤ y.rank := by
  simp [le, and_assoc]

theorem lt_iff (x y : Double) :
    x.lt y = true ↔ x.isNaN = false ∧ y.isNaN = false ∧ x.rank < y.rank := by
  simp [lt, and_assoc]

/-- Holding a number between two limits leaves it between them. -/
theorem between_clamp {x low high : Double} (hx : x.isNaN = false) (h : low.le high = true) :
    Between low high (x.clamp low high) := by
  obtain ⟨hlow, hhigh, hle⟩ := (le_iff low high).mp h
  unfold clamp Between
  simp only [le_iff]
  by_cases hbelow : x.lt low = true
  · have habove : ¬ high.lt low = true := fun hlt => by
      have := ((lt_iff high low).mp hlt).2.2
      omega
    simp [hbelow, habove, hlow, hhigh, hle]
  · have hrank : low.rank ≤ x.rank := by
      simpa [lt_iff, hx, hlow] using hbelow
    by_cases habove : high.lt x = true
    · simp [hbelow, habove, hlow, hhigh, hle]
    · have hrank' : x.rank ≤ high.rank := by
        simpa [lt_iff, hx, hhigh] using habove
      simp [hbelow, habove, hlow, hhigh, hx, hrank, hrank']

theorem not_isNaN_of_isFinite {x : Double} (h : x.isFinite = true) : x.isNaN = false := by
  have hlt : x.magnitude.val < infinityMagnitude := by simpa [isFinite] using h
  simp only [isNaN, decide_eq_false_iff_not]
  omega

end Double

namespace LlmConfig

/-! ## What holds of a config -/

/-- What holds of every config that is handed out. -/
structure Sound (c : LlmConfig) : Prop where
  enabled : c.enabled = true
  provider : Text.Trimmed c.provider
  temperature : Double.Between (Double.zero false) Double.two c.temperature
  maxTokens : 1 ≤ c.maxTokens.toNat ∧ c.maxTokens.toNat ≤ 4294967295
  timeout : 1 ≤ c.timeout.toNat ∧ c.timeout.toNat ≤ 4294967295

/-- What holds besides of a config from the store. -/
structure Stored (c : LlmConfig) : Prop where
  model : Text.isBlank c.model = false
  apiKey : ∀ key, c.apiKey = some key → Text.isBlank key = false
  baseUrl : ∀ url, c.baseUrl = some url → Text.isBlank url = false

/-- What holds besides of a config from the environment. -/
structure Configured (c : LlmConfig) : Prop where
  model : c.model ≠ ""
  apiKey : ∃ key, c.apiKey = some key ∧ Resolution.FilledIn key
  baseUrl : ∃ url, c.baseUrl = some url ∧ url ≠ ""

theorem between_clampTemperature (t : Option Double) :
    Double.Between (Double.zero false) Double.two (clampTemperature t) := by
  refine Double.between_clamp ?_ (by decide)
  cases hfinite : t.filter Double.isFinite with
  | none => decide
  | some x => exact Double.not_isNaN_of_isFinite (Option.filter_eq_some_iff.mp hfinite).2

theorem clampPositive_within (n : Int64) :
    1 ≤ (clampPositive n).toNat ∧ (clampPositive n).toNat ≤ 4294967295 := by
  have hlow : 1 ≤ (max 1 (min n.toInt 4294967295)).toNat := by omega
  have hhigh : (max 1 (min n.toInt 4294967295)).toNat < 4294967296 := by omega
  have hnat : (clampPositive n).toNat = (max 1 (min n.toInt 4294967295)).toNat :=
    UInt32.toNat_ofNat_of_lt hhigh
  omega

/-- Whatever tuning it is given, a config is sound once it is in use. -/
theorem sound_tuned {c : LlmConfig} (hprovider : Text.Trimmed c.provider)
    (temperature : Option Double) (maxTokens timeout : Option Int64) (apiKey baseUrl : Option String) :
    Sound { c.tuned temperature maxTokens timeout with enabled := true, apiKey, baseUrl } where
  enabled := rfl
  provider := hprovider
  temperature := between_clampTemperature temperature
  maxTokens := clampPositive_within _
  timeout := clampPositive_within _

/-- The tuning of a config that gives none is within the limits. -/
theorem sound_default {provider : String} (h : Text.Trimmed provider) (model : String)
    (apiKey baseUrl : Option String) :
    Sound ⟨provider, model, apiKey, baseUrl, Defaults.temperature, 4000, 180, true⟩ where
  enabled := rfl
  provider := h
  temperature := by
    show Double.Between (Double.zero false) Double.two Defaults.temperature
    exact ⟨by decide, by decide, by decide⟩
  maxTokens := by
    show 1 ≤ (4000 : UInt32).toNat ∧ (4000 : UInt32).toNat ≤ 4294967295
    decide
  timeout := by
    show 1 ≤ (180 : UInt32).toNat ∧ (180 : UInt32).toNat ≤ 4294967295
    decide

end LlmConfig

/-! ## Configs from the store -/

/-- No model of the table is blank. -/
theorem Defaults.not_isBlank_modelFor (provider : String) :
    Text.isBlank (modelFor provider) = false := by
  have htable : ∀ entry ∈ providerModels, Text.isBlank entry.2 = false := by decide
  refine Text.not_isBlank_getD (fun m hm => ?_) (by decide)
  exact htable _ (Fields.mem_of_lookup hm)

namespace ProviderRecord

theorem model_toConfig (r : ProviderRecord) (preferred : Option String) :
    (r.toConfig preferred).model
      = (r.explicitModel <|> Text.nonBlank preferred).getD (Defaults.modelFor r.name) := rfl

theorem baseUrl_toConfig (r : ProviderRecord) (preferred : Option String) :
    (r.toConfig preferred).baseUrl
      = (Text.nonBlank r.baseUrl <|> Text.nonBlank r.defaultBaseUrl) := rfl

theorem sound_toConfig {r : ProviderRecord} (h : r.active = true) (preferred : Option String) :
    (r.toConfig preferred).Sound := by
  unfold toConfig
  rw [h]
  exact LlmConfig.sound_tuned (Text.trimmed_trim _) _ _ _ _ _

theorem stored_toConfig (r : ProviderRecord) (preferred : Option String) :
    (r.toConfig preferred).Stored where
  model := by
    rw [model_toConfig]
    refine Text.not_isBlank_getD ?_ (Defaults.not_isBlank_modelFor r.name)
    have hexplicit := Text.not_isBlank_orElse (Text.nonBlank_not_isBlank r.model)
      (Text.nonBlank_not_isBlank (r.extraConfig.bind (·.defaultModel)))
    exact Text.not_isBlank_orElse hexplicit (Text.nonBlank_not_isBlank preferred)
  apiKey := Text.nonBlank_not_isBlank r.apiKey
  baseUrl := by
    rw [baseUrl_toConfig]
    exact Text.not_isBlank_orElse (Text.nonBlank_not_isBlank r.baseUrl)
      (Text.nonBlank_not_isBlank r.defaultBaseUrl)

/-- The readers of all other fields leave the flag alone. -/
theorem isActive_writtenBy : format.WrittenBy "is_active" ProviderRecord.isActive := by
  intro entry hentry hne v a b h
  have hother : entry ∈ format.fields.filter (·.1 != "is_active") :=
    List.mem_filter.mpr ⟨hentry, bne_iff_ne.mpr hne⟩
  simp only [format, RecordFormat.field_fst, List.filter_cons, List.filter_nil, String.reduceBNe,
    if_true, Bool.false_eq_true, if_false, List.mem_cons, List.not_mem_nil, or_false] at hother
  rcases hother with rfl | rfl | rfl | rfl | rfl | rfl | rfl | rfl | rfl | rfl | rfl | rfl | rfl
    | rfl
  all_goals
    refine RecordFormat.component_field ?_ h
    exact fun _ _ => rfl

/-- A record of a document that is marked active is in use: its flag is read as it stands. -/
theorem active_of_decode {d : Document} (hkeyed : d.Keyed) (hactive : d.isActive = true)
    {r : ProviderRecord} (h : decode d = .ok r) : r.active = true := by
  have hv := (Document.isActive_iff d).mp hactive
  obtain ⟨a, b, hread, hcomponent⟩ :=
    RecordFormat.component_of_decode isActive_writtenBy rfl hkeyed hv h
  obtain rfl : { a with isActive := some (.boolean true) } = b := Except.ok.inj hread
  simp [active, hcomponent, Bson.toBool?]

end ProviderRecord

namespace ConfigEntry

theorem model_toConfig (e : ConfigEntry) :
    e.toConfig.model
      = (Text.nonBlank e.model <|> Text.nonBlank e.modelName).getD Defaults.model := rfl

theorem baseUrl_toConfig (e : ConfigEntry) :
    e.toConfig.baseUrl = (Text.nonBlank e.baseUrl <|> Text.nonBlank e.apiBase
      <|> Text.nonBlank e.defaultBaseUrl) := rfl

theorem sound_toConfig {e : ConfigEntry} (h : e.inUse = true) : e.toConfig.Sound := by
  unfold toConfig
  rw [h]
  exact LlmConfig.sound_tuned (Text.trimmed_trim _) _ _ _ _ _

theorem stored_toConfig (e : ConfigEntry) : e.toConfig.Stored where
  model := by
    rw [model_toConfig]
    refine Text.not_isBlank_getD ?_ (by decide)
    exact Text.not_isBlank_orElse (Text.nonBlank_not_isBlank e.model)
      (Text.nonBlank_not_isBlank e.modelName)
  apiKey := Text.nonBlank_not_isBlank e.apiKey
  baseUrl := by
    rw [baseUrl_toConfig]
    exact Text.not_isBlank_orElse (Text.nonBlank_not_isBlank e.baseUrl)
      (Text.not_isBlank_orElse (Text.nonBlank_not_isBlank e.apiBase)
        (Text.nonBlank_not_isBlank e.defaultBaseUrl))

end ConfigEntry

namespace Resolution

/-! ## The three sources -/

theorem mem_decodable {α : Type} {decode : Document → Decoded α} {documents : List Document}
    {a : α} (h : a ∈ decodable decode documents) : ∃ d ∈ documents, decode d = .ok a := by
  obtain ⟨d, hd, hdecode⟩ := List.mem_filterMap.mp h
  refine ⟨d, hd, ?_⟩
  cases hd' : decode d with
  | error e => simp [hd', Except.toOption] at hdecode
  | ok b => simpa [hd', Except.toOption] using hdecode

theorem mem_activeDocuments {db : Database} {c : String} {d : Document}
    (h : d ∈ activeDocuments db c) : d ∈ db.documents c ∧ d.isActive = true := by
  unfold activeDocuments at h
  cases hfault : db.fault? c with
  | some fault => simp [hfault] at h
  | none => simpa [hfault] using h

variable {db : Database} {c : LlmConfig}

theorem sound_of_providerTier (hkeyed : ∀ d ∈ db.documents providers, d.Keyed)
    (h : c ∈ providerTier db) : c.Sound ∧ c.Stored := by
  obtain ⟨r, hr, rfl⟩ := List.mem_map.mp h
  obtain ⟨d, hd, hdecode⟩ := mem_decodable hr
  obtain ⟨hmem, hactive⟩ := mem_activeDocuments hd
  have hr' := ProviderRecord.active_of_decode (hkeyed d hmem) hactive hdecode
  exact ⟨ProviderRecord.sound_toConfig hr' _, r.stored_toConfig _⟩

theorem sound_of_systemTier (h : c ∈ systemTier db) : c.Sound ∧ c.Stored := by
  unfold systemTier at h
  split at h
  · obtain ⟨e, he, rfl⟩ := List.mem_map.mp h
    exact ⟨ConfigEntry.sound_toConfig (List.mem_filter.mp he).2, e.stored_toConfig⟩
  · exact absurd h List.not_mem_nil

/-- No model and no address of the table is empty. -/
theorem table_filled : ∀ p ∈ EnvProvider.all, p.model ≠ "" ∧ p.baseUrl ≠ "" := by
  decide

theorem overriding_ne_empty (env : Environment) (name : String) {builtIn : String}
    (h : builtIn ≠ "") : overriding env name builtIn ≠ "" := by
  unfold overriding
  split
  · split
    · exact h
    · assumption
  · exact h

theorem sound_of_environmentTier {env : Environment} (h : c ∈ environmentTier env) :
    c.Sound ∧ c.Configured := by
  obtain ⟨p, hp, hconfig⟩ := List.mem_filterMap.mp h
  obtain ⟨hmodel, hurl⟩ := table_filled p hp
  split at hconfig
  · rename_i key hheld
    split at hconfig
    · rename_i hkey
      obtain rfl := Option.some.inj hconfig
      refine ⟨LlmConfig.sound_default ?_ _ _ _, ⟨overriding_ne_empty env _ hmodel,
        ⟨key, rfl, hkey⟩, ⟨_, rfl, overriding_ne_empty env _ hurl⟩⟩⟩
      exact trim_provider p hp ▸ Text.trimmed_trim p.provider
    · exact nomatch hconfig
  · exact nomatch hconfig

end Resolution

namespace LlmConfig

/-- The first config of a list is active where all are in use. -/
theorem firstEnabled_of_enabled {configs : List LlmConfig} (h : ∀ c ∈ configs, c.enabled = true) :
    firstEnabled configs = configs.head? := by
  cases configs with
  | nil => rfl
  | cons c rest => simp [firstEnabled, h c List.mem_cons_self]

end LlmConfig

namespace Session

open Resolution

/-- With nothing cached, the active config is chosen from a fresh load. -/
theorem active_invalidate (s : Session) :
    s.invalidate.active.1 = LlmConfig.firstEnabled s.load.1 := rfl

/-- A fresh load hands out sound configs only: those of the store with what it has, those of the
environment filled in.  The active config is the first of them. -/
theorem resolved_within_limits (s : Session)
    (hkeyed : ∀ d ∈ s.database.documents providers, d.Keyed) :
    (∀ c ∈ s.load.1, c.Sound) ∧
    (providerTier s.database ≠ [] ∨ systemTier s.database ≠ [] → ∀ c ∈ s.load.1, c.Stored) ∧
    (providerTier s.database = [] ∧ systemTier s.database = [] →
      ∀ c ∈ s.load.1, c.Configured) ∧
    s.invalidate.active.1 = s.load.1.head? ∧
    (s.invalidate.active.1 = none ↔ s.load.1 = []) := by
  have hproviders : ∀ c ∈ providerTier s.database, c.Sound ∧ c.Stored :=
    fun c hc => sound_of_providerTier hkeyed hc
  have hsystem : ∀ c ∈ systemTier s.database, c.Sound ∧ c.Stored :=
    fun c hc => sound_of_systemTier hc
  have henv : ∀ c ∈ environmentTier s.environment, c.Sound ∧ c.Configured :=
    fun c hc => sound_of_environmentTier hc
  have hsound : ∀ c ∈ s.load.1, c.Sound := by
    intro c hc
    rw [load_eq] at hc
    obtain ⟨list, hlist, hmem⟩ := mem_firstNonempty hc
    simp only [List.mem_cons, List.not_mem_nil, or_false] at hlist
    rcases hlist with rfl | rfl | rfl
    · exact (hproviders c hmem).1
    · exact (hsystem c hmem).1
    · exact (henv c hmem).1
  have hactive : s.invalidate.active.1 = s.load.1.head? := by
    rw [active_invalidate]
    exact LlmConfig.firstEnabled_of_enabled fun c hc => (hsound c hc).enabled
  refine ⟨hsound, fun hstore c hc => ?_, fun ⟨hp, hs⟩ c hc => ?_, hactive, ?_⟩
  · rw [load_eq] at hc
    rcases mem_firstNonempty_of_ne_nil hstore hc with hmem | hmem
    · exact (hproviders c hmem).2
    · exact (hsystem c hmem).2
  · rw [load_eq, hp, hs] at hc
    obtain ⟨list, hlist, hmem⟩ := mem_firstNonempty hc
    simp only [List.mem_cons, List.not_mem_nil, or_false] at hlist
    rcases hlist with rfl | rfl | rfl
    · exact nomatch hmem
    · exact nomatch hmem
    · exact (henv c hmem).2
  · rw [hactive, List.head?_eq_none_iff]

/-- One active record with white space around its name, a blank model, and a tuning that holds a
text for no number, a negative number and an infinity. -/
def oddlyTuned : Database :=
  (Database.empty ObjectId.ofNat).put providers [
    Document.ofList [("_id", .objectId (ObjectId.ofNat 1)), ("name", .string " zhipu "),
      ("model", .string " "), ("api_key", .string ""), ("temperature", .string "NaN"),
      ("max_tokens", .int64 (-5)), ("timeout", .double (Double.infinity true)),
      ("is_active", .boolean true)]]

theorem resolved_oddlyTuned :
    (start oddlyTuned Environment.empty none).load.1.length = 1 ∧
      ∀ c ∈ (start oddlyTuned Environment.empty none).load.1, c.Sound ∧ c.Stored := by
  have hkeyed : ∀ d ∈ oddlyTuned.documents providers, d.Keyed := by
    intro d hd
    obtain rfl := List.mem_singleton.mp hd
    exact Document.keyed_ofList _
  have hstored : (providerTier oddlyTuned).length ≠ 0 := by decide +kernel
  obtain ⟨hsound, hstores, -⟩ :=
    resolved_within_limits (start oddlyTuned Environment.empty none) hkeyed
  refine ⟨by decide +kernel, fun c hc => ⟨hsound c hc, hstores (.inl fun hnil => ?_) c hc⟩⟩
  exact hstored (congrArg List.length hnil)

end Session

end ProviderRegistry
