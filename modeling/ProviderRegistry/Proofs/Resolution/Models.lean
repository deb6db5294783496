/-
# `Proofs.Resolution.Models` — which model a config has, and where it was named

A config comes from a provider record, from an entry of the system document, or
from the variables of a built-in provider (`Origin`), and each of the three has a
rule of its own for its model:

    record     the record's model, its default model, the preference for deep
               analysis, that for quick analysis, the model of its provider
    entry      the entry's model, under either of its names, `Defaults.model`
    built-in   the variable for the model, the model in the table

The rules are held here against two that would be simpler.  By the first, a record
has the first model of its row that is not blank (`chosenModel`).  That fails in one
case: a preference for deep analysis that is stored and blank is taken before it is
asked whether it is blank, and hides the one for quick analysis (`Eclipsed`).

By the second, where no model is named, every config has the model of its provider.
That holds of all records.  An entry has `Defaults.model` under any provider, so it
holds of those for which the table has no other; and of a built-in provider it holds
where its variable for the model is not there or empty, but not where that holds white
space alone (`Fits`).

## What is proved

    the configs of a load, by their origins               (`Session.load_origins`)
    a record has the first model that is not blank
      exactly where it is not eclipsed                    (`Session.model_of_record`)
    an unnamed model is that of the provider exactly
      where the origin fits                               (`Session.model_of_unnamed`)
-/
import ProviderRegistry.Proofs.Resolution.Limits
import ProviderRegistry.Proofs.Resolution.Malformed

namespace ProviderRegistry

open Collections

namespace Resolution

/-! ## Where a config comes from -/

/-- What a config is made of. -/
inductive Origin where
  /-- An active provider record. -/
  | record (r : ProviderRecord)
  /-- An enabled entry of the active system document. -/
  | entry (e : ConfigEntry)
  /-- A built-in provider whose key is in the environment. -/
  | builtIn (p : EnvProvider) (key : String)

/-- The config that is made of it. -/
def Origin.config (db : Database) (env : Environment) : Origin → LlmConfig
  | .record r => r.toConfig (preference db)
  | .entry e => e.toConfig
  | .builtIn p key =>
    { LlmConfig.new p.provider (env.getOr p.modelVar p.model) with
      apiKey := some key
      baseUrl := some (env.getOr p.baseUrlVar p.baseUrl) }

/-- The active provider records that decode. -/
def recordOrigins (db : Database) : List Origin :=
  (decodable ProviderRecord.decode (activeDocuments db providers)).map .record

/-- The enabled entries that decode in the active system document. -/
def entryOrigins (db : Database) : List Origin :=
  match activeSystem db with
  | some system => ((decodable ConfigEntry.decode system.entries).filter (·.inUse)).map .entry
  | none => []

/-- The built-in providers whose key has been filled in. -/
def builtInOrigins (env : Environment) : List Origin :=
  EnvProvider.all.filterMap fun p => (env.configured p.apiKeyVar).map (.builtIn p)

/-- What the configs of a load come from. -/
def origins (db : Database) (env : Environment) : List Origin :=
  firstNonempty [recordOrigins db, entryOrigins db, builtInOrigins env]

theorem firstNonempty_map {α β : Type} (f : α → β) (lists : List (List α)) :
    firstNonempty (lists.map (List.map f)) = (firstNonempty lists).map f := by
  induction lists with
  | nil => rfl
  | cons list rest ih => cases list with
    | nil => exact ih
    | cons a tail => rfl

section Configs

variable (db : Database) (env : Environment)

theorem map_config_recordOrigins :
    (recordOrigins db).map (Origin.config db env) = providerTier db := by
  rw [recordOrigins, List.map_map]
  rfl

theorem map_config_entryOrigins :
    (entryOrigins db).map (Origin.config db env) = systemTier db := by
  unfold entryOrigins systemTier
  cases activeSystem db with
  | none => rfl
  | some system =>
      dsimp only
      rw [List.map_map]
      rfl

theorem map_config_builtInOrigins :
    (builtInOrigins env).map (Origin.config db env) = environmentTier env := by
  rw [← fromEnvironment_eq, builtInOrigins, List.map_filterMap]
  refine List.filterMap_congr fun p _ => ?_
  rw [Option.map_map]
  rfl

end Configs

theorem mem_all_of_builtIn {db : Database} {env : Environment} {p : EnvProvider} {key : String}
    (h : .builtIn p key ∈ origins db env) : p ∈ EnvProvider.all := by
  obtain ⟨list, hlist, hmem⟩ := mem_firstNonempty h
  simp only [List.mem_cons, List.not_mem_nil, or_false] at hlist
  rcases hlist with rfl | rfl | rfl
  · obtain ⟨r, -, hr⟩ := List.mem_map.mp hmem
    exact nomatch hr
  · unfold entryOrigins at hmem
    split at hmem
    · obtain ⟨e, -, he⟩ := List.mem_map.mp hmem
      exact nomatch he
    · exact nomatch hmem
  · obtain ⟨p', hp', hconfig⟩ := List.mem_filterMap.mp hmem
    obtain ⟨key', -, heq⟩ := Option.map_eq_some_iff.mp hconfig
    obtain ⟨rfl, -⟩ := Origin.builtIn.inj heq
    exact hp'

/-! ## The model of a record -/

/-- The settings of the active system document. -/
def settings (db : Database) : Option SystemSettings := (activeSystem db).bind (·.settings)

/-- The model that is stored as preferred for deep analysis. -/
def deepModel (db : Database) : Option String := (settings db).bind (·.deepModel)

/-- The model that is stored as preferred for quick analysis. -/
def quickModel (db : Database) : Option String := (settings db).bind (·.quickModel)

/-- The first model that is not blank, of those that are named for a record, or else that of its
provider. -/
def chosenModel (db : Database) (r : ProviderRecord) : String :=
  (Text.firstNonBlank [r.model, r.extraConfig.bind (·.defaultModel), deepModel db,
    quickModel db]).getD (Defaults.modelFor r.name)

/-- A record that names no model itself, while a blank preference for deep analysis stands before
one for quick analysis that is not the model it has without them. -/
structure Eclipsed (db : Database) (r : ProviderRecord) : Prop where
  unnamed : r.explicitModel = none
  blank : ∃ deep, deepModel db = some deep ∧ Text.isBlank deep = true
  usable : ∃ quick, Text.nonBlank (quickModel db) = some quick ∧ quick ≠ Defaults.modelFor r.name

section Record

variable {db : Database} {r : ProviderRecord}

/-- The preference is looked for among the two models, and then it is asked whether it is blank. -/
theorem preference_eq (db : Database) :
    preference db = Text.nonBlank (deepModel db <|> quickModel db) := by
  unfold preference deepModel quickModel settings
  cases activeSystem db with
  | none => rfl
  | some system =>
      show system.settings.bind SystemSettings.preferredModel = _
      cases h : system.settings with
      | none => simp only [Option.bind_some, h]; rfl
      | some s => simp only [Option.bind_some, h]; rfl

theorem chosenModel_eq (db : Database) (r : ProviderRecord) :
    chosenModel db r = ((r.explicitModel.or (Text.nonBlank (deepModel db))).or
      (Text.nonBlank (quickModel db))).getD (Defaults.modelFor r.name) := by
  unfold chosenModel ProviderRecord.explicitModel
  rw [Text.firstNonBlank_cons, Text.firstNonBlank_cons, Text.firstNonBlank_cons,
    Text.firstNonBlank_one, ← Option.or_assoc, ← Option.or_assoc]
  cases Text.nonBlank r.model <;> rfl

theorem model_config_record (env : Environment) :
    ((Origin.record r).config db env).model
      = (r.explicitModel.or (Text.nonBlank (deepModel db <|> quickModel db))).getD
          (Defaults.modelFor r.name) := by
  show (r.toConfig (preference db)).model = _
  rw [ProviderRecord.model_toConfig, preference_eq, Text.nonBlank_nonBlank]
  cases r.explicitModel <;> rfl

/-- An eclipsed record has the model of its provider. -/
theorem model_of_eclipsed (env : Environment) (h : Eclipsed db r) :
    ((Origin.record r).config db env).model = Defaults.modelFor r.name := by
  obtain ⟨deep, hdeep, hblank⟩ := h.blank
  rw [model_config_record, h.unnamed, hdeep, Text.nonBlank_orElse_of_isBlank hblank,
    Option.none_or, Option.getD_none]

theorem chosenModel_of_eclipsed (h : Eclipsed db r) :
    chosenModel db r ≠ Defaults.modelFor r.name := by
  obtain ⟨deep, hdeep, hblank⟩ := h.blank
  obtain ⟨quick, hquick, hne⟩ := h.usable
  rw [chosenModel_eq, h.unnamed, hdeep, Text.nonBlank_of_isBlank hblank, hquick]
  exact hne

/-- Any other record has the first model that is not blank. -/
theorem model_of_not_eclipsed (env : Environment) (h : ¬ Eclipsed db r) :
    ((Origin.record r).config db env).model = chosenModel db r := by
  rw [model_config_record, chosenModel_eq, Option.or_assoc]
  by_cases hblank : ∃ deep, deepModel db = some deep ∧ Text.isBlank deep = true
  · obtain ⟨deep, hdeep, hdeep'⟩ := hblank
    rw [hdeep, Text.nonBlank_orElse_of_isBlank hdeep', Text.nonBlank_of_isBlank hdeep',
      Option.or_none, Option.none_or]
    cases hexplicit : r.explicitModel with
    | some model => rw [Option.some_or]
    | none =>
        -- the other preference is hidden, so it must be none or make no difference
        cases hquick : Text.nonBlank (quickModel db) with
        | none => rw [Option.or_none]
        | some quick =>
            by_cases hsame : quick = Defaults.modelFor r.name
            · rw [Option.getD_none, Option.none_or, Option.getD_some, hsame]
            · exact absurd ⟨hexplicit, ⟨deep, hdeep, hdeep'⟩, quick, hquick, hsame⟩ h
  · rw [Text.nonBlank_orElse fun x hx =>
      Bool.eq_false_iff.mpr fun htrue => hblank ⟨x, hx, htrue⟩]

end Record

/-! ## Unnamed models -/

/-- No model is named at any place that is looked at: there is none, or a blank one. -/
inductive Unnamed (db : Database) (env : Environment) : Origin → Prop
  | record {r : ProviderRecord} : r.explicitModel = none → preference db = none →
      Unnamed db env (.record r)
  | entry {e : ConfigEntry} : Text.firstNonBlank [e.model, e.modelName] = none →
      Unnamed db env (.entry e)
  | builtIn {p : EnvProvider} {key : String} : Text.nonBlank (env.held p.modelVar) = none →
      Unnamed db env (.builtIn p key)

/-- The model that is taken where none is named goes with the provider. -/
inductive Fits (env : Environment) : Origin → Prop
  | record {r : ProviderRecord} : Fits env (.record r)
  | entry {e : ConfigEntry} :
      (∀ model, (Defaults.providerKey e.toConfig.provider, model) ∈ Defaults.providerModels →
        model = Defaults.model) →
      Fits env (.entry e)
  | builtIn {p : EnvProvider} {key : String} :
      (∀ value, env.held p.modelVar = some value → value = "") → Fits env (.builtIn p key)

end Resolution

namespace Defaults

theorem modelFor_trim (provider : String) : modelFor (Text.trim provider) = modelFor provider := by
  rw [modelFor, providerKey, Text.trim_of_trimmed (Text.trimmed_trim provider)]
  rfl

/-- A provider has the common model where the table has no other for it. -/
theorem modelFor_eq_model_iff (provider : String) :
    modelFor provider = model
      ↔ ∀ other, (providerKey provider, other) ∈ providerModels → other = model := by
  have hkeys : (Fields.keys providerModels).Nodup := by decide
  rw [modelFor]
  constructor
  · intro heq other hother
    rwa [Fields.lookup_of_mem hkeys hother] at heq
  · intro h
    cases hlookup : providerModels.lookup (providerKey provider) with
    | none => rfl
    | some other => exact h other (Fields.mem_of_lookup hlookup)

/-- The two tables agree on the built-in providers. -/
theorem modelFor_builtIn : ∀ p ∈ EnvProvider.all, modelFor p.provider = p.model := by decide

end Defaults

namespace Resolution

section Unnamed

variable {db : Database} {env : Environment}

theorem model_of_unnamed_record {r : ProviderRecord} (hunnamed : r.explicitModel = none)
    (hpreference : preference db = none) :
    ((Origin.record r).config db env).model
      = Defaults.modelFor ((Origin.record r).config db env).provider := by
  have hprovider : ((Origin.record r).config db env).provider = Text.trim r.name := rfl
  rw [model_config_record, ← preference_eq, hunnamed, hpreference, hprovider,
    Defaults.modelFor_trim, Option.none_or, Option.getD_none]

/-- The rule for entries knows one model for all providers. -/
theorem model_of_unnamed_entry {e : ConfigEntry}
    (hunnamed : Text.firstNonBlank [e.model, e.modelName] = none) :
    e.toConfig.model = Defaults.model := by
  rw [ConfigEntry.model_toConfig, ← Text.firstNonBlank_two, hunnamed, Option.getD_none]

/-- The variable counts unless it is empty, so a blank one is taken for a model. -/
theorem model_of_unnamed_builtIn_iff {p : EnvProvider} (hp : p ∈ EnvProvider.all)
    (hunnamed : Text.nonBlank (env.held p.modelVar) = none) :
    env.getOr p.modelVar p.model = p.model
      ↔ ∀ value, env.held p.modelVar = some value → value = "" := by
  rw [← overriding_eq, overriding]
  cases hheld : env.held p.modelVar with
  | none =>
      exact ⟨fun _ value hvalue => absurd hvalue.symm (Option.some_ne_none value), fun _ => rfl⟩
  | some value =>
      dsimp only
      have hblank : Text.isBlank value = true := by
        rw [hheld] at hunnamed
        simpa [Text.nonBlank, Option.filter] using hunnamed
      constructor
      · rintro heq other ⟨⟩
        by_contra hne
        have hmodel : Text.isBlank p.model = false :=
          Defaults.modelFor_builtIn p hp ▸ Defaults.not_isBlank_modelFor p.provider
        rw [← heq, if_neg hne, hblank] at hmodel
        exact Bool.noConfusion hmodel
      · intro h
        exact if_pos (h value rfl)

/-- Where no model is named, the model is that of the provider exactly where the origin fits. -/
theorem model_of_unnamed_iff {o : Origin} (ho : o ∈ origins db env) (h : Unnamed db env o) :
    (o.config db env).model = Defaults.modelFor (o.config db env).provider ↔ Fits env o := by
  cases h with
  | record hunnamed hpreference =>
      exact iff_of_true (model_of_unnamed_record hunnamed hpreference) .record
  | entry hunnamed =>
      rename_i e
      have hmodel : ((Origin.entry e).config db env).model = Defaults.model :=
        model_of_unnamed_entry hunnamed
      rw [hmodel, eq_comm, Defaults.modelFor_eq_model_iff]
      exact ⟨.entry, fun hfits => by cases hfits with | entry hother => exact hother⟩
  | builtIn hunnamed =>
      rename_i p key
      have hp := mem_all_of_builtIn ho
      have hprovider : ((Origin.builtIn p key).config db env).provider = p.provider :=
        trim_provider p hp
      rw [hprovider, Defaults.modelFor_builtIn p hp]
      refine (model_of_unnamed_builtIn_iff hp hunnamed).trans ?_
      exact ⟨.builtIn, fun hfits => by cases hfits with | builtIn hempty => exact hempty⟩

end Unnamed

end Resolution

namespace Session

open Resolution

theorem load_origins (s : Session) : s.load.1
    = (origins s.database s.environment).map (Origin.config s.database s.environment) := by
  rw [load_eq, origins, ← firstNonempty_map, List.map_cons, List.map_cons, List.map_cons,
    List.map_nil, map_config_recordOrigins, map_config_entryOrigins, map_config_builtInOrigins]

/-- Of all that a load hands out, the config of a provider record has the first model that is not
blank exactly where the record is not eclipsed, and where it is, the model of its provider. -/
theorem model_of_record (s : Session) :
    s.load.1 = (origins s.database s.environment).map (Origin.config s.database s.environment) ∧
    ∀ r, .record r ∈ origins s.database s.environment →
      (((Origin.record r).config s.database s.environment).model = chosenModel s.database r
        ↔ ¬ Eclipsed s.database r) ∧
      (Eclipsed s.database r → ((Origin.record r).config s.database s.environment).model
        = Defaults.modelFor r.name) := by
  refine ⟨s.load_origins, fun r _ => ⟨⟨fun heq h => ?_, model_of_not_eclipsed _⟩,
    model_of_eclipsed _⟩⟩
  exact chosenModel_of_eclipsed h (heq.symm.trans (model_of_eclipsed _ h))

/-- Provider records beside a preference for deep analysis that is blank, and one for quick
analysis. -/
def blankPreference (records : List Document) : Session :=
  start (((Database.empty ObjectId.ofNat).put providers records).put systemConfigs [
    ⟨[("is_active", .boolean true), ("system_settings", .document [
      ("deep_analysis_model", .string " "), ("quick_analysis_model", .string "o3-mini")])]⟩])
    Environment.empty none

/-- A document that names no model, and its record. -/
def deepseekDocument : Document := ⟨[("name", .string "deepseek"), ("is_active", .boolean true)]⟩

def deepseek : ProviderRecord :=
  { ProviderRecord.blank with name := "deepseek", isActive := some (.boolean true) }

/-- A document that names a model among its further settings, and its record. -/
def zhipuDocument : Document :=
  ⟨[("name", .string "zhipu"), ("is_active", .boolean true), ("model", .string "  "),
    ("extra_config", .document [("default_model", .string "glm-4-plus")])]⟩

def zhipu : ProviderRecord :=
  { ProviderRecord.blank with
    name := "zhipu"
    model := some "  "
    extraConfig := some ⟨some "glm-4-plus"⟩
    isActive := some (.boolean true) }

theorem eclipsed_deepseek (documents : List Document) :
    Eclipsed (blankPreference documents).database deepseek where
  unnamed := rfl
  blank := ⟨" ", rfl, by decide⟩
  usable := ⟨"o3-mini", rfl, by decide⟩

theorem not_eclipsed_zhipu (db : Database) : ¬ Eclipsed db zhipu := by
  intro h
  exact nomatch h.unnamed

/-- Beside one pair of preferences, the record that names no model has that of its provider, and the
other has its own. -/
theorem models_blankPreference :
    ∃ s : Session, s = blankPreference [deepseekDocument, zhipuDocument] ∧
      origins s.database s.environment = [.record deepseek, .record zhipu] ∧
      s.load.1.map (·.model) = [Defaults.modelFor "deepseek", chosenModel s.database zhipu] ∧
      chosenModel s.database deepseek ≠ Defaults.modelFor "deepseek" := by
  obtain ⟨hload, hmodels⟩ := model_of_record (blankPreference [deepseekDocument, zhipuDocument])
  have horigins : origins (blankPreference [deepseekDocument, zhipuDocument]).database
      (blankPreference [deepseekDocument, zhipuDocument]).environment
      = [.record deepseek, .record zhipu] := rfl
  rw [horigins] at hload hmodels
  obtain ⟨hchosen, heclipsed⟩ := hmodels deepseek List.mem_cons_self
  have hdeepseek := heclipsed (eclipsed_deepseek _)
  have hzhipu := (hmodels zhipu (by simp)).1.mpr (not_eclipsed_zhipu _)
  refine ⟨_, rfl, horigins, ?_, fun heq => ?_⟩
  · rw [hload]
    exact congrArg₂ (fun first second => [first, second]) hdeepseek hzhipu
  · exact hchosen.mp (hdeepseek.trans heq.symm) (eclipsed_deepseek _)

/-- The usable preference is hidden by the blank one before it. -/
theorem hidden_preference :
    origins (blankPreference [deepseekDocument]).database Environment.empty = [.record deepseek] ∧
      chosenModel (blankPreference [deepseekDocument]).database deepseek = "o3-mini" ∧
      (blankPreference [deepseekDocument]).load.1.map (·.model) = ["deepseek-chat"] :=
  ⟨rfl, by decide +kernel, by decide +kernel⟩

/-- Of all that a load hands out, a config for which no model is named has that of its provider
exactly where what it comes from fits. -/
theorem model_of_unnamed (s : Session) :
    s.load.1 = (origins s.database s.environment).map (Origin.config s.database s.environment) ∧
    ∀ o ∈ origins s.database s.environment, Unnamed s.database s.environment o →
      ((o.config s.database s.environment).model
          = Defaults.modelFor (o.config s.database s.environment).provider
        ↔ Fits s.environment o) :=
  ⟨s.load_origins, fun _ ho h => model_of_unnamed_iff ho h⟩

/-- An entry for the provider of the common model. -/
def openaiEntry : Bson := .document [("provider", .string " OpenAI ")]

/-- The entry of a provider that names no model. -/
def entryFor (provider : String) : ConfigEntry := { ConfigEntry.blank with provider := some provider }

theorem fits_openai (env : Environment) : Fits env (.entry (entryFor " OpenAI ")) :=
  .entry ((Defaults.modelFor_eq_model_iff _).mp (by decide +kernel))

theorem not_fits_deepseek (env : Environment) : ¬ Fits env (.entry (entryFor "deepseek")) := by
  intro h
  cases h with
  | entry hother =>
      have hmodel := (Defaults.modelFor_eq_model_iff _).mpr hother
      exact absurd hmodel (by decide +kernel)

/-- Two entries that name no model have one and the same, which is that of the provider of one of
them. -/
theorem models_embedding :
    ∃ s : Session, s = embedding [deepseekEntry, openaiEntry] ∧
      origins s.database s.environment
        = [.entry (entryFor "deepseek"), .entry (entryFor " OpenAI ")] ∧
      (∀ o ∈ origins s.database s.environment, Unnamed s.database s.environment o) ∧
      (entryFor "deepseek").toConfig.model
        ≠ Defaults.modelFor (entryFor "deepseek").toConfig.provider ∧
      (entryFor " OpenAI ").toConfig.model
        = Defaults.modelFor (entryFor " OpenAI ").toConfig.provider := by
  obtain ⟨-, hmodels⟩ := model_of_unnamed (embedding [deepseekEntry, openaiEntry])
  have horigins : origins (embedding [deepseekEntry, openaiEntry]).database
      (embedding [deepseekEntry, openaiEntry]).environment
      = [.entry (entryFor "deepseek"), .entry (entryFor " OpenAI ")] := rfl
  rw [horigins] at hmodels
  refine ⟨_, rfl, horigins, ?_, fun heq => ?_, ?_⟩
  · rw [horigins]
    simp only [List.mem_cons, List.not_mem_nil, or_false]
    rintro o (rfl | rfl)
    · exact .entry rfl
    · exact .entry rfl
  · exact not_fits_deepseek _ ((hmodels _ List.mem_cons_self (.entry rfl)).mp heq)
  · exact (hmodels (.entry (entryFor " OpenAI ")) (by simp) (.entry rfl)).mpr (fits_openai _)

/-- An entry that names no model can have one that does not go with its provider. -/
theorem unfit_entry :
    origins (embedding [deepseekEntry]).database Environment.empty = [.entry (entryFor "deepseek")] ∧
      Unnamed (embedding [deepseekEntry]).database Environment.empty (.entry (entryFor "deepseek")) ∧
      (embedding [deepseekEntry]).load.1.map (fun c => (c.provider, c.model))
        = [("deepseek", "gpt-4o")] ∧
      Defaults.modelFor "deepseek" = "deepseek-chat" :=
  ⟨rfl, .entry rfl, by decide +kernel, by decide⟩

end Session

end ProviderRegistry
