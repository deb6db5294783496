/-
# `Proofs.Resolution.Tiers` — which source supplies the configs, as a function of the store

`Resolution.load` is a script: it asks for the provider records, looks up the
operators' preference once and only when a record needs it, and goes on to the
next source when one has nothing.  Here the three sources are stated apart
from any run, as lists computed from a database and an environment, with the
preference looked up by itself:

    providerTier db      the active provider records, with `preference db`
    systemTier db        the enabled entries of the first active system document
    environmentTier env  the providers whose key is in the environment

## What is proved

The script answers with the first of the three that is not empty
(`outcome_load`), and it makes at most two calls to the store, whether they are
answered or not (`calls_load`); on a registry both make `load_firstNonempty`.
All parts of the script read and nothing else, so what each of them comes to
can be told of the database as it was at the start (`Script.Reads.outcome_bind`).
The bound is two and not three: the lookup of the preference is made only when a
record names no model, and then the provider records are not empty, so that the
system document is not read again for its entries.
-/
import Mathlib.Data.List.Basic
import ProviderRegistry.Session
import ProviderRegistry.Proofs.Resolution.Sources
import ProviderRegistry.Proofs.Store.Identities

namespace ProviderRegistry

open Collections

/-! ## Active documents -/

namespace Document

/-- Whether a document is marked active, by the truth value itself and nothing that reads like
it. -/
def isActive (d : Document) : Bool :=
  match d.get? "is_active" with
  | some (.boolean b) => b
  | _ => false

theorem isActive_iff (d : Document) :
    d.isActive = true ↔ d.get? "is_active" = some (.boolean true) := by
  unfold isActive
  split
  · rename_i b h
    simp [h]
  · rename_i h
    simpa using fun htrue => h true htrue

/-- The filter for active documents takes those that are marked so. -/
theorem satisfies_activeOnly (d : Document) :
    d.satisfies Resolution.activeOnly = d.isActive := by
  unfold satisfies isActive
  simp only [Resolution.activeOnly, List.all_cons, List.all_nil, Bool.and_true]
  cases d.get? "is_active" with
  | none => rfl
  | some v => cases v <;> simp [Bson.same]

end Document

namespace Resolution

/-! ## The three sources -/

/-- The active documents of a collection, in order; none where it cannot be read. -/
def activeDocuments (db : Database) (c : String) : List Document :=
  match db.fault? c with
  | some _ => []
  | none => (db.documents c).filter (·.isActive)

/-- The first active system document, where there is one and it decodes. -/
def activeSystem (db : Database) : Option SystemConfig :=
  (activeDocuments db systemConfigs).head?.bind fun d => (SystemConfig.decode d).toOption

/-- The model that operators prefer, by a lookup of its own. -/
def preference (db : Database) : Option String :=
  (activeSystem db).bind SystemConfig.preferredModel

/-- The configs of the active provider records that decode, each with the preference. -/
def providerTier (db : Database) : List LlmConfig :=
  (decodable ProviderRecord.decode (activeDocuments db providers)).map (·.toConfig (preference db))

/-- The configs of the enabled entries that decode in the active system document. -/
def systemTier (db : Database) : List LlmConfig :=
  match activeSystem db with
  | some system =>
    ((decodable ConfigEntry.decode system.entries).filter (·.inUse)).map (·.toConfig)
  | none => []

/-- The value that a variable holds, or the built-in one where it holds none or an empty one. -/
def overriding (env : Environment) (name builtIn : String) : String :=
  match env.held name with
  | some value => if value = "" then builtIn else value
  | none => builtIn

/-- A key that somebody has filled in. -/
def FilledIn (key : String) : Prop := key ≠ "" ∧ ¬ "your_".toList <+: key.toList

instance (key : String) : Decidable (FilledIn key) :=
  inferInstanceAs (Decidable (key ≠ "" ∧ ¬ "your_".toList <+: key.toList))

/-- The configs of the built-in providers whose key has been filled in, in the order of the
table. -/
def environmentTier (env : Environment) : List LlmConfig :=
  EnvProvider.all.filterMap fun p =>
    match env.held p.apiKeyVar with
    | some key =>
      if FilledIn key then
        some {
          provider := p.provider
          model := overriding env p.modelVar p.model
          apiKey := some key
          baseUrl := some (overriding env p.baseUrlVar p.baseUrl)
          temperature := Defaults.temperature
          maxTokens := 4000
          timeout := 180
          enabled := true }
      else none
    | none => none

/-- The first list that is not empty, or the empty list where all are. -/
def firstNonempty {α : Type} (lists : List (List α)) : List α :=
  (lists.find? (!·.isEmpty)).getD []

section FirstNonempty

variable {α : Type}

@[simp] theorem firstNonempty_nil_cons (lists : List (List α)) :
    firstNonempty ([] :: lists) = firstNonempty lists := rfl

theorem firstNonempty_cons_of_ne_nil {list : List α} (h : list ≠ []) (lists : List (List α)) :
    firstNonempty (list :: lists) = list := by
  cases list with
  | nil => exact absurd rfl h
  | cons a rest => rfl

theorem mem_firstNonempty {lists : List (List α)} {a : α} (h : a ∈ firstNonempty lists) :
    ∃ list ∈ lists, a ∈ list := by
  unfold firstNonempty at h
  cases hfind : lists.find? (!·.isEmpty) with
  | none => simp [hfind] at h
  | some list => exact ⟨list, List.mem_of_find?_eq_some hfind, by simpa [hfind] using h⟩

/-- The last of three lists is taken only where the first two are empty. -/
theorem mem_firstNonempty_of_ne_nil {first second third : List α}
    (h : first ≠ [] ∨ second ≠ []) {a : α} (ha : a ∈ firstNonempty [first, second, third]) :
    a ∈ first ∨ a ∈ second := by
  by_cases hfirst : first = []
  · subst hfirst
    rw [firstNonempty_nil_cons,
      firstNonempty_cons_of_ne_nil (h.resolve_left fun hne => hne rfl)] at ha
    exact .inr ha
  · rw [firstNonempty_cons_of_ne_nil hfirst] at ha
    exact .inl ha

end FirstNonempty

/-! ## What each part of the script answers -/

section Runs

variable (db : Database)

theorem outcome_find (c : String) :
    (Script.find c activeOnly).outcome db
      = match db.fault? c with
        | some fault => .error fault.toError
        | none => .ok (activeDocuments db c) := by
  unfold Script.outcome activeDocuments
  cases hfault : db.fault? c with
  | some fault =>
      rw [Script.find, Script.run_call]
      simp only [Database.answer, Database.guarded, hfault]
  | none =>
      rw [Script.run_find hfault]
      simp only [Database.findIn, Document.satisfies_activeOnly]

/-- A fault, the absence of a system document and one that does not decode all come to the same. -/
theorem outcome_systemConfig : (systemConfig.outcome db).toOption.join = activeSystem db := by
  have hfirst : (Script.findFirst systemConfigs activeOnly).outcome db
      = match db.fault? systemConfigs with
        | some fault => .error fault.toError
        | none => .ok (activeDocuments db systemConfigs).head? := by
    unfold Script.findFirst
    rw [(Script.reads_findFirst (s := Source) (.inr rfl) activeOnly).outcome_bind, outcome_find]
    cases db.fault? systemConfigs <;> rfl
  unfold systemConfig
  rw [reads_systemConfig.outcome_bind, hfirst]
  unfold activeSystem
  cases hfault : db.fault? systemConfigs with
  | some fault => simp [activeDocuments, hfault, bind, Except.bind, Except.toOption]
  | none =>
      cases (activeDocuments db systemConfigs).head? with
      | none => rfl
      | some d =>
          show ((some <$> Script.ofDecoded (SystemConfig.decode d)).outcome db).toOption.join
            = (SystemConfig.decode d).toOption
          cases SystemConfig.decode d <;> rfl

theorem outcome_preferredModel : preferredModel.outcome db = .ok (preference db) := by
  unfold preferredModel
  rw [reads_preferredModel.outcome_bind, Script.outcome_attempt, preference, ← outcome_systemConfig]
  cases systemConfig.outcome db <;> rfl

/-- What a source answers, with a failure taken for nothing. -/
theorem outcome_orNothing {source : Script (List LlmConfig)} (h : source.Reads Source) :
    (orNothing source).outcome db = .ok ((source.outcome db).toOption.getD []) := by
  unfold orNothing
  rw [(reads_orNothing h).outcome_bind, Script.outcome_attempt]
  cases source.outcome db <;> rfl

/-- A record that names a model has no use for the preference. -/
theorem toConfig_of_explicitModel {r : ProviderRecord} (h : r.explicitModel.isNone = false)
    (preferred other : Option String) : r.toConfig preferred = r.toConfig other := by
  cases hmodel : r.explicitModel with
  | none => simp [hmodel] at h
  | some model => simp [ProviderRecord.toConfig, hmodel]

theorem outcome_fromSystem : (fromSystem.outcome db).toOption.getD [] = systemTier db := by
  unfold fromSystem systemTier
  rw [reads_fromSystem.outcome_bind, ← outcome_systemConfig]
  cases systemConfig.outcome db with
  | error _ => rfl
  | ok system => cases system <;> rfl

/-- The preference is looked up only where it makes a difference. -/
theorem outcome_fromProviders : (fromProviders.outcome db).toOption.getD [] = providerTier db := by
  unfold fromProviders providerTier
  rw [reads_fromProviders.outcome_bind, outcome_find]
  cases hfault : db.fault? providers with
  | some fault => simp [activeDocuments, hfault, decodable, bind, Except.bind, Except.toOption]
  | none =>
      dsimp only [bind, Except.bind]
      by_cases hany : (decodable ProviderRecord.decode (activeDocuments db providers)).any
          (·.explicitModel.isNone) = true
      · have hread : (preferredModel >>= fun preferred => pure ((decodable ProviderRecord.decode
            (activeDocuments db providers)).map (·.toConfig preferred))).Reads Source :=
          reads_preferredModel.bind fun _ => Script.reads_pure _
        have houtcome := hread.outcome_bind db
        rw [outcome_preferredModel] at houtcome
        simp only [hany, if_true]
        exact congrArg (·.toOption.getD []) houtcome
      · simp only [hany, Bool.false_eq_true, if_false]
        refine List.map_congr_left fun r hr => toConfig_of_explicitModel ?_ _ _
        exact Bool.eq_false_iff.mpr fun hr' => hany (List.any_eq_true.mpr ⟨r, hr, hr'⟩)

/-! ### How many calls are made -/

theorem calls_systemConfig : systemConfig.calls db ≤ 1 := by
  have hfirst : (Script.findFirst systemConfigs activeOnly).calls db ≤ 1 :=
    Script.calls_bind_le (n := 0) (Nat.le_of_eq (Script.calls_call _ db)) fun _ _ _ => Nat.le_refl 0
  refine Script.calls_bind_le (n := 0) hfirst fun d? after _ => ?_
  cases d? with
  | none => exact Nat.le_refl 0
  | some d =>
      show (some <$> Script.ofDecoded (SystemConfig.decode d)).calls after ≤ 0
      cases SystemConfig.decode d <;> exact Nat.le_refl 0

theorem calls_preferredModel : preferredModel.calls db ≤ 1 := by
  have hattempt : systemConfig.attempt.calls db ≤ 1 := by
    rw [Script.calls_attempt]
    exact calls_systemConfig db
  refine Script.calls_bind_le (n := 0) hattempt fun outcome _ _ => ?_
  cases outcome <;> exact Nat.le_refl 0

theorem calls_fromSystem : fromSystem.calls db ≤ 1 := by
  refine Script.calls_bind_le (n := 0) (calls_systemConfig db) fun system _ _ => ?_
  cases system <;> exact Nat.le_refl 0

theorem calls_orNothing {source : Script (List LlmConfig)} {n : Nat} (h : source.calls db ≤ n) :
    (orNothing source).calls db ≤ n := by
  rw [← Script.calls_attempt] at h
  refine Script.calls_bind_le (n := 0) h fun outcome _ _ => ?_
  cases outcome <;> exact Nat.le_refl 0

theorem calls_fromProviders :
    fromProviders.calls db ≤ 2 ∧ (providerTier db = [] → fromProviders.calls db ≤ 1) := by
  have hfind : (Script.find providers activeOnly).calls db ≤ 1 :=
    Nat.le_of_eq (Script.calls_call _ db)
  constructor
  · refine Script.calls_bind_le (n := 1) hfind fun documents after _ => ?_
    dsimp only
    split
    · exact Script.calls_bind_le (n := 0) (calls_preferredModel after) fun _ _ _ => Nat.le_refl 0
    · exact Nat.zero_le 1
  · intro hempty
    refine Script.calls_bind_le (n := 0) hfind fun documents after hrun => ?_
    have hdocuments := (outcome_find db providers).symm.trans (congrArg Prod.fst hrun)
    cases hfault : db.fault? providers with
    | some fault =>
        rw [hfault] at hdocuments
        exact nomatch hdocuments
    | none =>
        -- no record is left that could ask for the preference
        rw [hfault] at hdocuments
        obtain rfl := Except.ok.inj hdocuments
        rw [List.map_eq_nil_iff.mp hempty]
        exact Nat.le_refl 0

/-- The provider records and the system document are asked for once each at most, whichever source
needs the second. -/
theorem calls_load (env : Environment) : (load env).calls db ≤ 2 := by
  obtain ⟨htwo, hone⟩ := calls_fromProviders db
  by_cases hempty : providerTier db = []
  · refine Script.calls_bind_le (n := 1) (calls_orNothing db (hone hempty)) fun stored after _ => ?_
    cases stored with
    | cons c rest => exact Nat.zero_le 1
    | nil =>
        refine Script.calls_bind_le (n := 0) (calls_orNothing after (calls_fromSystem after))
          fun embedded _ _ => ?_
        cases embedded <;> exact Nat.le_refl 0
  · refine Script.calls_bind_le (n := 0) (calls_orNothing db htwo) fun stored after hrun => ?_
    have hstored := (outcome_orNothing db reads_fromProviders).symm.trans (congrArg Prod.fst hrun)
    rw [outcome_fromProviders] at hstored
    obtain rfl := Except.ok.inj hstored
    cases hconfigs : providerTier db with
    | nil => exact absurd hconfigs hempty
    | cons c rest => exact Nat.le_refl 0

/-! ### The environment -/

theorem overriding_eq (env : Environment) (name builtIn : String) :
    overriding env name builtIn = env.getOr name builtIn := by
  unfold overriding Environment.getOr Environment.get
  cases env.held name with
  | none => rfl
  | some value => by_cases hvalue : value = "" <;> simp [Option.filter, hvalue]

theorem configured_eq (env : Environment) (name : String) :
    env.configured name = (env.held name).filter fun key => decide (FilledIn key) := by
  unfold Environment.configured Environment.get
  cases env.held name with
  | none => rfl
  | some key =>
      by_cases hempty : key = "" <;>
        simp [Option.filter, FilledIn, hempty, Environment.isPlaceholder, Text.beginsWith,
          ← List.isPrefixOf_iff_prefix]

/-- The names of the built-in providers stand in the table without white space around them. -/
theorem trim_provider : ∀ p ∈ EnvProvider.all, Text.trim p.provider = p.provider := by
  decide

theorem fromEnvironment_eq (env : Environment) : fromEnvironment env = environmentTier env := by
  refine List.filterMap_congr fun p hp => ?_
  simp only [ofEnvProvider, configured_eq, ← overriding_eq]
  cases env.held p.apiKeyVar with
  | none => rfl
  | some key =>
      by_cases hkey : FilledIn key
      · simp only [Option.filter, hkey, decide_true, if_true, Option.map_some, LlmConfig.new,
          trim_provider p hp]
        rfl
      · simp [Option.filter, hkey]

/-! ### The whole script -/

/-- The script answers with the first source that is not empty. -/
theorem outcome_load (env : Environment) :
    (load env).outcome db
      = .ok (firstNonempty [providerTier db, systemTier db, environmentTier env]) := by
  have hrest : (orNothing fromSystem >>= fun embedded =>
      if !embedded.isEmpty then pure embedded else pure (fromEnvironment env)).Reads Source := by
    refine (reads_orNothing reads_fromSystem).bind fun embedded => ?_
    split <;> exact Script.reads_pure _
  unfold load
  rw [(reads_load env).outcome_bind, outcome_orNothing db reads_fromProviders,
    outcome_fromProviders]
  cases hstored : providerTier db with
  | cons c rest => rfl
  | nil =>
      refine (hrest.outcome_bind db).trans ?_
      rw [outcome_orNothing db reads_fromSystem, outcome_fromSystem]
      cases hembedded : systemTier db with
      | cons c rest => rfl
      | nil =>
          show Except.ok (fromEnvironment env) = _
          rw [fromEnvironment_eq]
          cases environmentTier env <;> rfl

end Runs

end Resolution

namespace Session

open Resolution

theorem load_eq (s : Session) :
    s.load.1 = firstNonempty [providerTier s.database, systemTier s.database,
      environmentTier s.environment] := by
  show ((Resolution.load s.environment).outcome s.database).toOption.getD [] = _
  rw [outcome_load]
  rfl

/-- What the sources hold is the first of the three lists that is not empty.  Asking for it makes two
calls at most, and does no more to the registry than count those that are answered. -/
theorem load_firstNonempty (s : Session) :
    (∃ n ≤ 2, s.load
      = (firstNonempty [providerTier s.database, systemTier s.database,
          environmentTier s.environment],
        { s with database := s.database.served n })) ∧
    (Resolution.load s.environment).calls s.database ≤ 2 := by
  have hcalls := calls_load s.database s.environment
  obtain ⟨n, hn, hafter⟩ := (reads_load s.environment).run_served s.database
  refine ⟨⟨n, Nat.le_trans hn hcalls, Prod.ext s.load_eq ?_⟩, hcalls⟩
  show { s with database := ((Resolution.load s.environment).run s.database).2 } = _
  rw [hafter]

end Session

end ProviderRegistry
