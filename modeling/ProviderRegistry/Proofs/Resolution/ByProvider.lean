/-
# `Proofs.Resolution.ByProvider` — a provider is found under every spelling of its name

A config is looked up by comparing keys: that of its provider in lower case,
against that of the query trimmed and in lower case.  The provider itself is not
trimmed there, and a config that is not in use is passed over, so a listed
provider could be out of reach in two ways.  It is in neither, since every config
that is loaded is in use and has a trimmed provider (`LlmConfig.Sound`).

The list that is searched may be an old one.  It is what the sources gave when
the cache was last filled, and the lookup is told of the registry as it was then
(`configs_of_started`).

## What is proved

From any store and environment, and through any steps: a query that spells the
provider of a config in the list finds the first config of that provider, and a
query finds none exactly where no config has its key (`byProvider_of_spelling`).
-/
import ProviderRegistry.Proofs.Cache.Frozen
import ProviderRegistry.Proofs.Resolution.Limits
import ProviderRegistry.Proofs.Text.Spelling

namespace ProviderRegistry

open Collections

namespace LlmConfig

/-! ## One list -/

section List

variable {configs : List LlmConfig} {query : String}

/-- A config of a provider, before which a list has no other of that provider. -/
def FirstNamed (configs : List LlmConfig) (provider : String) (found : LlmConfig) : Prop :=
  ∃ before after, configs = before ++ found :: after ∧
    Text.SameButCase found.provider provider ∧
    ∀ earlier ∈ before, ¬ Text.SameButCase earlier.provider provider

/-- Where all configs are in use, they are told apart by their keys alone. -/
theorem findByProvider_of_enabled (h : ∀ c ∈ configs, c.enabled = true) (query : String) :
    findByProvider configs query
      = configs.find? fun c => c.providerKey == Text.asciiLower (Text.trim query) := by
  have hboth : ∀ c ∈ configs, (c.matchesProvider query && c.enabled)
      = (c.providerKey == Text.asciiLower (Text.trim query)) := by
    intro c hc
    rw [h c hc, Bool.and_true]
    rfl
  rw [findByProvider, ← List.head?_filter, ← List.head?_filter, List.filter_congr hboth]

theorem findByProvider_eq_none_iff (h : ∀ c ∈ configs, c.enabled = true) :
    findByProvider configs query = none
      ↔ ∀ c ∈ configs, c.providerKey ≠ Text.asciiLower (Text.trim query) := by
  simp [findByProvider_of_enabled h]

theorem firstNamed_of_find {key provider : String} {found : LlmConfig}
    (hkey : key = Text.asciiLower provider)
    (h : (configs.find? fun c => c.providerKey == key) = some found) :
    FirstNamed configs provider found := by
  obtain ⟨hfound, before, after, hconfigs, hbefore⟩ := List.find?_eq_some_iff_append.mp h
  refine ⟨before, after, hconfigs, ?_, fun earlier hearlier hcase => ?_⟩
  · rw [Text.sameButCase_iff, ← hkey]
    simpa [providerKey] using hfound
  · have hother := hbefore earlier hearlier
    rw [hkey, ← Text.sameButCase_iff.mp hcase] at hother
    simp [providerKey] at hother

/-- In a list of sound configs each is reached, or an earlier one of its provider, by every spelling
of its provider. -/
theorem findByProvider_of_spells (h : ∀ c ∈ configs, c.Sound) {c : LlmConfig} (hc : c ∈ configs)
    (hquery : Text.Spells query c.provider) :
    ∃ found, findByProvider configs query = some found ∧ FirstNamed configs c.provider found := by
  have hkey := Text.asciiLower_trim_of_spells hquery (h c hc).provider
  have hfind := findByProvider_of_enabled (fun d hd => (h d hd).enabled) query
  cases hfound : findByProvider configs query with
  | none =>
      have hnone := (findByProvider_eq_none_iff fun d hd => (h d hd).enabled).mp hfound c hc
      exact absurd hkey.symm hnone
  | some found => exact ⟨found, rfl, firstNamed_of_find hkey (hfind.symm.trans hfound)⟩

end List

end LlmConfig

namespace Session

/-! ## The list of a registry -/

/-- In a registry that has started with nothing cached, the next list that may come from the cache is
what the sources gave when the cache was last filled, or give now. -/
theorem configs_of_started {s : Session} (h : s.cached = none) (steps : List Step) :
    ∃ loaded, s.lastFilling (steps ++ [.operation (.configs true)]) = some loaded ∧
      ((s.afterAll steps).configs true).1 = loaded.load.1 := by
  rw [lastFilling_append]
  cases hcached : (s.afterAll steps).cached with
  | none =>
      refine ⟨s.afterAll steps, ?_, by rw [configs_of_empty hcached]⟩
      simp [lastFilling, fills, hcached]
  | some list =>
      rw [configs_of_cached hcached]
      rcases s.cached_afterAll steps with hnone | ⟨filled, hfilled, hlist⟩ | ⟨-, hsame⟩
      · rw [hnone] at hcached
        cases hcached
      · refine ⟨filled, ?_, Option.some.inj (hcached.symm.trans hlist)⟩
        simp [lastFilling, fills, hcached, hfilled]
      · rw [hsame, h] at hcached
        cases hcached

/-- From any store and environment, and through any steps, the configs are what the sources gave
when the list was loaded; by every spelling of the provider of one of them the first config of that
provider is found, and nothing is found by a query exactly where no config has its key. -/
theorem byProvider_of_spelling (db : Database) (env : Environment) (invoker : Option Rehearsal)
    (steps : List Step) :
    ∃ loaded, (start db env invoker).lastFilling (steps ++ [.operation (.configs true)])
        = some loaded ∧
      (((start db env invoker).afterAll steps).configs true).1 = loaded.load.1 ∧
      ((∀ d ∈ loaded.database.documents providers, d.Keyed) →
        (∀ c ∈ loaded.load.1, ∀ query, Text.Spells query c.provider →
          ∃ found, (((start db env invoker).afterAll steps).byProvider query).1 = some found ∧
            LlmConfig.FirstNamed loaded.load.1 c.provider found) ∧
        ∀ query, (((start db env invoker).afterAll steps).byProvider query).1 = none ↔
          ∀ c ∈ loaded.load.1, c.providerKey ≠ Text.asciiLower (Text.trim query)) := by
  obtain ⟨loaded, hloaded, hlist⟩ := configs_of_started (s := start db env invoker) rfl steps
  refine ⟨loaded, hloaded, hlist, fun hkeyed => ?_⟩
  obtain ⟨hsound, -⟩ := resolved_within_limits loaded hkeyed
  have hlookup : ∀ query, (((start db env invoker).afterAll steps).byProvider query).1
      = LlmConfig.findByProvider loaded.load.1 query := fun query =>
    congrArg (LlmConfig.findByProvider · query) hlist
  refine ⟨fun c hc query hquery => ?_, fun query => ?_⟩
  · rw [hlookup]
    exact LlmConfig.findByProvider_of_spells hsound hc hquery
  · rw [hlookup]
    exact LlmConfig.findByProvider_eq_none_iff fun c hc => (hsound c hc).enabled

/-! ### One provider in two spellings -/

/-- Two records of one provider, in different cases, and one with white space around its name. -/
def spelledTwice : Database :=
  (Database.empty ObjectId.ofNat).put providers [
    ⟨[("_id", .objectId (ObjectId.ofNat 1)), ("name", .string " Zhipu\t"),
      ("is_active", .boolean true)]⟩,
    ⟨[("_id", .objectId (ObjectId.ofNat 2)), ("name", .string "ZHIPU"),
      ("is_active", .boolean true)]⟩]

/-- The configs are loaded, and the store goes offline. -/
def loadedBefore : List Step := [.operation .active, .switch true []]

/-- A third spelling finds the first of the two, from the list that was loaded before the store went
offline, and another provider is not found. -/
theorem byProvider_spelledTwice :
    (∀ d ∈ spelledTwice.documents providers, d.Keyed) ∧
    Text.Spells "\nzHIPU  " "Zhipu" ∧
    (∃ found, (((start spelledTwice Environment.empty none).afterAll loadedBefore).byProvider
        "\nzHIPU  ").1 = some found ∧ found.provider = "Zhipu") ∧
    (((start spelledTwice Environment.empty none).afterAll loadedBefore).byProvider "openai").1
      = none := by
  have hkeyed : ∀ d ∈ spelledTwice.documents providers, d.Keyed := by decide +kernel
  have hquery : Text.Spells "\nzHIPU  " "Zhipu" :=
    ⟨"\n", "zHIPU", "  ", by decide +kernel, by decide +kernel, by decide +kernel,
      Text.sameButCase_iff.mpr (by decide +kernel)⟩
  have hproviders : (start spelledTwice Environment.empty none).load.1.map (·.provider)
      = ["Zhipu", "ZHIPU"] := by decide +kernel
  obtain ⟨loaded, hloaded, -, hfind⟩ :=
    byProvider_of_spelling spelledTwice Environment.empty none loadedBefore
  obtain rfl : start spelledTwice Environment.empty none = loaded := Option.some.inj hloaded
  obtain ⟨hspelled, hnone⟩ := hfind hkeyed
  refine ⟨hkeyed, hquery, ?_, (hnone "openai").mpr ?_⟩
  · obtain ⟨c, hc, hname⟩ := List.mem_map.mp (hproviders ▸ List.mem_cons_self)
    obtain ⟨found, hfound, before, after, hconfigs, -, hbefore⟩ := hspelled c hc _ (hname ▸ hquery)
    refine ⟨found, hfound, ?_⟩
    rw [hconfigs] at hproviders
    cases before with
    | nil => exact (List.cons.inj hproviders).1
    | cons first rest =>
        -- the first of the list is of the provider that was asked for
        have hfirst : first.provider = "Zhipu" := (List.cons.inj hproviders).1
        refine absurd ?_ (hbefore first List.mem_cons_self)
        rw [Text.sameButCase_iff, hfirst, hname]
  · intro c hc
    have hmem : c.provider ∈ ["Zhipu", "ZHIPU"] := hproviders ▸ List.mem_map_of_mem hc
    have hkeys : ∀ name ∈ ["Zhipu", "ZHIPU"],
        Text.asciiLower name ≠ Text.asciiLower (Text.trim "openai") := by decide +kernel
    exact hkeys _ hmem

end Session

end ProviderRegistry
