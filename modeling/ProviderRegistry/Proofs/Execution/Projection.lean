/-
# `Proofs.Execution.Projection` — what an active config leaves of the settings

A projection sets eight names.  Those that the baseline has keep their places and
lose their values; those that it lacks come after all others, in one fixed order;
and every other setting is left as it is.  An absent address is set as an empty
text and an absent key as null, so nothing of the baseline shows through where the
config has nothing to say.

So what comes out depends on the baseline in its names and in the settings that no
projection sets, and on nothing of a config that was projected before
(`project_overwrites`).
-/
import Mathlib.Data.List.Nodup
import ProviderRegistry.Execution.Settings
import ProviderRegistry.Proofs.Fields

namespace ProviderRegistry

namespace Settings

/-! ## Names -/

/-- The names of the settings, in order. -/
def names (s : Settings) : List String := Fields.keys s.entries

/-- No two settings have one name. -/
def Keyed (s : Settings) : Prop := s.names.Nodup

instance (s : Settings) : Decidable s.Keyed := inferInstanceAs (Decidable s.names.Nodup)

theorem keyed_ofList (entries : List (String × Json)) : (ofList entries).Keyed := by
  have hempty : (Fields.keys ([] : List (String × Json))).Nodup := List.nodup_nil
  exact Fields.nodup_keys_setAll hempty entries

/-- The names that a projection sets, in the order in which it adds them. -/
def overridden : List String :=
  ["llm_provider", "deep_think_llm", "quick_think_llm", "backend_url", "deep_provider",
    "quick_provider", "deep_api_key", "quick_api_key"]

theorem keys_overrides (active : LlmConfig) : Fields.keys (overrides active) = overridden := rfl

theorem nodup_keys_overrides (active : LlmConfig) : (Fields.keys (overrides active)).Nodup := by
  rw [keys_overrides]
  decide

/-! ## What a projection sets and what it leaves -/

section Project

variable {s : Settings} {active : LlmConfig}

theorem Keyed.project (h : s.Keyed) (active : LlmConfig) : (s.project (some active)).Keyed :=
  Fields.nodup_keys_setAll h (overrides active)

theorem names_project (s : Settings) (active : LlmConfig) :
    (s.project (some active)).names = s.names ++ overridden.filter (· ∉ s.names) :=
  Fields.keys_setAll (nodup_keys_overrides active) s.entries

theorem get?_project_of_not_mem {name : String} (h : name ∉ overridden) :
    (s.project (some active)).get? name = s.get? name :=
  Fields.lookup_setAll_of_not_mem h s.entries

theorem get?_project_of_mem {name : String} (h : name ∈ overridden) :
    (s.project (some active)).get? name = (overrides active).lookup name :=
  Fields.lookup_setAll_of_mem (nodup_keys_overrides active) h s.entries

theorem project_project (h : s.Keyed) (earlier active : LlmConfig) :
    (s.project (some earlier)).project (some active) = s.project (some active) :=
  congrArg Settings.mk (Fields.setAll_setAll h (nodup_keys_overrides active) rfl)

end Project

/-! ## The config that the settings follow -/

/-- The settings of a role name provider, model and key of a config. -/
structure Plays (s : Settings) (role : String) (active : LlmConfig) : Prop where
  provider : s.get? (role ++ "_provider") = some (.string active.provider)
  model : s.get? (role ++ "_think_llm") = some (.string active.model)
  key : s.get? (role ++ "_api_key") = some (Json.ofOption .string active.apiKey)

/-- The settings name one config and no other: its provider, its address, which is empty where it
has none, and all of it for deep and for quick use alike. -/
structure Follows (s : Settings) (active : LlmConfig) : Prop where
  provider : s.get? "llm_provider" = some (.string active.provider)
  address : s.get? "backend_url" = some (.string (active.baseUrl.getD ""))
  roles : ∀ role ∈ ["deep", "quick"], s.Plays role active

theorem plays_project (s : Settings) (active : LlmConfig) :
    ∀ role ∈ ["deep", "quick"], (s.project (some active)).Plays role active := by
  intro role hrole
  simp only [List.mem_cons, List.not_mem_nil, or_false] at hrole
  rcases hrole with rfl | rfl
  · exact ⟨get?_project_of_mem (by decide), get?_project_of_mem (by decide),
      get?_project_of_mem (by decide)⟩
  · exact ⟨get?_project_of_mem (by decide), get?_project_of_mem (by decide),
      get?_project_of_mem (by decide)⟩

theorem follows_project (s : Settings) (active : LlmConfig) :
    (s.project (some active)).Follows active :=
  ⟨get?_project_of_mem (by decide), get?_project_of_mem (by decide), plays_project s active⟩

theorem Follows.deep_eq_quick {s : Settings} {active : LlmConfig} (h : s.Follows active) :
    ∀ slot ∈ ["_provider", "_think_llm", "_api_key"],
      s.get? ("deep" ++ slot) = s.get? ("quick" ++ slot) := by
  have hdeep := h.roles "deep" (by simp)
  have hquick := h.roles "quick" (by simp)
  intro slot hslot
  simp only [List.mem_cons, List.not_mem_nil, or_false] at hslot
  rcases hslot with rfl | rfl | rfl
  · exact hdeep.provider.trans hquick.provider.symm
  · exact hdeep.model.trans hquick.model.symm
  · exact hdeep.key.trans hquick.key.symm

/-- A projection overwrites whatever was projected before it: the settings are those of the baseline
alone, with the same names in the same order and the missing ones of the eight behind them, each of
the eight once and all of them of the active config, and with every other setting as it was. -/
theorem project_overwrites {baseline : Settings} (h : baseline.Keyed)
    (earlier active : LlmConfig) :
    (baseline.project (some earlier)).project (some active) = baseline.project (some active) ∧
      (baseline.project (some active)).names
        = baseline.names ++ overridden.filter (· ∉ baseline.names) ∧
      (∀ name ∈ overridden, (baseline.project (some active)).names.count name = 1) ∧
      (∀ name, name ∉ overridden →
        (baseline.project (some active)).get? name = baseline.get? name) ∧
      (baseline.project (some active)).Follows active ∧
      ∀ slot ∈ ["_provider", "_think_llm", "_api_key"],
        (baseline.project (some active)).get? ("deep" ++ slot)
          = (baseline.project (some active)).get? ("quick" ++ slot) := by
  have hfollows := follows_project baseline active
  refine ⟨project_project h earlier active, names_project baseline active, ?once,
    fun name hname => get?_project_of_not_mem hname, hfollows, hfollows.deep_eq_quick⟩
  case once =>
    intro name hname
    have hmem : name ∈ (baseline.project (some active)).names := by
      rw [names_project]
      by_cases hpresent : name ∈ baseline.names
      · exact List.mem_append_left _ hpresent
      · exact List.mem_append_right _ (List.mem_filter.mpr ⟨hname, by simpa using hpresent⟩)
    exact List.count_eq_one_of_mem (h.project active) hmem

/-- A baseline that holds two of the eight, out of their order and among others. -/
def scattered : Settings :=
  .ofList [("quick_api_key", .string "sk-old"), ("online_tools", .bool true),
    ("llm_provider", .null), ("max_debate_rounds", .integer 1)]

/-- A config with an address and a key of its own. -/
def equipped : LlmConfig :=
  { LlmConfig.new "deepseek" "deepseek-chat" with
    apiKey := some "sk-abc123"
    baseUrl := some "https://api.deepseek.com" }

/-- Neither the key of the baseline nor that of the first config is left. -/
theorem overwritten_scattered :
    scattered.Keyed ∧
      (scattered.project (some equipped)).project (some (.new "openai" "gpt-4o"))
        = scattered.project (some (.new "openai" "gpt-4o")) ∧
      (scattered.project (some (.new "openai" "gpt-4o"))).names
        = ["quick_api_key", "online_tools", "llm_provider", "max_debate_rounds", "deep_think_llm",
            "quick_think_llm", "backend_url", "deep_provider", "quick_provider", "deep_api_key"] ∧
      (scattered.project (some (.new "openai" "gpt-4o"))).get? "quick_api_key" = some .null := by
  have hkeyed : scattered.Keyed := keyed_ofList _
  obtain ⟨htwice, hnames, -, -, hfollows, -⟩ :=
    project_overwrites hkeyed equipped (.new "openai" "gpt-4o")
  exact ⟨hkeyed, htwice, hnames.trans (by decide), (hfollows.roles "quick" (by decide)).key⟩

end Settings

end ProviderRegistry
