/-
# `Proofs.Resolution.Sources` — what resolving reads

Every part of `Resolution.load` reads two collections (`Source`) and asks the
store for nothing else.
-/
import ProviderRegistry.Resolution
import ProviderRegistry.Proofs.Store.Runs

namespace ProviderRegistry

open Collections

namespace Resolution

/-- The collections that configs are resolved from. -/
def Source (c : String) : Prop := c = providers ∨ c = systemConfigs

theorem reads_systemConfig : systemConfig.Reads Source := by
  refine (Script.reads_findFirst (.inr rfl) _).bind fun d? => ?_
  cases d? with
  | none => exact Script.reads_pure _
  | some d => exact (Script.reads_ofDecoded _).bind fun _ => Script.reads_pure _

theorem reads_preferredModel : preferredModel.Reads Source := by
  refine reads_systemConfig.attempt.bind fun outcome => ?_
  cases outcome with
  | ok _ => exact Script.reads_pure _
  | error _ => exact Script.reads_pure _

theorem reads_fromProviders : fromProviders.Reads Source := by
  refine (Script.reads_find (.inl rfl) _).bind fun ds => ?_
  dsimp only
  split
  · exact reads_preferredModel.bind fun _ => Script.reads_pure _
  · exact Script.reads_pure _

theorem reads_fromSystem : fromSystem.Reads Source := by
  refine reads_systemConfig.bind fun system => ?_
  cases system with
  | none => exact Script.reads_pure _
  | some _ => exact Script.reads_pure _

theorem reads_orNothing {source : Script (List LlmConfig)} (h : source.Reads Source) :
    (orNothing source).Reads Source := by
  refine h.attempt.bind fun outcome => ?_
  cases outcome with
  | ok _ => exact Script.reads_pure _
  | error _ => exact Script.reads_pure _

/-- Configs are resolved by reading the sources, and nothing else. -/
theorem reads_load (env : Environment) : (load env).Reads Source := by
  refine (reads_orNothing reads_fromProviders).bind fun stored => ?_
  split
  · exact Script.reads_pure _
  · refine (reads_orNothing reads_fromSystem).bind fun embedded => ?_
    split
    · exact Script.reads_pure _
    · exact Script.reads_pure _

end Resolution

end ProviderRegistry
