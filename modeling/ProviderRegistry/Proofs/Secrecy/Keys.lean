/-
# `Proofs.Secrecy.Keys` — keys that look alike, and what is shown of records that hold them

Two keys look alike when nothing that is ever shown of them tells them apart:
they are blank or not blank together, and have the same mask, as they stand and
with the white space at their ends taken off.  So any two keys that are not
blank and share both masks do (`ApiKey.lookalike_of_not_isBlank`), and every key
looks like itself.

Seven kinds of record hold a key in a field of their own (`HoldsKey`), and two
of them look alike when they are the same but for keys that look alike.  What
is computed from a record is then one of two things:

    shown     (a text, a view, a report)     the same for both
    computed  (a config, a request, a probe) records that look alike again

What is shown is the same because it is shown by the mask alone (`ByMask`), which
asks less of the two keys than that they look alike.

## What is proved

* A key that looks like another does so trimmed, and blank keys are passed over
  for both (`ApiKey.Lookalike.trim`, `ApiKey.rel_nonBlank`).
* Records that look alike are the same on inspection (`inspect_eq`, for each
  kind), as JSON, as views, and as printed by the command line; configs,
  requests and probes of records that look alike look alike.
-/
import Mathlib.Data.List.Forall2
import ProviderRegistry.Admin.Probe
import ProviderRegistry.CommandLine.Run
import ProviderRegistry.Proofs.Resolution.Limits
import ProviderRegistry.Record.Legacy
import ProviderRegistry.Record.Simplified

namespace ProviderRegistry

/-! ## Related lists and options -/

section Related

variable {α β γ δ : Type} {R : α → β → Prop}

section Lists

variable {xs : List α} {ys : List β} (h : List.Forall₂ R xs ys)
include h

theorem map_eq_of_forall₂ {f : α → γ} {g : β → γ} (hfg : ∀ a b, R a b → f a = g b) :
    xs.map f = ys.map g := by
  induction h with
  | nil => rfl
  | cons hab _ ih => rw [List.map_cons, List.map_cons, hfg _ _ hab, ih]

theorem forall₂_map {S : γ → δ → Prop} {f : α → γ} {g : β → δ}
    (hfg : ∀ a b, R a b → S (f a) (g b)) : List.Forall₂ S (xs.map f) (ys.map g) := by
  rw [List.forall₂_map_left_iff, List.forall₂_map_right_iff]
  exact h.imp hfg

theorem any_eq_of_forall₂ {p : α → Bool} {q : β → Bool} (hpq : ∀ a b, R a b → p a = q b) :
    xs.any p = ys.any q := by
  induction h with
  | nil => rfl
  | cons hab _ ih => rw [List.any_cons, List.any_cons, hpq _ _ hab, ih]

theorem isEmpty_eq_of_forall₂ : xs.isEmpty = ys.isEmpty := by
  cases h with
  | nil => rfl
  | cons _ _ => rfl

theorem rel_head?_of_forall₂ : Option.Rel R xs.head? ys.head? := by
  cases h with
  | nil => exact .none
  | cons hab _ => exact .some hab

theorem rel_find?_of_forall₂ {p : α → Bool} {q : β → Bool} (hpq : ∀ a b, R a b → p a = q b) :
    Option.Rel R (xs.find? p) (ys.find? q) := by
  induction h with
  | nil => exact .none
  | cons hab _ ih =>
      rw [List.find?_cons, List.find?_cons, ← hpq _ _ hab]
      split
      · exact .some hab
      · exact ih

end Lists

section Options

variable {a? : Option α} {b? : Option β} (h : Option.Rel R a? b?)
include h

theorem map_eq_of_rel {f : α → γ} {g : β → γ} (hfg : ∀ a b, R a b → f a = g b) :
    a?.map f = b?.map g := by
  cases h with
  | some hab => exact congrArg some (hfg _ _ hab)
  | none => rfl

theorem rel_map {S : γ → δ → Prop} {f : α → γ} {g : β → δ} (hfg : ∀ a b, R a b → S (f a) (g b)) :
    Option.Rel S (a?.map f) (b?.map g) := by
  cases h with
  | some hab => exact .some (hfg _ _ hab)
  | none => exact .none

end Options

end Related

/-! ## Keys -/

namespace ApiKey

/-- Keys that nothing that is shown of them tells apart. -/
structure Lookalike (key other : String) : Prop where
  blank : Text.isBlank key = Text.isBlank other
  mask : mask key = mask other
  trimmed : ApiKey.mask (Text.trim key) = ApiKey.mask (Text.trim other)

theorem lookalike_of_not_isBlank {key other : String} (hkey : Text.isBlank key = false)
    (hother : Text.isBlank other = false) (hmask : mask key = mask other)
    (htrimmed : mask (Text.trim key) = mask (Text.trim other)) : Lookalike key other :=
  ⟨hkey.trans hother.symm, hmask, htrimmed⟩

theorem Lookalike.refl (key : String) : Lookalike key key := ⟨rfl, rfl, rfl⟩

theorem Lookalike.trim {key other : String} (h : Lookalike key other) :
    Lookalike (Text.trim key) (Text.trim other) where
  blank := by rw [Text.isBlank_trim, Text.isBlank_trim, h.blank]
  mask := h.trimmed
  trimmed := by
    -- trimming once more changes nothing
    rw [Text.trim_of_trimmed (Text.trimmed_trim key), Text.trim_of_trimmed (Text.trimmed_trim other),
      h.trimmed]

theorem rel_refl (key : Option String) : Option.Rel Lookalike key key := by
  cases key with
  | none => exact .none
  | some key => exact .some (.refl key)

section Optional

variable {key other : Option String} (h : Option.Rel Lookalike key other)
include h

theorem map_mask_eq : key.map ApiKey.mask = other.map ApiKey.mask :=
  map_eq_of_rel h fun _ _ halike => halike.mask

theorem rel_trim : Option.Rel Lookalike (key.map Text.trim) (other.map Text.trim) :=
  rel_map h fun _ _ halike => halike.trim

/-- Of two keys that look alike none is passed over alone. -/
theorem rel_nonBlank : Option.Rel Lookalike (Text.nonBlank key) (Text.nonBlank other) := by
  have hsome : ∀ s, Text.nonBlank (some s) = if Text.isBlank s then none else some s := by
    intro s
    cases hs : Text.isBlank s <;> simp [Text.nonBlank, Option.filter, hs]
  cases h with
  | none => exact .none
  | some halike =>
      rw [hsome, hsome, ← halike.blank]
      split
      · exact .none
      · exact .some halike

end Optional

end ApiKey

/-! ## Records that hold a key -/

/-- A record with a key in a field of its own. -/
class HoldsKey (α : Type) where
  key : α → Option String
  withKey : Option String → α → α
  key_withKey (k : Option String) (a : α) : key (withKey k a) = k
  withKey_key (a : α) : withKey (key a) a = a
  withKey_withKey (k l : Option String) (a : α) : withKey k (withKey l a) = withKey k a

/-- What shows the key of a record by its mask alone: another key of that mask shows the same. -/
def ByMask {α β : Type} [HoldsKey α] (render : α → β) : Prop :=
  ∀ a key, (HoldsKey.key a).map ApiKey.mask = key.map ApiKey.mask →
    render a = render (HoldsKey.withKey key a)

/-- Records that are the same but for keys that look alike. -/
def Lookalike {α : Type} [HoldsKey α] (a b : α) : Prop :=
  ∃ key, b = HoldsKey.withKey key a ∧ Option.Rel ApiKey.Lookalike (HoldsKey.key a) key

namespace Lookalike

variable {α : Type} [HoldsKey α]

theorem refl (a : α) : Lookalike a a :=
  ⟨HoldsKey.key a, (HoldsKey.withKey_key a).symm, ApiKey.rel_refl _⟩

theorem withKey {a b : α} (h : Lookalike a b) {first second : Option String}
    (hkeys : Option.Rel ApiKey.Lookalike first second) :
    Lookalike (HoldsKey.withKey first a) (HoldsKey.withKey second b) := by
  obtain ⟨key, rfl, -⟩ := h
  refine ⟨second, ?_, ?_⟩
  · rw [HoldsKey.withKey_withKey, HoldsKey.withKey_withKey]
  · rw [HoldsKey.key_withKey]
    exact hkeys

/-- What shows a key by its mask alone is the same for both. -/
theorem shown_eq {a b : α} (h : Lookalike a b) {β : Type} {render : α → β}
    (hrender : ByMask render) : render a = render b := by
  obtain ⟨key, rfl, hkey⟩ := h
  exact hrender a key (ApiKey.map_mask_eq hkey)

end Lookalike

instance : HoldsKey LlmConfig where
  key := (·.apiKey)
  withKey key c := { c with apiKey := key }
  key_withKey _ _ := rfl
  withKey_key _ := rfl
  withKey_withKey _ _ _ := rfl

instance : HoldsKey ExecutionRequest where
  key := (·.apiKey)
  withKey key r := { r with apiKey := key }
  key_withKey _ _ := rfl
  withKey_key _ := rfl
  withKey_withKey _ _ _ := rfl

instance : HoldsKey ConfigEdit where
  key := (·.apiKey)
  withKey key e := { e with apiKey := key }
  key_withKey _ _ := rfl
  withKey_key _ := rfl
  withKey_withKey _ _ _ := rfl

instance : HoldsKey ProviderRecord where
  key := (·.apiKey)
  withKey key r := { r with apiKey := key }
  key_withKey _ _ := rfl
  withKey_key _ := rfl
  withKey_withKey _ _ _ := rfl

instance : HoldsKey ConfigEntry where
  key := (·.apiKey)
  withKey key e := { e with apiKey := key }
  key_withKey _ _ := rfl
  withKey_key _ := rfl
  withKey_withKey _ _ _ := rfl

instance : HoldsKey LegacyConfig where
  key := (·.apiKey)
  withKey key c := { c with apiKey := key }
  key_withKey _ _ := rfl
  withKey_key _ := rfl
  withKey_withKey _ _ _ := rfl

instance : HoldsKey SimplifiedConfig where
  key := (·.apiKey)
  withKey key r := { r with apiKey := key }
  key_withKey _ _ := rfl
  withKey_key _ := rfl
  withKey_withKey _ _ _ := rfl

/-! ## On inspection -/

section Inspection

theorem LlmConfig.byMask_inspect : ByMask LlmConfig.inspect := by
  intro c key hmask
  have hmask : c.maskedKey = key.map ApiKey.mask := hmask
  simp only [LlmConfig.inspect, hmask]
  rfl

theorem LlmConfig.inspect_eq {c d : LlmConfig} (h : Lookalike c d) : c.inspect = d.inspect :=
  h.shown_eq byMask_inspect

theorem ExecutionRequest.byMask_inspect : ByMask ExecutionRequest.inspect := by
  intro r key hmask
  have hmask : r.apiKey.map ApiKey.mask = key.map ApiKey.mask := hmask
  simp only [ExecutionRequest.inspect, hmask]
  rfl

theorem ExecutionRequest.inspect_eq {r q : ExecutionRequest} (h : Lookalike r q) : r.inspect = q.inspect :=
  h.shown_eq byMask_inspect

theorem ConfigEdit.byMask_inspect : ByMask ConfigEdit.inspect := by
  intro e key hmask
  have hmask : e.apiKey.map ApiKey.mask = key.map ApiKey.mask := hmask
  simp only [ConfigEdit.inspect, hmask]
  rfl

theorem ConfigEdit.inspect_eq {e f : ConfigEdit} (h : Lookalike e f) : e.inspect = f.inspect :=
  h.shown_eq byMask_inspect

theorem ProviderRecord.byMask_inspect : ByMask ProviderRecord.inspect := by
  intro r key hmask
  have hmask : r.apiKey.map ApiKey.mask = key.map ApiKey.mask := hmask
  simp only [ProviderRecord.inspect, hmask]
  rfl

theorem ProviderRecord.inspect_eq {r q : ProviderRecord} (h : Lookalike r q) : r.inspect = q.inspect :=
  h.shown_eq byMask_inspect

theorem ConfigEntry.byMask_inspect : ByMask ConfigEntry.inspect := by
  intro e key hmask
  have hmask : e.apiKey.map ApiKey.mask = key.map ApiKey.mask := hmask
  simp only [ConfigEntry.inspect, hmask]
  rfl

theorem ConfigEntry.inspect_eq {e f : ConfigEntry} (h : Lookalike e f) : e.inspect = f.inspect :=
  h.shown_eq byMask_inspect

theorem LegacyConfig.byMask_inspect : ByMask LegacyConfig.inspect := by
  intro c key hmask
  have hmask : c.apiKey.map ApiKey.mask = key.map ApiKey.mask := hmask
  simp only [LegacyConfig.inspect, hmask]
  rfl

theorem LegacyConfig.inspect_eq {c d : LegacyConfig} (h : Lookalike c d) : c.inspect = d.inspect :=
  h.shown_eq byMask_inspect

theorem SimplifiedConfig.byMask_inspect : ByMask SimplifiedConfig.inspect := by
  intro r key hmask
  have hmask : r.apiKey.map ApiKey.mask = key.map ApiKey.mask := hmask
  simp only [SimplifiedConfig.inspect, hmask]
  rfl

theorem SimplifiedConfig.inspect_eq {r q : SimplifiedConfig} (h : Lookalike r q) : r.inspect = q.inspect :=
  h.shown_eq byMask_inspect

end Inspection

/-! ## Configs -/

theorem LlmConfig.byMask_toJson : ByMask LlmConfig.toJson := by
  intro c key hmask
  have hmask : c.maskedKey = key.map ApiKey.mask := hmask
  unfold toJson
  rw [hmask]
  rfl

namespace LlmConfig

variable {c d : LlmConfig} (h : Lookalike c d)
include h

theorem toJson_eq : c.toJson = d.toJson :=
  h.shown_eq byMask_toJson

theorem lookalike_toRequest : Lookalike c.toRequest d.toRequest := by
  obtain ⟨key, rfl, hkey⟩ := h
  exact ⟨key, rfl, hkey⟩

theorem enabled_eq : c.enabled = d.enabled := by
  obtain ⟨key, rfl, -⟩ := h
  rfl

theorem matchesProvider_eq (provider : String) :
    c.matchesProvider provider = d.matchesProvider provider := by
  obtain ⟨key, rfl, -⟩ := h
  rfl

end LlmConfig

/-- A request as a value has no key in it. -/
theorem ExecutionRequest.toJson_eq {r q : ExecutionRequest} (h : Lookalike r q) :
    r.toJson = q.toJson := by
  obtain ⟨key, rfl, -⟩ := h
  rfl

namespace LlmConfig

variable {configs others : List LlmConfig} (h : List.Forall₂ Lookalike configs others)
include h

theorem rel_firstEnabled : Option.Rel Lookalike (firstEnabled configs) (firstEnabled others) :=
  rel_find?_of_forall₂ h fun _ _ halike => enabled_eq halike

theorem rel_findByProvider (provider : String) :
    Option.Rel Lookalike (findByProvider configs provider) (findByProvider others provider) :=
  rel_find?_of_forall₂ h fun _ _ halike => by rw [matchesProvider_eq halike, enabled_eq halike]

end LlmConfig

/-! ## Stored records and requests -/

namespace ProviderRecord

variable {r q : ProviderRecord} (h : Lookalike r q)
include h

theorem explicitModel_eq : r.explicitModel = q.explicitModel := by
  obtain ⟨key, rfl, -⟩ := h
  rfl

theorem lookalike_toConfig (preferred : Option String) :
    Lookalike (r.toConfig preferred) (q.toConfig preferred) := by
  obtain ⟨key, rfl, hkey⟩ := h
  exact ⟨Text.nonBlank key, rfl, ApiKey.rel_nonBlank hkey⟩

end ProviderRecord

namespace ConfigEntry

variable {e f : ConfigEntry} (h : Lookalike e f)
include h

theorem inUse_eq : e.inUse = f.inUse := by
  obtain ⟨key, rfl, -⟩ := h
  rfl

theorem lookalike_toConfig : Lookalike e.toConfig f.toConfig := by
  obtain ⟨key, rfl, hkey⟩ := h
  exact ⟨Text.nonBlank key, rfl, ApiKey.rel_nonBlank hkey⟩

end ConfigEntry

theorem ConfigView.byMask_ofRecord (now : Moment) : ByMask (ofRecord now) := by
  intro r key hmask
  have hmask : r.apiKey.map ApiKey.mask = key.map ApiKey.mask := hmask
  unfold ofRecord
  rw [hmask]
  rfl

theorem ConfigView.ofRecord_eq (now : Moment) {r q : ProviderRecord} (h : Lookalike r q) :
    ofRecord now r = ofRecord now q :=
  h.shown_eq (byMask_ofRecord now)

theorem ConfigEdit.rel_trimmedKey {e f : ConfigEdit} (h : Lookalike e f) :
    Option.Rel ApiKey.Lookalike e.trimmedKey f.trimmedKey := by
  obtain ⟨key, rfl, hkey⟩ := h
  exact ApiKey.rel_nonBlank (ApiKey.rel_trim hkey)

/-- Stand-ins with one outcome that were asked the same but for keys. -/
structure Rehearsal.ButKeys (r q : Rehearsal) : Prop where
  outcome : r.outcome = q.outcome
  calls : List.Forall₂ (fun call other => Lookalike call.1 other.1 ∧ call.2 = other.2) r.calls q.calls

namespace Probe

/-- Probes that end alike, or have requests to send that look alike. -/
inductive ButKeys : Probe → Probe → Prop
  | settled (outcome : ProbeOutcome) : ButKeys (.settled outcome) (.settled outcome)
  | ready {request other : ExecutionRequest} :
      Lookalike request other → ButKeys (.ready request) (.ready other)

theorem butKeys_ofRecord {r q : ProviderRecord} (h : Lookalike r q) :
    ButKeys (ofRecord r) (ofRecord q) := by
  obtain ⟨key, rfl, hkey⟩ := h
  have hnonBlank : Option.Rel ApiKey.Lookalike (Text.nonBlank r.apiKey)
      (Text.nonBlank (HoldsKey.withKey key r).apiKey) := ApiKey.rel_nonBlank hkey
  unfold ofRecord
  generalize Text.nonBlank r.apiKey = first at hnonBlank ⊢
  generalize Text.nonBlank (HoldsKey.withKey key r).apiKey = second at hnonBlank ⊢
  cases hnonBlank with
  | none => exact .settled _
  | some halike => exact .ready ⟨some _, rfl, .some halike⟩

/-- A stand-in answers always the same, so that it does not tell probes apart. -/
theorem conclude_butKeys {probe other : Probe} (h : ButKeys probe other)
    {invoker second : Option Rehearsal} (hinvoker : Option.Rel Rehearsal.ButKeys invoker second) :
    (probe.conclude invoker).1 = (other.conclude second).1 ∧
    Option.Rel Rehearsal.ButKeys (probe.conclude invoker).2 (other.conclude second).2 := by
  cases h with
  | settled outcome => exact ⟨rfl, hinvoker⟩
  | ready hrequest =>
      cases hinvoker with
      | none => exact ⟨rfl, .none⟩
      | some hrehearsal =>
          refine ⟨?_, .some ⟨hrehearsal.outcome, ?_⟩⟩
          · simp only [conclude, Rehearsal.invoke, hrehearsal.outcome]
          · exact List.rel_append hrehearsal.calls (.cons ⟨hrequest, rfl⟩ .nil)

end Probe

/-! ## On the command line -/

namespace CommandLine

namespace Report

theorem byMask_configText : ByMask configText := by
  intro c key hmask
  have hmask : c.maskedKey = key.map ApiKey.mask := hmask
  unfold configText
  rw [hmask]
  rfl

theorem byMask_print_config (format : Format) (quiet : Bool) :
    ByMask fun c => (Report.config c).print format quiet := by
  intro c key hmask
  have hjson : (Report.config c).toJson = (Report.config (HoldsKey.withKey key c)).toJson :=
    LlmConfig.byMask_toJson c key hmask
  cases format with
  | text => exact byMask_configText c key hmask
  | json => exact congrArg (fun v : Json => v.pretty ++ "\n") hjson
  | yaml => exact congrArg Yaml.document hjson

theorem print_config_eq {c d : LlmConfig} (h : Lookalike c d) (format : Format) (quiet : Bool) :
    (Report.config c).print format quiet = (Report.config d).print format quiet :=
  h.shown_eq (byMask_print_config format quiet)

theorem byMask_configRow : ByMask configRow := by
  intro c key hmask
  have hmask : c.maskedKey = key.map ApiKey.mask := hmask
  unfold configRow columnValues
  rw [hmask]
  rfl

theorem print_resolution_eq {configs others : List LlmConfig} {active second : Option LlmConfig}
    (h : List.Forall₂ Lookalike configs others) (hactive : Option.Rel Lookalike active second)
    (format : Format) (quiet : Bool) :
    (Report.resolution configs active).print format quiet
      = (Report.resolution others second).print format quiet := by
  have hjson : (Report.resolution configs active).toJson
      = (Report.resolution others second).toJson := by
    have hconfigs : configs.map LlmConfig.toJson = others.map LlmConfig.toJson :=
      map_eq_of_forall₂ h fun _ _ halike => LlmConfig.toJson_eq halike
    have hactive : Json.ofOption LlmConfig.toJson active = Json.ofOption LlmConfig.toJson second := by
      cases hactive with
      | none => rfl
      | some halike => exact LlmConfig.toJson_eq halike
    simp only [toJson, hconfigs, hactive]
  have htext : resolutionText configs active = resolutionText others second := by
    have hrows : tableText configs = tableText others := by
      unfold tableText
      rw [map_eq_of_forall₂ h fun _ _ halike => by rw [halike.shown_eq byMask_configRow]]
    unfold resolutionText
    rw [hrows]
    cases h with
    | nil => rfl
    | cons _ _ =>
        cases hactive with
        | none => rfl
        | some halike =>
            obtain ⟨key, rfl, -⟩ := halike
            rfl
  cases format with
  | text => exact htext
  | json => exact congrArg (fun v : Json => v.pretty ++ "\n") hjson
  | yaml => exact congrArg Yaml.document hjson

end Report

end CommandLine

end ProviderRegistry
