/-
# `Proofs.Secrecy.Sessions` — nothing that a registry shows tells keys apart that look alike

Two runs are set side by side: registries that are the same but for keys, and
the same actions on them but for the keys that edits bring along.  Each step
shows the same and leaves two such registries behind, so the whole runs do.

What is shown of a config is its inspection and its JSON, and those of the
request that it makes (`LlmConfig.Sight`); configs themselves, and the settings
that an active config is projected onto, hold the whole key and are handed out
to who is to use it.

## What is proved

For every two such runs: all replies are the same, the command line prints the
same on the two databases left behind, in every format, and what is stored in
them and what the models were asked is the same on inspection (`keys_masked`).

The stand-in that is asked to try out a key has one answer for all requests.
One that looks at the key could tell more.
-/
import ProviderRegistry.Proofs.Secrecy.Runs
import ProviderRegistry.Session

namespace ProviderRegistry

open Collections

/-! ## What is shown -/

namespace LlmConfig

/-- What is shown of a config. -/
structure Sight where
  inspected : String
  json : String
  requestInspected : String
  requestJson : String
deriving DecidableEq

def sight (c : LlmConfig) : Sight where
  inspected := c.inspect
  json := c.toJson.compact
  requestInspected := c.toRequest.inspect
  requestJson := c.toRequest.toJson.compact

theorem sight_eq {c d : LlmConfig} (h : Lookalike c d) : c.sight = d.sight := by
  have hrequest := lookalike_toRequest h
  rw [sight, sight, inspect_eq h, toJson_eq h, ExecutionRequest.inspect_eq hrequest,
    ExecutionRequest.toJson_eq hrequest]

end LlmConfig

namespace Database

/-- The provider records on inspection, or why they do not decode. -/
def inspectedRecords (db : Database) : List (Decoded String) :=
  (db.documents providers).map fun d => (ProviderRecord.decode d).map ProviderRecord.inspect

/-- The system documents and the entries in them on inspection, or why they do not decode. -/
def inspectedSystems (db : Database) : List (Decoded (String × List (Decoded String))) :=
  (db.documents systemConfigs).map fun d => (SystemConfig.decode d).map fun s =>
    (s.inspect, s.entries.map fun e => (ConfigEntry.decode e).map ConfigEntry.inspect)

variable {db other : Database} (h : db.ButKeys other)
include h

theorem inspectedRecords_eq : db.inspectedRecords = other.inspectedRecords := by
  refine map_eq_of_forall₂ h.records fun d e hde => ?_
  exact ((ProviderRecord.matching_decode hde).map fun r q hrq => ProviderRecord.inspect_eq hrq).eq

theorem inspectedSystems_eq : db.inspectedSystems = other.inspectedSystems := by
  refine map_eq_of_forall₂ h.systems fun d e hde => ?_
  refine ((SystemConfig.matching_decode hde).map fun s t hst => ?_).eq
  have hentries : (s.entries.map fun e => (ConfigEntry.decode e).map ConfigEntry.inspect)
      = t.entries.map fun e => (ConfigEntry.decode e).map ConfigEntry.inspect :=
    map_eq_of_forall₂ hst.entries fun d e hde =>
      ((ConfigEntry.matching_decode hde).map fun _ _ hentry => ConfigEntry.inspect_eq hentry).eq
  rw [SystemConfig.inspect_eq hst, hentries]

end Database

namespace Session

/-- The requests that the stand-in was asked, on inspection, and the prompts. -/
def inspectedCalls (s : Session) : List (String × String) :=
  s.invoker.elim [] fun rehearsal => rehearsal.calls.map fun call => (call.1.inspect, call.2)

/-! ## Registries -/

/-- Registries that are the same but for keys, and whose stand-ins for the models answer alike. -/
structure ButKeys (s t : Session) : Prop where
  database : s.database.ButKeys t.database
  environment : s.environment = t.environment
  cached : Option.Rel (List.Forall₂ Lookalike) s.cached t.cached
  invoker : Option.Rel Rehearsal.ButKeys s.invoker t.invoker

/-- Results that are related, and registries after them that are the same but for keys. -/
def Agree {α β : Type} (Q : α → β → Prop) (x : α × Session) (y : β × Session) : Prop :=
  Q x.1 y.1 ∧ x.2.ButKeys y.2

/-- Outcomes that agree are two values that are related, or one failure. -/
@[elab_as_elim]
theorem Agree.elim {α β : Type} {Q : α → β → Prop} {x : Outcome α × Session}
    {y : Outcome β × Session} {motive : Outcome α × Session → Outcome β × Session → Prop}
    (h : Agree (Matching Eq Q) x y)
    (ok : ∀ a b s t, Q a b → s.ButKeys t → motive (.ok a, s) (.ok b, t))
    (error : ∀ e s t, s.ButKeys t → motive (.error e, s) (.error e, t)) : motive x y := by
  obtain ⟨x, s⟩ := x
  obtain ⟨y, t⟩ := y
  obtain ⟨hvalues, hst⟩ := h
  cases hvalues with
  | ok hab => exact ok _ _ s t hab hst
  | error heq => exact heq ▸ error _ s t hst

namespace ButKeys

variable {s t : Session} (h : s.ButKeys t)
include h

theorem inspectedCalls_eq : s.inspectedCalls = t.inspectedCalls := by
  have hinvoker := h.invoker
  unfold inspectedCalls
  generalize s.invoker = first at hinvoker ⊢
  generalize t.invoker = second at hinvoker ⊢
  cases hinvoker with
  | none => rfl
  | some hrehearsal =>
      refine map_eq_of_forall₂ hrehearsal.calls fun call other hcall => ?_
      rw [ExecutionRequest.inspect_eq hcall.1, hcall.2]

theorem invalidate : s.invalidate.ButKeys t.invalidate :=
  ⟨h.database, h.environment, .none, h.invoker⟩

theorem run {α β : Type} {Q : α → β → Prop} {p : Script α} {q : Script β}
    (hpq : Script.Agree Q p q) : Agree (Matching Eq Q) (s.run p) (t.run q) := by
  obtain ⟨hvalues, hdatabase⟩ := hpq h.database
  exact ⟨hvalues, hdatabase, h.environment, h.cached, h.invoker⟩

/-! ### Configs -/

theorem load : Agree (List.Forall₂ Lookalike) s.load t.load := by
  have hload : Script.Agree (List.Forall₂ Lookalike) (Resolution.load s.environment)
      (Resolution.load t.environment) :=
    h.environment ▸ Resolution.agree_load s.environment
  unfold Session.load
  refine (h.run hload).elim (fun _ _ _ _ hconfigs hafter => ?_) (fun _ _ _ hafter => ?_)
  · exact ⟨hconfigs, hafter⟩
  · exact ⟨.nil, hafter⟩

theorem configs (useCache : Bool) :
    Agree (List.Forall₂ Lookalike) (s.configs useCache) (t.configs useCache) := by
  have hcached : Option.Rel (List.Forall₂ Lookalike) (if useCache then s.cached else none)
      (if useCache then t.cached else none) := by
    split
    · exact h.cached
    · exact .none
  obtain ⟨hconfigs, hafter⟩ := h.load
  unfold Session.configs
  generalize (if useCache then s.cached else none) = first at hcached ⊢
  generalize (if useCache then t.cached else none) = second at hcached ⊢
  cases hcached with
  | some hlist => exact ⟨hlist, h⟩
  | none => exact ⟨hconfigs, hafter.database, hafter.environment, .some hconfigs, hafter.invoker⟩

theorem active : Agree (Option.Rel Lookalike) s.active t.active := by
  obtain ⟨hconfigs, hafter⟩ := h.configs true
  exact ⟨LlmConfig.rel_firstEnabled hconfigs, hafter⟩

theorem byProvider (provider : String) :
    Agree (Option.Rel Lookalike) (s.byProvider provider) (t.byProvider provider) := by
  obtain ⟨hconfigs, hafter⟩ := h.configs true
  exact ⟨LlmConfig.rel_findByProvider hconfigs provider, hafter⟩

/-! ### Operators -/

theorem list (now : Moment) : Agree Eq (s.list now) (t.list now) := by
  obtain ⟨hviews, hafter⟩ := h.run (ConfigView.agree_list now)
  exact ⟨hviews.eq, hafter⟩

theorem upsert (now : Moment) {e f : ConfigEdit} (hedit : Lookalike e f) :
    Agree Eq (s.upsert now e) (t.upsert now f) := by
  unfold Session.upsert
  refine (h.run (ConfigEdit.agree_write hedit now)).elim (fun id _ _ _ hid hafter => ?_)
    (fun _ _ _ hafter => ⟨rfl, hafter⟩)
  subst hid
  obtain ⟨hview, hread⟩ := (ButKeys.invalidate hafter).run (ConfigEdit.agree_readBack id now)
  exact ⟨hview.eq, hread⟩

theorem delete (id : String) : Agree Eq (s.delete id) (t.delete id) := by
  unfold Session.delete
  exact (h.run (agree_deleteConfig id)).elim (fun _ _ _ _ _ hafter => ⟨rfl, hafter.invalidate⟩)
    (fun _ _ _ hafter => ⟨rfl, hafter⟩)

theorem test (id : String) : Agree Eq (s.test id) (t.test id) := by
  unfold Session.test
  refine (h.run (Probe.agree_prepare id)).elim (fun _ _ _ _ hprobe hafter => ?_)
    (fun _ _ _ hafter => ⟨rfl, hafter⟩)
  obtain ⟨hfound, hinvoker⟩ := Probe.conclude_butKeys hprobe hafter.invoker
  exact ⟨congrArg Except.ok hfound, hafter.database, hafter.environment, hafter.cached, hinvoker⟩

end ButKeys

/-! ## Actions -/

/-- What users and operators do to a running registry that shows configs and records. -/
inductive Action where
  | list (now : Moment)
  | upsert (now : Moment) (e : ConfigEdit)
  | delete (id : String)
  | test (id : String)
  | configs (useCache : Bool)
  | reload
  | invalidate
  | active
  | byProvider (provider : String)

/-- What an action shows. -/
inductive Shown where
  | views (reply : Outcome (List ConfigView))
  | view (reply : Outcome ConfigView)
  | deletion (reply : Outcome Unit)
  | probe (reply : Outcome ProbeOutcome)
  | configs (sights : List LlmConfig.Sight)
  | config (sight : Option LlmConfig.Sight)
  | nothing

/-- What an action shows, and the registry after it. -/
def act (s : Session) : Action → Shown × Session
  | .list now => (s.list now).map .views id
  | .upsert now e => (s.upsert now e).map .view id
  | .delete text => (s.delete text).map .deletion id
  | .test text => (s.test text).map .probe id
  | .configs useCache => (s.configs useCache).map (fun list => .configs (list.map (·.sight))) id
  | .reload => s.reload.map (fun list => .configs (list.map (·.sight))) id
  | .invalidate => (.nothing, s.invalidate)
  | .active => s.active.map (fun config => .config (config.map (·.sight))) id
  | .byProvider provider =>
    (s.byProvider provider).map (fun config => .config (config.map (·.sight))) id

/-- What actions show that come one after the other, and the registry after them. -/
def actAll (s : Session) : List Action → List Shown × Session
  | [] => ([], s)
  | action :: rest =>
    let (shown, s) := s.act action
    let (others, s) := s.actAll rest
    (shown :: others, s)

/-- Actions that are the same, or bring along edits that look alike. -/
inductive Action.ButKeys : Action → Action → Prop
  | same (action : Action) : ButKeys action action
  | upsert (now : Moment) {e f : ConfigEdit} :
      Lookalike e f → ButKeys (.upsert now e) (.upsert now f)

section Steps

variable {s t : Session}

theorem Agree.map {α β γ : Type} {Q : α → β → Prop} {x : α × Session} {y : β × Session}
    (h : Agree Q x y) {f : α → γ} {g : β → γ} (hfg : ∀ a b, Q a b → f a = g b) :
    Agree Eq (x.map f id) (y.map g id) :=
  ⟨hfg _ _ h.1, h.2⟩

/-- An action shows the same on registries that are the same but for keys. -/
theorem ButKeys.act (h : s.ButKeys t) {action other : Action} (haction : action.ButKeys other) :
    Agree Eq (s.act action) (t.act other) := by
  have hconfigs : ∀ list others : List LlmConfig, List.Forall₂ Lookalike list others →
      Shown.configs (list.map (·.sight)) = .configs (others.map (·.sight)) :=
    fun _ _ hlist => congrArg Shown.configs
      (map_eq_of_forall₂ hlist fun _ _ halike => LlmConfig.sight_eq halike)
  have hconfig : ∀ c? d? : Option LlmConfig, Option.Rel Lookalike c? d? →
      Shown.config (c?.map (·.sight)) = .config (d?.map (·.sight)) :=
    fun _ _ hfound => congrArg Shown.config
      (map_eq_of_rel hfound fun _ _ halike => LlmConfig.sight_eq halike)
  cases haction with
  | upsert now hedit => exact (h.upsert now hedit).map fun _ _ => congrArg Shown.view
  | same action =>
      cases action with
      | list now => exact (h.list now).map fun _ _ => congrArg Shown.views
      | upsert now e => exact (h.upsert now (.refl e)).map fun _ _ => congrArg Shown.view
      | delete text => exact (h.delete text).map fun _ _ => congrArg Shown.deletion
      | test text => exact (h.test text).map fun _ _ => congrArg Shown.probe
      | configs useCache => exact (h.configs useCache).map hconfigs
      | reload => exact (h.invalidate.configs false).map hconfigs
      | invalidate => exact ⟨rfl, h.invalidate⟩
      | active => exact h.active.map hconfig
      | byProvider provider => exact (h.byProvider provider).map hconfig

theorem ButKeys.actAll (h : s.ButKeys t) {actions others : List Action}
    (hactions : List.Forall₂ Action.ButKeys actions others) :
    Agree Eq (s.actAll actions) (t.actAll others) := by
  induction hactions generalizing s t with
  | nil => exact ⟨rfl, h⟩
  | cons haction _ ih =>
      obtain ⟨hshown, hafter⟩ := h.act haction
      obtain ⟨hrest, hleft⟩ := ih hafter
      exact ⟨congrArg₂ List.cons hshown hrest, hleft⟩

end Steps

end Session

/-! ## The command line -/

namespace CommandLine

theorem exit_resolve_eq {db other : Database} (h : db.ButKeys other) (env : Environment)
    (now : Moment) (provider : Option String) (format : Format) (quiet : Bool) :
    Result.exit format quiet ((Command.resolve provider).on env now db).1
      = Result.exit format quiet ((Command.resolve provider).on env now other).1 := by
  have hstart : (Session.start db env none).ButKeys (Session.start other env none) :=
    ⟨h, rfl, .none, .none⟩
  show Result.exit format quiet (resolveConfigs env db provider).1
    = Result.exit format quiet (resolveConfigs env other provider).1
  unfold resolveConfigs
  cases provider with
  | none =>
      obtain ⟨hconfigs, hafter⟩ := hstart.configs true
      obtain ⟨hactive, -⟩ := hafter.active
      exact congrArg (fun text => (⟨0, text, ""⟩ : Exit))
        (Report.print_resolution_eq hconfigs hactive format quiet)
  | some name =>
      obtain ⟨hfound, -⟩ := hstart.byProvider name
      dsimp only
      generalize (Session.start db env none).byProvider name = first at hfound ⊢
      generalize (Session.start other env none).byProvider name = second at hfound ⊢
      obtain ⟨found, _⟩ := first
      obtain ⟨found', _⟩ := second
      cases hfound with
      | none => rfl
      | some halike =>
          exact congrArg (fun text => (⟨0, text, ""⟩ : Exit))
            (Report.print_config_eq halike format quiet)

end CommandLine

/-! ## Whole runs -/

/-- Values that a relation takes for alike are the same on inspection. -/
def Masked {α : Type} (R : α → α → Prop) (inspect : α → String) : Prop :=
  ∀ a b, R a b → inspect a = inspect b

namespace Session

/-- Registries that are the same but for keys, and actions on them that are, show the same: in every
reply, on the command line in every format, and on inspection of whatever holds a key. -/
theorem keys_masked {s t : Session} (h : s.ButKeys t) {actions others : List Action}
    (hactions : List.Forall₂ Action.ButKeys actions others) :
    (s.actAll actions).1 = (t.actAll others).1 ∧
    (∀ env now provider format quiet,
      CommandLine.Result.exit format quiet
          ((CommandLine.Command.resolve provider).on env now (s.actAll actions).2.database).1
        = CommandLine.Result.exit format quiet
          ((CommandLine.Command.resolve provider).on env now (t.actAll others).2.database).1) ∧
    (s.actAll actions).2.database.inspectedRecords
      = (t.actAll others).2.database.inspectedRecords ∧
    (s.actAll actions).2.database.inspectedSystems
      = (t.actAll others).2.database.inspectedSystems ∧
    (s.actAll actions).2.inspectedCalls = (t.actAll others).2.inspectedCalls ∧
    Masked Lookalike LlmConfig.inspect ∧
    Masked Lookalike ExecutionRequest.inspect ∧
    Masked Lookalike ConfigEdit.inspect ∧
    Masked Lookalike ProviderRecord.inspect ∧
    Masked Lookalike ConfigEntry.inspect ∧
    Masked SystemConfig.ButKeys SystemConfig.inspect ∧
    Masked Lookalike LegacyConfig.inspect ∧
    Masked Lookalike SimplifiedConfig.inspect := by
  obtain ⟨hshown, hleft⟩ := h.actAll hactions
  have hprinted := CommandLine.exit_resolve_eq hleft.database
  exact ⟨hshown, hprinted, Database.inspectedRecords_eq hleft.database,
    Database.inspectedSystems_eq hleft.database, hleft.inspectedCalls_eq,
    fun _ _ => LlmConfig.inspect_eq, fun _ _ => ExecutionRequest.inspect_eq,
    fun _ _ => ConfigEdit.inspect_eq, fun _ _ => ProviderRecord.inspect_eq,
    fun _ _ => ConfigEntry.inspect_eq, fun _ _ => SystemConfig.inspect_eq,
    fun _ _ => LegacyConfig.inspect_eq, fun _ _ => SimplifiedConfig.inspect_eq⟩

/-! ### Two registries with other keys -/

/-- A provider record and a system document, both with one key. -/
def holding (key : String) : Session :=
  start (((Database.empty ObjectId.ofNat).put systemConfigs
      [⟨[("is_active", .boolean true),
        ("llm_configs", .array [.document [("name", .string "glm"), ("api_key", .string key)]])]⟩]).put
    providers [⟨[("_id", .objectId (.ofNat 7)), ("name", .string "openai"),
      ("api_key", .string key), ("is_active", .boolean true)]⟩])
    Environment.empty (some ⟨.ok "Hello", []⟩)

theorem butKeys_holding {key other : String} (h : ApiKey.Lookalike key other) :
    (holding key).ButKeys (holding other) := by
  have hfield : FieldLike "api_key" KeyText ("api_key", .string key) ("api_key", .string other) :=
    .under (.text h)
  have helement : Element (.document [("name", .string "glm"), ("api_key", .string key)])
      (.document [("name", .string "glm"), ("api_key", .string other)]) :=
    .entry (.cons (.same _) (.cons hfield .nil))
  refine ⟨⟨rfl, rfl, rfl, rfl, ?_, ?_⟩, rfl, .none, .some ⟨rfl, .nil⟩⟩
  · exact .cons (.cons (.same _) (.cons (.same _) (.cons hfield (.cons (.same _) .nil)))) .nil
  · exact .cons (.cons (.same _) (.cons (.under (.list (.cons helement .nil))) .nil)) .nil

/-- Everything that can be done to a registry, an edit with a key among it. -/
def someActions (key : String) : List Action :=
  [.configs true, .list ⟨⟨0⟩, "now"⟩,
    .upsert ⟨⟨0⟩, "now"⟩ { name := "zhipu", displayName := "GLM", model := "glm-4", apiKey := some key },
    .test "000000000000000000000007", .delete "000000000000000000000007", .reload, .invalidate,
    .active, .byProvider "zhipu"]

/-- Two keys of which the first and the last four characters are the same: configs resolve to one
or the other, and nothing that is shown tells which. -/
theorem masked_someActions :
    ApiKey.Lookalike "sk-a0000wxyz" "sk-a1111wxyz" ∧
    ((holding "sk-a0000wxyz").actAll (someActions "sk-a0000wxyz")).2.load.1.map (·.apiKey)
      = [some "sk-a0000wxyz"] ∧
    ((holding "sk-a1111wxyz").actAll (someActions "sk-a1111wxyz")).2.load.1.map (·.apiKey)
      = [some "sk-a1111wxyz"] ∧
    ((holding "sk-a0000wxyz").actAll (someActions "sk-a0000wxyz")).1
      = ((holding "sk-a1111wxyz").actAll (someActions "sk-a1111wxyz")).1 := by
  have hkeys : ApiKey.Lookalike "sk-a0000wxyz" "sk-a1111wxyz" :=
    ApiKey.lookalike_of_not_isBlank (by decide +kernel) (by decide +kernel) (by decide +kernel)
      (by decide +kernel)
  have hactions : List.Forall₂ Action.ButKeys (someActions "sk-a0000wxyz")
      (someActions "sk-a1111wxyz") :=
    .cons (.same _) (.cons (.same _) (.cons (.upsert _ ⟨_, rfl, .some hkeys⟩)
      (List.forall₂_same.mpr fun action _ => .same action)))
  exact ⟨hkeys, by decide +kernel, by decide +kernel,
    (keys_masked (butKeys_holding hkeys) hactions).1⟩

end Session

end ProviderRegistry
