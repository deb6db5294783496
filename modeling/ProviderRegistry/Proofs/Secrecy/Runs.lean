/-
# `Proofs.Secrecy.Runs` — one script on two databases that are the same but for keys

Two databases are the same but for keys when their provider records and their
system documents are, in order, and they answer and draw identities alike
(`Database.ButKeys`).  What else they hold has no part in it: no script here
looks at it.

Two scripts agree on a relation of values when, on any two such databases, both
end in values that it relates, or in the same failure, and leave two such
databases behind (`Script.Agree`).  Agreement is put together as scripts are:

    p, q agree on Q      f a, g b agree on R whenever Q a b
    ──────────────────────────────────────────────────────────  (`Agree.bind`)
                 p >>= f, q >>= g agree on R

so that each operation asks only about its calls and about what it computes
between them.  No filter asks for a key, which is why its calls agree.

## What is proved

Listing, changing, deleting and trying out provider records agree on equal
outcomes, and loading configs agrees on configs that look alike.
-/
import ProviderRegistry.Proofs.Secrecy.Documents
import ProviderRegistry.Proofs.Store.Runs

namespace ProviderRegistry

open Collections

/-! ## Databases -/

namespace Database

/-- Databases that answer and draw identities alike, and whose provider records and system
documents are the same but for keys. -/
structure ButKeys (db other : Database) : Prop where
  offline : db.offline = other.offline
  failing : db.failing = other.failing
  ids : db.ids = other.ids
  drawn : db.drawn = other.drawn
  records : List.Forall₂ Document.ButKeys (db.documents providers) (other.documents providers)
  systems : List.Forall₂ Document.ButEntries (db.documents systemConfigs)
    (other.documents systemConfigs)

/-- Answers of which the values are related or the failures the same, and databases after them that
are the same but for keys. -/
def Agree {α β : Type} (Q : α → β → Prop) (x : Outcome α × Database) (y : Outcome β × Database) :
    Prop :=
  Matching Eq Q x.1 y.1 ∧ x.2.ButKeys y.2

namespace ButKeys

variable {db other : Database} (h : db.ButKeys other)
include h

theorem fault?_eq (c : String) : db.fault? c = other.fault? c := by
  rw [Database.fault?, Database.fault?, h.offline, h.failing]

theorem counted : db.counted.ButKeys other.counted :=
  ⟨h.offline, h.failing, h.ids, h.drawn, h.records, h.systems⟩

theorem put_providers {documents others : List Document}
    (hdocuments : List.Forall₂ Document.ButKeys documents others) :
    (db.put providers documents).ButKeys (other.put providers others) where
  offline := h.offline
  failing := h.failing
  ids := h.ids
  drawn := h.drawn
  records := by
    rw [documents_put_self, documents_put_self]
    exact hdocuments
  systems := by
    have hne : systemConfigs ≠ providers := by decide
    rw [documents_put_ne db hne, documents_put_ne other hne]
    exact h.systems

theorem guarded {α β : Type} {Q : α → β → Prop} (c : String) {x : Outcome α × Database}
    {y : Outcome β × Database} (hxy : Agree Q x y) :
    Agree Q (db.guarded c x) (other.guarded c y) := by
  unfold Database.guarded
  rw [h.fault?_eq c]
  split
  · exact ⟨.error rfl, h⟩
  · exact hxy

/-! ### The calls -/

/-- A document that is stored gets the same identity on both. -/
theorem identify {d e : Document} (hde : d.ButKeys e) :
    (db.identify d).1 = (other.identify e).1 ∧
    (db.identify d).2.1.ButKeys (other.identify e).2.1 ∧
    (db.identify d).2.2.ButKeys (other.identify e).2.2 := by
  have hid : d.get? "_id" = e.get? "_id" := hde.get?_eq (by decide)
  unfold Database.identify
  rw [hid]
  split
  · exact ⟨rfl, hde, h⟩
  · have hdrawn : db.ids db.drawn = other.ids other.drawn := by rw [h.ids, h.drawn]
    have hafter : db.drawId.2.ButKeys other.drawId.2 :=
      ⟨h.offline, h.failing, h.ids, congrArg (· + 1) h.drawn, h.records, h.systems⟩
    simp only [drawId, hdrawn, true_and]
    exact ⟨hde.insert _ _, hafter⟩

/-- The same identities are taken on both. -/
theorem holds_iff (id : Bson) : db.Holds providers id ↔ other.Holds providers id := by
  rw [← any_same_iff_holds, ← any_same_iff_holds, any_eq_of_forall₂ h.records]
  intro d e hde
  have hget : d.get? "_id" = e.get? "_id" := hde.get?_eq (by decide)
  rw [hget]

theorem insertIn {d e : Document} (hde : d.ButKeys e) :
    Agree Eq (db.insertIn providers d) (other.insertIn providers e) := by
  obtain ⟨hid, hdocument, hafter⟩ := h.identify hde
  have hholds := h.holds_iff (db.identify d).1
  rw [hid] at hholds
  by_cases hheld : other.Holds providers (other.identify e).1
  · rw [insertIn_of_holds hheld, insertIn_of_holds (hid ▸ hholds.mpr hheld), hid]
    exact ⟨.error rfl, hafter⟩
  · rw [insertIn_of_free hheld, insertIn_of_free (hid ▸ fun hd => hheld (hholds.mp hd)), hid]
    refine ⟨.ok rfl, hafter.put_providers ?_⟩
    exact List.rel_append hafter.records (.cons hdocument .nil)

end ButKeys

section Filters

variable {name : String} {V : Bson → Bson → Prop} {filter : Document}
  (hfilter : name ∉ Fields.keys filter.fields)
include hfilter

theorem rel_filter {documents others : List Document}
    (h : List.Forall₂ (Document.Like name V) documents others) :
    List.Forall₂ (Document.Like name V) (documents.filter (·.satisfies filter))
      (others.filter (·.satisfies filter)) :=
  have hsatisfies : ∀ d e : Document, Document.Like name V d e →
      (d.satisfies filter = true ↔ e.satisfies filter = true) :=
    fun d e hde => by rw [hde.satisfies_eq hfilter]
  List.rel_filter hsatisfies h

theorem rel_updateFirst {fields updates : Document} (hfields : Document.Like name V fields updates)
    {documents others : List Document}
    (h : List.Forall₂ (Document.Like name V) documents others) :
    Option.Rel (List.Forall₂ (Document.Like name V)) (updateFirst filter fields documents)
      (updateFirst filter updates others) := by
  induction h with
  | nil => exact .none
  | cons hde hrest ih =>
      unfold updateFirst
      rw [hde.satisfies_eq hfilter]
      split
      · exact .some (.cons (hde.merge hfields) hrest)
      · exact rel_map ih fun _ _ hothers => .cons hde hothers

theorem rel_dropFirst {documents others : List Document}
    (h : List.Forall₂ (Document.Like name V) documents others) :
    Option.Rel (List.Forall₂ (Document.Like name V)) (dropFirst filter documents)
      (dropFirst filter others) := by
  induction h with
  | nil => exact .none
  | cons hde hrest ih =>
      unfold dropFirst
      rw [hde.satisfies_eq hfilter]
      split
      · exact .some hrest
      · exact rel_map ih fun _ _ hothers => .cons hde hothers

end Filters

theorem ButKeys.change {db other : Database} (h : db.ButKeys other)
    {changed others : Option (List Document)}
    (hchanged : Option.Rel (List.Forall₂ Document.ButKeys) changed others) :
    (db.change providers changed).1 = (other.change providers others).1 ∧
    (db.change providers changed).2.ButKeys (other.change providers others).2 := by
  cases hchanged with
  | none => exact ⟨rfl, h⟩
  | some hdocuments => exact ⟨rfl, h.put_providers hdocuments⟩

end Database

/-! ## Scripts -/

namespace Script

variable {α β γ δ : Type} {Q : α → β → Prop} {R : γ → δ → Prop}

/-- Scripts that come to related values or to the same failure on databases that are the same but
for keys, and leave such databases behind. -/
def Agree (Q : α → β → Prop) (p : Script α) (q : Script β) : Prop :=
  ∀ ⦃db other : Database⦄, db.ButKeys other → Database.Agree Q (p.run db) (q.run other)

theorem agree_pure {a : α} {b : β} (h : Q a b) : Agree Q (pure a) (pure b) :=
  fun _ _ hdb => ⟨.ok h, hdb⟩

theorem agree_fail (error : ConfigError) : Agree Q (fail error) (fail error) :=
  fun _ _ hdb => ⟨.error rfl, hdb⟩

theorem Agree.bind {p : Script α} {q : Script β} {f : α → Script γ} {g : β → Script δ}
    (h : Agree Q p q) (hfg : ∀ a b, Q a b → Agree R (f a) (g b)) :
    Agree R (p >>= f) (q >>= g) := by
  intro db other hdb
  obtain ⟨hvalues, hafter⟩ := h hdb
  rcases hp : p.run db with ⟨x, after⟩
  rcases hq : q.run other with ⟨y, after'⟩
  rw [hp, hq] at hvalues hafter
  cases hvalues with
  | ok hab =>
      rw [run_bind_ok hp, run_bind_ok hq]
      exact hfg _ _ hab hafter
  | error heq =>
      subst heq
      rw [run_bind_error hp, run_bind_error hq]
      exact ⟨.error rfl, hafter⟩

theorem Agree.attempt {p : Script α} {q : Script β} (h : Agree Q p q) :
    Agree (Matching Eq Q) p.attempt q.attempt := by
  intro db other hdb
  obtain ⟨hvalues, hafter⟩ := h hdb
  rw [run_attempt, run_attempt]
  exact ⟨.ok hvalues, hafter⟩

/-- The same outcome in both, and then what agrees whatever its value. -/
theorem agree_ofOutcome (x : Outcome α) {f : α → Script γ} {g : α → Script δ}
    (hfg : ∀ a, Agree R (f a) (g a)) : Agree R (ofOutcome x >>= f) (ofOutcome x >>= g) := by
  cases x with
  | ok a => exact hfg a
  | error e => exact agree_fail e

theorem agree_ofDecoded {x : Decoded α} {y : Decoded β} (h : Matching Eq Q x y) :
    Agree Q (ofDecoded x) (ofDecoded y) := by
  cases h with
  | ok hab => exact agree_pure hab
  | error heq => exact heq ▸ agree_fail _

/-! ### The calls -/

theorem agree_find_providers {filter : Document}
    (hfilter : "api_key" ∉ Fields.keys filter.fields) :
    Agree (List.Forall₂ Document.ButKeys) (find providers filter) (find providers filter) := by
  intro db other h
  rw [find, run_call, run_call]
  exact h.guarded providers ⟨.ok (Database.rel_filter hfilter h.records), h.counted⟩

theorem agree_findFirst_providers {filter : Document}
    (hfilter : "api_key" ∉ Fields.keys filter.fields) :
    Agree (Option.Rel Document.ButKeys) (findFirst providers filter) (findFirst providers filter) :=
  (agree_find_providers hfilter).bind fun _ _ hdocuments =>
    agree_pure (rel_head?_of_forall₂ hdocuments)

theorem agree_findFirst_systemConfigs {filter : Document}
    (hfilter : "llm_configs" ∉ Fields.keys filter.fields) :
    Agree (Option.Rel Document.ButEntries) (findFirst systemConfigs filter)
      (findFirst systemConfigs filter) := by
  have hfind : Agree (List.Forall₂ Document.ButEntries) (find systemConfigs filter)
      (find systemConfigs filter) := by
    intro db other h
    rw [find, run_call, run_call]
    exact h.guarded systemConfigs ⟨.ok (Database.rel_filter hfilter h.systems), h.counted⟩
  exact hfind.bind fun _ _ hdocuments => agree_pure (rel_head?_of_forall₂ hdocuments)

theorem agree_insert {d e : Document} (h : d.ButKeys e) :
    Agree Eq (insert providers d) (insert providers e) := by
  intro db other hdb
  rw [insert, insert, run_call, run_call]
  exact hdb.guarded providers (hdb.insertIn h)

theorem agree_update {filter fields updates : Document}
    (hfilter : "api_key" ∉ Fields.keys filter.fields) (hfields : fields.ButKeys updates) :
    Agree Eq (update providers filter fields) (update providers filter updates) := by
  intro db other hdb
  obtain ⟨hfound, hafter⟩ := hdb.change (Database.rel_updateFirst hfilter hfields hdb.records)
  rw [update, update, run_call, run_call]
  exact hdb.guarded providers ⟨.ok hfound, hafter⟩

theorem agree_deleteFirst {filter : Document} (hfilter : "api_key" ∉ Fields.keys filter.fields) :
    Agree Eq (deleteFirst providers filter) (deleteFirst providers filter) := by
  intro db other hdb
  obtain ⟨hfound, hafter⟩ := hdb.change (Database.rel_dropFirst hfilter hdb.records)
  rw [deleteFirst, run_call, run_call]
  exact hdb.guarded providers ⟨.ok hfound, hafter⟩

end Script

/-! ## Operators -/

open Script

theorem not_mem_keys_idFilter (id : Bson) : "api_key" ∉ Fields.keys (idFilter id).fields := by
  simp [idFilter]

/-- Views show masks alone, and are sorted by name. -/
theorem ConfigView.agree_list (now : Moment) : Agree Eq (list now) (list now) := by
  refine (agree_find_providers (by simp [Document.empty])).bind fun documents others hdocuments => ?_
  refine agree_pure ?_
  have hrecords := Resolution.rel_decodable (fun _ _ h => ProviderRecord.matching_decode h) hdocuments
  have hviews := map_eq_of_forall₂ hrecords fun r q h => ConfigView.ofRecord_eq now h
  have hsort : ∀ records : List ProviderRecord,
      (records.mergeSort fun a b => a.name ≤ b.name).map (ofRecord now)
        = (records.map (ofRecord now)).mergeSort fun a b => a.name ≤ b.name :=
    fun records => List.map_mergeSort fun _ _ _ _ => rfl
  rw [hsort, hsort]
  exact congrArg (fun views : List ConfigView => views.mergeSort fun a b => a.name ≤ b.name) hviews

namespace ConfigEdit

theorem agree_write {e f : ConfigEdit} (h : Lookalike e f) (now : Moment) :
    Agree Eq (e.write now) (f.write now) := by
  have hchanges := butKeys_changes h now
  have hcreation := butKeys_creation h now
  have hfault : e.fault? = f.fault? := by
    obtain ⟨key, rfl, -⟩ := h
    rfl
  have hid : e.id = f.id := by
    obtain ⟨key, rfl, -⟩ := h
    rfl
  unfold write
  rw [← hfault, ← hid]
  split
  · exact agree_fail _
  · split
    · rename_i id _
      refine agree_ofOutcome (parseId id) fun oid => ?_
      have hfilter := not_mem_keys_idFilter (.objectId oid)
      refine (agree_findFirst_providers hfilter).bind fun found second hfound => ?_
      cases hfound with
      | none => exact agree_fail _
      | some _ => exact (agree_update hfilter hchanges).bind fun _ _ _ => agree_pure rfl
    · exact agree_insert hcreation

theorem agree_readBack (id : Bson) (now : Moment) : Agree Eq (readBack id now) (readBack id now) := by
  refine (agree_findFirst_providers (not_mem_keys_idFilter id)).bind fun found second hfound => ?_
  cases hfound with
  | none => exact agree_fail _
  | some hdocument =>
      refine (agree_ofDecoded (ProviderRecord.matching_decode hdocument)).bind fun r q hrecord => ?_
      exact agree_pure (ConfigView.ofRecord_eq now hrecord)

end ConfigEdit

theorem agree_deleteConfig (id : String) : Agree Eq (deleteConfig id) (deleteConfig id) := by
  refine agree_ofOutcome (parseId id) fun oid => ?_
  refine (agree_deleteFirst (not_mem_keys_idFilter _)).bind ?_
  rintro deleted _ rfl
  cases deleted with
  | true => exact agree_pure rfl
  | false => exact agree_fail _

theorem Probe.agree_prepare (id : String) : Agree ButKeys (prepare id) (prepare id) := by
  refine agree_ofOutcome (parseId id) fun oid => ?_
  refine (agree_findFirst_providers (not_mem_keys_idFilter _)).bind fun found second hfound => ?_
  cases hfound with
  | none => exact agree_pure (.settled _)
  | some hdocument =>
      refine (agree_ofDecoded (ProviderRecord.matching_decode hdocument)).bind fun r q hrecord => ?_
      exact agree_pure (butKeys_ofRecord hrecord)

/-! ## Configs -/

namespace Resolution

theorem agree_systemConfig :
    Agree (Option.Rel SystemConfig.ButKeys) systemConfig systemConfig := by
  refine (agree_findFirst_systemConfigs (by decide)).bind fun found second hfound => ?_
  cases hfound with
  | none => exact agree_pure .none
  | some hdocument =>
      refine (agree_ofDecoded (SystemConfig.matching_decode hdocument)).bind fun s t hsystem => ?_
      exact agree_pure (.some hsystem)

theorem agree_preferredModel : Agree Eq preferredModel preferredModel := by
  refine agree_systemConfig.attempt.bind fun outcome second houtcome => ?_
  cases houtcome with
  | error _ => exact agree_pure rfl
  | ok hsystem =>
      cases hsystem with
      | none => exact agree_pure rfl
      | some hsystem => exact agree_pure (SystemConfig.preferredModel_eq hsystem)

theorem agree_fromProviders : Agree (List.Forall₂ Lookalike) fromProviders fromProviders := by
  refine (agree_find_providers (by decide)).bind fun documents others hdocuments => ?_
  have hrecords := rel_decodable (fun _ _ h => ProviderRecord.matching_decode h) hdocuments
  have hmodels := any_eq_of_forall₂ hrecords (p := fun r : ProviderRecord => r.explicitModel.isNone)
    fun r q h => by rw [ProviderRecord.explicitModel_eq h]
  have hconfigs : ∀ preferred, Agree (List.Forall₂ Lookalike)
      (pure ((decodable ProviderRecord.decode documents).map (·.toConfig preferred)))
      (pure ((decodable ProviderRecord.decode others).map (·.toConfig preferred))) :=
    fun preferred => agree_pure
      (forall₂_map hrecords fun r q h => ProviderRecord.lookalike_toConfig h preferred)
  dsimp only
  rw [hmodels]
  split
  · refine agree_preferredModel.bind ?_
    rintro preferred _ rfl
    exact hconfigs preferred
  · exact hconfigs none

theorem agree_fromSystem : Agree (List.Forall₂ Lookalike) fromSystem fromSystem := by
  refine agree_systemConfig.bind fun found second hfound => ?_
  cases hfound with
  | none => exact agree_pure .nil
  | some hsystem =>
      have hentries := rel_decodable (fun _ _ h => ConfigEntry.matching_decode h) hsystem.entries
      have hinUse : ∀ e f : ConfigEntry, Lookalike e f → (e.inUse = true ↔ f.inUse = true) :=
        fun e f h => by rw [ConfigEntry.inUse_eq h]
      have hkept := List.rel_filter hinUse hentries
      exact agree_pure (forall₂_map hkept fun e f h => ConfigEntry.lookalike_toConfig h)

theorem agree_orNothing {source other : Script (List LlmConfig)}
    (h : Agree (List.Forall₂ Lookalike) source other) :
    Agree (List.Forall₂ Lookalike) (orNothing source) (orNothing other) := by
  refine h.attempt.bind fun outcome second houtcome => ?_
  cases houtcome with
  | ok hconfigs => exact agree_pure hconfigs
  | error _ => exact agree_pure .nil

theorem agree_load (env : Environment) : Agree (List.Forall₂ Lookalike) (load env) (load env) := by
  unfold load
  refine (agree_orNothing agree_fromProviders).bind fun stored second hstored => ?_
  rw [isEmpty_eq_of_forall₂ hstored]
  split
  · exact agree_pure hstored
  · refine (agree_orNothing agree_fromSystem).bind fun embedded third hembedded => ?_
    rw [isEmpty_eq_of_forall₂ hembedded]
    split
    · exact agree_pure hembedded
    · exact agree_pure (List.forall₂_same.mpr fun c _ => .refl c)

end Resolution

end ProviderRegistry
