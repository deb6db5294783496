/-
# `Proofs.Resolution.Malformed` — what a malformed document costs the others

A document that does not decode can turn up among the provider records, and a
malformed element in the list of configs that the system document embeds.  The
first is passed over wherever it stands.  The second is passed over where it is
a document, for the entries are kept as documents and decoded one by one.

An element that is no document is another matter.  The list is read as a list
of documents when the system document is decoded, so such an element spoils the
whole of it: its other entries are lost, and with them the model that the
operators prefer, which the provider records without a model fall back on.

## What is proved

For every place at which the document or the element is put, what a load gives
afterwards (`load_with_malformed`): the same as before, or, past an element that
is no document, the provider records without a preference and then the
environment.
-/
import ProviderRegistry.Proofs.Bson.RecordFormat
import ProviderRegistry.Proofs.Resolution.Tiers

namespace ProviderRegistry

open Collections

/-! ## Reading lists -/

namespace Decode

variable {α β : Type} {read : Bson → Decoded α}

/-- An item that cannot be read spoils the list. -/
theorem list_eq_error_of_mem {items : List Bson} {v : Bson} (hmem : v ∈ items)
    {cause : DecodeError} (h : read v = .error cause) :
    ∃ e, list read (.array items) = .error e := by
  show ∃ e, items.mapM read = .error e
  induction items with
  | nil => exact nomatch hmem
  | cons first rest ih =>
      rw [List.mapM_cons]
      cases hfirst : read first with
      | error e => exact ⟨e, rfl⟩
      | ok a =>
          have hrest : v ∈ rest := by
            refine (List.mem_cons.mp hmem).resolve_left fun heq => ?_
            exact nomatch (heq ▸ h).symm.trans hfirst
          obtain ⟨e, he⟩ := ih hrest
          exact ⟨e, by rw [he]; rfl⟩

/-- An item that can be read stands in the list where it stood among the items. -/
theorem list_insert {v : Bson} {a : α} (h : read v = .ok a) (items rest : List Bson)
    {R : List α → List α → Prop} (hR : ∀ before after, R (before ++ after) (before ++ a :: after)) :
    ReadAlike R (list read (.array (items ++ rest))) (list read (.array (items ++ v :: rest))) := by
  show ReadAlike R ((items ++ rest).mapM read) ((items ++ v :: rest).mapM read)
  rw [List.mapM_append, List.mapM_append, List.mapM_cons, h]
  refine (ReadAlike.refl (R := Eq) (fun _ => rfl) _).bind fun before _ hbefore => ?_
  subst hbefore
  cases rest.mapM read with
  | error e => exact .error e e
  | ok after => exact .ok (hR before after)

end Decode

/-! ## Documents that decode alike but for an entry -/

/-- The entry that an element of the embedded list stands for. -/
def ConfigEntry.ofElement (v : Bson) : Decoded ConfigEntry :=
  Decode.document v >>= ConfigEntry.decode

namespace SystemConfig

/-- Two system documents of the same preferences and the same entries, past what does not
decode. -/
def Matches (a b : SystemConfig) : Prop :=
  a.settings = b.settings ∧
    Resolution.decodable ConfigEntry.decode a.entries
      = Resolution.decodable ConfigEntry.decode b.entries

theorem readAlike_reader : ∀ entry ∈ format.fields, ∀ v a b, Matches a b →
    ReadAlike Matches (entry.2 v a) (entry.2 v b) := by
  intro entry hentry v a b hab
  simp only [format, List.mem_cons, List.not_mem_nil, or_false] at hentry
  rcases hentry with rfl | rfl | rfl
  · refine RecordFormat.readAlike_field (fun _ a b h => ?_) v hab
    exact ⟨h.1, h.2⟩
  · refine RecordFormat.readAlike_field (fun _ a b h => ?_) v hab
    exact ⟨h.1, rfl⟩
  · refine RecordFormat.readAlike_field (fun _ a b h => ?_) v hab
    exact ⟨rfl, h.2⟩

/-- A document among the elements that is no entry makes no difference to what is decoded. -/
theorem readAlike_decode_insert {d : Document} {items rest : List Bson}
    (hlist : d.get? "llm_configs" = some (.array (items ++ rest))) {v : Bson} {member : Document}
    (hmember : Decode.document v = .ok member)
    (hmalformed : (ConfigEntry.decode member).toOption = none) :
    ReadAlike Matches (decode d)
      (decode (d.insert "llm_configs" (.array (items ++ v :: rest)))) := by
  obtain ⟨before, after, hfields, -, hset⟩ := Fields.split_of_lookup hlist
  have htake : ∀ fields : List (String × Bson),
      List.Forall₂ (fun entry other => ∀ a b, Matches a b →
        ReadAlike Matches (format.take a entry) (format.take b other)) fields fields :=
    fun fields => List.forall₂_same.mpr fun entry _ a b hab =>
      RecordFormat.readAlike_take readAlike_reader entry hab
  refine RecordFormat.readAlike_decode ?_ ⟨rfl, rfl⟩
  show List.Forall₂ _ d.fields (Fields.set _ _ d.fields)
  rw [hset, hfields]
  refine List.rel_append (htake before) (.cons (fun a b hab => ?_) (htake after))
  have hread := Decode.list_insert hmember items rest
    (R := fun xs ys => Resolution.decodable ConfigEntry.decode xs
      = Resolution.decodable ConfigEntry.decode ys)
    fun before after => by simp [Resolution.decodable, List.filterMap_append, hmalformed]
  exact hread.map fun _ _ hsame => ⟨hab.1, hsame⟩

/-- An element that is no document spoils the system document. -/
theorem decode_eq_error {d : Document} {items : List Bson} {v : Bson} (hmem : v ∈ items)
    {cause : DecodeError} (hv : Decode.document v = .error cause) :
    ∃ e, decode (d.insert "llm_configs" (.array items)) = .error e := by
  have hfield := Fields.mem_of_lookup (d.get?_insert_self "llm_configs" (.array items))
  refine RecordFormat.decode_eq_error_of_mem hfield fun a => ?_
  obtain ⟨e, he⟩ := Decode.list_eq_error_of_mem hmem hv
  refine ⟨e, ?_⟩
  show (Decode.list Decode.document _).map _ = _
  rw [he]
  rfl

end SystemConfig

namespace Resolution

variable {db db' : Database}

/-! ## Documents put into a collection -/

theorem activeDocuments_put_self (db : Database) (c : String) (documents : List Document) :
    activeDocuments (db.put c documents) c
      = match db.fault? c with
        | some _ => []
        | none => documents.filter (·.isActive) := by
  unfold activeDocuments
  rw [Database.documents_put_self]
  rfl

theorem activeDocuments_put_ne (db : Database) {c other : String} (h : other ≠ c)
    (documents : List Document) :
    activeDocuments (db.put c documents) other = activeDocuments db other := by
  unfold activeDocuments
  rw [Database.documents_put_ne db h]
  rfl

/-- A document has been put somewhere among the provider records. -/
inductive RecordAdded (d : Document) (db : Database) : Database → Prop
  | intro {before after : List Document} (hdocuments : db.documents providers = before ++ after) :
      RecordAdded d db (db.put providers (before ++ d :: after))

/-- A value has been put somewhere into the list of configs of the first active system document. -/
inductive EntryAdded (v : Bson) (db : Database) : Database → Prop
  | intro {before after : List Document} {d : Document} {items rest : List Bson}
      (hdocuments : db.documents systemConfigs = before ++ d :: after)
      (hfirst : ∀ other ∈ before, other.isActive = false) (hactive : d.isActive = true)
      (hlist : d.get? "llm_configs" = some (.array (items ++ rest))) :
      EntryAdded v db (db.put systemConfigs
        (before ++ d.insert "llm_configs" (.array (items ++ v :: rest)) :: after))

/-! ## Records -/

/-- A document that does not decode makes no difference among the active ones. -/
theorem decodable_activeDocuments_added {d : Document}
    (hmalformed : (ProviderRecord.decode d).toOption = none) (h : RecordAdded d db db') :
    decodable ProviderRecord.decode (activeDocuments db' providers)
      = decodable ProviderRecord.decode (activeDocuments db providers) := by
  obtain ⟨hdocuments⟩ := h
  rw [activeDocuments_put_self]
  unfold activeDocuments
  cases db.fault? providers with
  | some fault => rfl
  | none =>
      rw [hdocuments]
      by_cases hactive : d.isActive = true <;>
        simp [decodable, List.filterMap_append, hactive, hmalformed]

theorem activeSystem_recordAdded {d : Document} (h : RecordAdded d db db') :
    activeSystem db' = activeSystem db := by
  obtain ⟨-⟩ := h
  have hne : systemConfigs ≠ providers := by decide
  unfold activeSystem
  rw [activeDocuments_put_ne db hne]

theorem providerTier_recordAdded {d : Document}
    (hmalformed : (ProviderRecord.decode d).toOption = none) (h : RecordAdded d db db') :
    providerTier db' = providerTier db := by
  unfold providerTier preference
  rw [decodable_activeDocuments_added hmalformed h, activeSystem_recordAdded h]

theorem systemTier_recordAdded {d : Document} (h : RecordAdded d db db') :
    systemTier db' = systemTier db := by
  unfold systemTier
  rw [activeSystem_recordAdded h]

/-! ## Entries -/

/-- The active system document is the first that is active. -/
theorem activeSystem_eq {before after : List Document} {d : Document}
    (hfault : db.fault? systemConfigs = none)
    (hdocuments : db.documents systemConfigs = before ++ d :: after)
    (hfirst : ∀ other ∈ before, other.isActive = false) (hactive : d.isActive = true) :
    activeSystem db = (SystemConfig.decode d).toOption := by
  have hbefore : before.filter (·.isActive) = [] :=
    List.filter_eq_nil_iff.mpr fun other hother => by simp [hfirst other hother]
  simp [activeSystem, activeDocuments, hfault, hdocuments, List.filter_append, hbefore, hactive]

theorem activeSystem_of_fault {fault : StoreFault}
    (hfault : db.fault? systemConfigs = some fault) : activeSystem db = none := by
  simp [activeSystem, activeDocuments, hfault]

/-- What has been put into the list is the first active system document still. -/
theorem activeSystem_entryAdded {v : Bson} (h : EntryAdded v db db') :
    (activeSystem db = none ∧ activeSystem db' = none) ∨
    ∃ d items rest, d.get? "llm_configs" = some (.array (items ++ rest)) ∧
      activeSystem db = (SystemConfig.decode d).toOption ∧
      activeSystem db'
        = (SystemConfig.decode (d.insert "llm_configs" (.array (items ++ v :: rest)))).toOption := by
  obtain @⟨before, after, d, items, rest, hdocuments, hfirst, hactive, hlist⟩ := h
  cases hfault : db.fault? systemConfigs with
  | some fault => exact .inl ⟨activeSystem_of_fault hfault, activeSystem_of_fault hfault⟩
  | none =>
      refine .inr ⟨d, items, rest, hlist, activeSystem_eq hfault hdocuments hfirst hactive, ?_⟩
      have hne : "is_active" ≠ "llm_configs" := by decide
      refine activeSystem_eq hfault (Database.documents_put_self ..) hfirst ?_
      rw [Document.isActive_iff, Document.get?_insert_ne _ hne]
      exact (Document.isActive_iff d).mp hactive

theorem activeProviders_entryAdded {v : Bson} (h : EntryAdded v db db') :
    activeDocuments db' providers = activeDocuments db providers := by
  obtain ⟨-, -, -, -⟩ := h
  have hne : providers ≠ systemConfigs := by decide
  exact activeDocuments_put_ne db hne _

/-- The configs of the active provider records that decode, without a preference. -/
def unpreferredTier (db : Database) : List LlmConfig :=
  (decodable ProviderRecord.decode (activeDocuments db providers)).map (·.toConfig none)

/-- Where no system document can be used, records have no preference and there are no entries. -/
theorem tiers_of_no_system (h : activeSystem db = none) :
    providerTier db = unpreferredTier db ∧ systemTier db = [] := by
  simp [providerTier, unpreferredTier, preference, systemTier, h]

/-- What the configs are made of, and so the configs, are the same where the system documents
match. -/
theorem tiers_of_matching (hproviders : activeDocuments db' providers = activeDocuments db providers)
    (hsystem : Option.Rel SystemConfig.Matches (activeSystem db) (activeSystem db')) :
    providerTier db' = providerTier db ∧ systemTier db' = systemTier db := by
  unfold providerTier preference systemTier
  rw [hproviders]
  generalize activeSystem db = system, activeSystem db' = system' at hsystem
  cases hsystem with
  | none => exact ⟨rfl, rfl⟩
  | some hmatches =>
      obtain ⟨hsettings, hentries⟩ := hmatches
      simp only [Option.bind_some, SystemConfig.preferredModel, hsettings, hentries, and_self]

/-- A malformed entry that is a document takes nothing away from the others. -/
theorem tiers_entryAdded {v : Bson} (h : EntryAdded v db db') {member : Document}
    (hmember : Decode.document v = .ok member)
    (hmalformed : (ConfigEntry.decode member).toOption = none) :
    providerTier db' = providerTier db ∧ systemTier db' = systemTier db := by
  refine tiers_of_matching (activeProviders_entryAdded h) ?_
  rcases activeSystem_entryAdded h with ⟨hsystem, hsystem'⟩ | ⟨d, items, rest, hlist, hsystem, hsystem'⟩
  · rw [hsystem, hsystem']
    exact .none
  · rw [hsystem, hsystem']
    exact (SystemConfig.readAlike_decode_insert hlist hmember hmalformed).toOption

/-- An element that is no document leaves no system document to use. -/
theorem activeSystem_eq_none {v : Bson} (h : EntryAdded v db db') {cause : DecodeError}
    (hv : Decode.document v = .error cause) : activeSystem db' = none := by
  rcases activeSystem_entryAdded h with ⟨-, hsystem⟩ | ⟨d, items, rest, -, -, hsystem⟩
  · exact hsystem
  · have hmem : v ∈ items ++ v :: rest := List.mem_append_right items List.mem_cons_self
    obtain ⟨e, he⟩ := SystemConfig.decode_eq_error (d := d) hmem hv
    rw [hsystem, he]
    rfl

end Resolution

namespace Session

open Resolution

/-- A document that is no provider record is passed over, wherever it stands, and so is a document
among the embedded entries that is no entry.  An element that is no document takes the other entries
and the preference with it. -/
theorem load_with_malformed (s : Session) (db : Database) :
    (∀ d cause, ProviderRecord.decode d = .error cause → RecordAdded d s.database db →
      { s with database := db }.load.1 = s.load.1) ∧
    (∀ v cause, ConfigEntry.ofElement v = .error cause → EntryAdded v s.database db →
      { s with database := db }.load.1
        = if (Decode.document v).isOk then s.load.1
          else firstNonempty [unpreferredTier s.database, environmentTier s.environment]) := by
  refine ⟨fun d cause hd hadded => ?_, fun v cause hv hadded => ?_⟩
  · have hmalformed : (ProviderRecord.decode d).toOption = none := by rw [hd]; rfl
    rw [load_eq, load_eq]
    simp only [providerTier_recordAdded hmalformed hadded, systemTier_recordAdded hadded]
  · rw [load_eq, load_eq]
    cases hdocument : Decode.document v with
    | ok member =>
        have hmember : ConfigEntry.decode member = .error cause := by
          rwa [ConfigEntry.ofElement, hdocument] at hv
        have hmalformed : (ConfigEntry.decode member).toOption = none := by rw [hmember]; rfl
        obtain ⟨hproviders, hentries⟩ := tiers_entryAdded hadded hdocument hmalformed
        simp only [hproviders, hentries]
        rfl
    | error e =>
        obtain ⟨hproviders, hentries⟩ :=
          tiers_of_no_system (activeSystem_eq_none hadded hdocument)
        simp only [hproviders, hentries, unpreferredTier, activeProviders_entryAdded hadded]
        cases (decodable ProviderRecord.decode (activeDocuments s.database providers)).map
          (·.toConfig none) <;> rfl

/-! ### One malformed element of each kind -/

/-- One active system document with a list of embedded entries. -/
def embedding (items : List Bson) : Session :=
  start ((Database.empty ObjectId.ofNat).put systemConfigs
    [⟨[("is_active", .boolean true), ("llm_configs", .array items)]⟩]) Environment.empty none

/-- An entry for one provider. -/
def deepseekEntry : Bson := .document [("provider", .string "deepseek")]

theorem entryAdded_embedding (v : Bson) :
    EntryAdded v (embedding [deepseekEntry]).database (embedding [deepseekEntry, v]).database := by
  have hadded := @EntryAdded.intro v (embedding [deepseekEntry]).database [] []
    ⟨[("is_active", .boolean true), ("llm_configs", .array [deepseekEntry])]⟩ [deepseekEntry] []
    rfl (fun _ h => absurd h List.not_mem_nil) rfl rfl
  rwa [embedding, start, Database.put_put] at hadded

/-- A record without a name and a document that is no entry change nothing, and a number among the
entries takes them away. -/
theorem load_embedding_malformed :
    { embedding [deepseekEntry] with
        database := (embedding [deepseekEntry]).database.put providers
          [⟨[("name", .null), ("is_active", .boolean true)]⟩] }.load.1
        = (embedding [deepseekEntry]).load.1 ∧
      (embedding [deepseekEntry, .document [("provider", .int32 5)]]).load.1
        = (embedding [deepseekEntry]).load.1 ∧
      (embedding [deepseekEntry, .int32 5]).load.1 = [] := by
  obtain ⟨cause, hrecord⟩ : ∃ cause, ProviderRecord.decode
      ⟨[("name", .null), ("is_active", .boolean true)]⟩ = .error cause := ⟨_, rfl⟩
  obtain ⟨cause', hentry⟩ : ∃ cause, ConfigEntry.ofElement (.document [("provider", .int32 5)])
      = .error cause := ⟨_, rfl⟩
  obtain ⟨cause'', hnumber⟩ : ∃ cause, ConfigEntry.ofElement (.int32 5) = .error cause := ⟨_, rfl⟩
  refine ⟨?_, ?_, ?_⟩
  · have hadded := @RecordAdded.intro ⟨[("name", .null), ("is_active", .boolean true)]⟩
      (embedding [deepseekEntry]).database [] [] rfl
    exact (load_with_malformed (embedding [deepseekEntry]) _).1 _ _ hrecord hadded
  · exact ((load_with_malformed (embedding [deepseekEntry]) _).2 _ _ hentry
      (entryAdded_embedding _)).trans (if_pos (by decide +kernel))
  · refine ((load_with_malformed (embedding [deepseekEntry]) _).2 _ _ hnumber
      (entryAdded_embedding _)).trans ((if_neg (by decide +kernel)).trans ?_)
    decide +kernel

/-- A malformed element may cost the others their place. -/
theorem lost_beside_number :
    (∃ cause, ConfigEntry.ofElement (.int32 5) = .error cause) ∧
      EntryAdded (.int32 5) (embedding [deepseekEntry]).database
        (embedding [deepseekEntry, .int32 5]).database ∧
      (embedding [deepseekEntry, .int32 5]).load.1 ≠ (embedding [deepseekEntry]).load.1 := by
  refine ⟨⟨_, rfl⟩, entryAdded_embedding _, fun hsame => ?_⟩
  have hlost : (embedding [deepseekEntry, .int32 5]).load.1.length = 0 := by decide +kernel
  have hkept : (embedding [deepseekEntry]).load.1.length = 1 := by decide +kernel
  rw [hsame, hkept] at hlost
  exact nomatch hlost

end Session

end ProviderRegistry
