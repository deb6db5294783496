/-
# `Proofs.Resolution.Stored` — what configs come of the records that operators keep

The operators' requests write a record with its flag in two places, its numbers
at full width, and its blanks as they are; the resolver reads one of the flags,
holds numbers within its limits and passes over blanks.  They meet in the
middle: a request is only accepted within rules that are at least as narrow as
the limits (`ConfigEdit.Accepted`), so every entry of a ledger is `Sound`, and
what it resolves to is what was last written, with the numbers cut off at 32
bits (`Entry.config`).

## What is proved

After any requests to an available database that had no provider records, a
fresh load gives the configs of the enabled entries, in the order of their
creation, if there are any; and otherwise what it gives without provider
records (`load_after_requests`).
-/
import ProviderRegistry.Proofs.Admin.Refinement
import ProviderRegistry.Proofs.Resolution.Limits

namespace ProviderRegistry

open Collections

/-! ## Within the limits already -/

namespace Double

/-- A number between two others is left alone by them. -/
theorem clamp_of_between {x low high : Double} (h : Between low high x) :
    x.clamp low high = x := by
  obtain ⟨-, hlow, hhigh⟩ := h
  have habove : ¬ x.lt low = true := fun hlt => by
    have hle := ((le_iff low x).mp hlow).2.2
    have hrank := ((lt_iff x low).mp hlt).2.2
    omega
  have hbelow : ¬ high.lt x = true := fun hlt => by
    have hle := ((le_iff x high).mp hhigh).2.2
    have hrank := ((lt_iff high x).mp hlt).2.2
    omega
  simp [clamp, habove, hbelow]

theorem isFinite_of_between {x : Double} (h : Between (zero false) two x) : x.isFinite = true := by
  obtain ⟨-, hlow, hhigh⟩ := h
  have hlow := ((le_iff _ _).mp hlow).2.2
  have hhigh := ((le_iff _ _).mp hhigh).2.2
  have hzero : (zero false).rank = 0 := by decide
  have htwo : two.rank = 0x4000000000000000 := by decide
  rw [hzero] at hlow
  rw [htwo] at hhigh
  have hmagnitude : x.magnitude.val < 0x7ff0000000000000 := by
    unfold rank at hlow hhigh
    cases hnegative : x.negative with
    | true =>
        -- only zero is not below zero
        simp only [hnegative, if_true] at hlow
        omega
    | false =>
        simp only [hnegative, Bool.false_eq_true, if_false] at hhigh
        omega
  exact decide_eq_true hmagnitude

end Double

/-! ## Accepted requests -/

/-- The rules that a request is held to. -/
structure ConfigEdit.Accepted (e : ConfigEdit) : Prop where
  name : Text.isBlank e.name = false
  model : Text.isBlank e.model = false
  temperature : Double.Between (Double.zero false) Double.two e.temperature
  maxTokens : 1 ≤ e.maxTokens.toInt
  timeout : 1 ≤ e.timeout.toInt

theorem ConfigEdit.accepted_of_fault? {e : ConfigEdit} (h : e.fault? = none) : e.Accepted := by
  unfold fault? at h
  split at h
  · exact nomatch h
  rename_i hname
  split at h
  · exact nomatch h
  rename_i hmodel
  split at h
  · exact nomatch h
  rename_i htemperature
  split at h
  · exact nomatch h
  rename_i hmaxTokens
  split at h
  · exact nomatch h
  rename_i htimeout
  have hpositive : ∀ n : Int64, ¬ n < 1 → 1 ≤ n.toInt := by
    intro n hn
    rw [Int64.lt_iff_toInt_lt] at hn
    have hone : (1 : Int64).toInt = 1 := by decide
    omega
  have hbetween : (Double.zero false).le e.temperature = true ∧ e.temperature.le Double.two = true := by
    simpa using htemperature
  exact {
    name := by simpa using hname
    model := by simpa using hmodel
    temperature := ⟨((Double.le_iff _ _).mp hbetween.2).1, hbetween.1, hbetween.2⟩
    maxTokens := hpositive _ hmaxTokens
    timeout := hpositive _ htimeout }

/-! ## Entries -/

namespace Ledger

namespace Entry

/-- What holds of every entry, since every request that has written it was accepted. -/
structure Sound (r : Entry) : Prop where
  model : Text.isBlank r.model = false
  apiKey : ∀ key, r.apiKey = some key → Text.isBlank key = false
  temperature : Double.Between (Double.zero false) Double.two r.temperature
  maxTokens : 1 ≤ r.maxTokens.toInt
  timeout : 1 ≤ r.timeout.toInt

theorem sound_created (id : ObjectId) (now : Moment) {e : ConfigEdit} (h : e.Accepted) :
    (created id now e).Sound where
  model := h.model
  apiKey := Text.nonBlank_not_isBlank _
  temperature := h.temperature
  maxTokens := h.maxTokens
  timeout := h.timeout

theorem sound_edited (now : Moment) {e : ConfigEdit} (h : e.Accepted) {r : Entry} (hr : r.Sound) :
    (r.edited now e).Sound where
  model := h.model
  apiKey := Text.not_isBlank_orElse (Text.nonBlank_not_isBlank _) hr.apiKey
  temperature := h.temperature
  maxTokens := h.maxTokens
  timeout := h.timeout

/-- A number of 64 bits cut off at 32. -/
def word (n : Int64) : UInt32 := UInt32.ofNat (min n.toInt 4294967295).toNat

/-- What an enabled entry resolves to. -/
def config (r : Entry) : LlmConfig where
  provider := Text.trim r.name
  model := r.model
  apiKey := r.apiKey
  baseUrl := Text.nonBlank r.baseUrl
  temperature := r.temperature
  maxTokens := word r.maxTokens
  timeout := word r.timeout
  enabled := true

/-- An entry that is sound and enabled resolves to what was last written, whatever is preferred. -/
theorem toConfig_record {r : Entry} (h : r.Sound) (henabled : r.enabled = true)
    (preferred : Option String) : r.record.toConfig preferred = r.config := by
  have hpositive : ∀ n : Int64, 1 ≤ n.toInt → LlmConfig.clampPositive n = word n := by
    intro n hn
    have hmax : max 1 (min n.toInt 4294967295) = min n.toInt 4294967295 := by omega
    rw [LlmConfig.clampPositive, hmax, word]
  have htemperature : LlmConfig.clampTemperature (some r.temperature) = r.temperature := by
    have hfinite : (some r.temperature).filter Double.isFinite = some r.temperature :=
      Option.filter_eq_some_iff.mpr ⟨rfl, Double.isFinite_of_between h.temperature⟩
    rw [LlmConfig.clampTemperature, hfinite]
    exact Double.clamp_of_between h.temperature
  have hmodel : Text.nonBlank (some r.model) = some r.model :=
    Text.nonBlank_of_not_isBlank fun t ht => Option.some.inj ht ▸ h.model
  have hapiKey : Text.nonBlank r.apiKey = r.apiKey := Text.nonBlank_of_not_isBlank h.apiKey
  have hbaseUrl : (Text.nonBlank r.baseUrl <|> Text.nonBlank none) = Text.nonBlank r.baseUrl := by
    cases Text.nonBlank r.baseUrl <;> rfl
  have hactive : r.record.active = true := henabled
  unfold ProviderRecord.toConfig config
  rw [hactive]
  simp only [record, ProviderRecord.explicitModel, LlmConfig.tuned, LlmConfig.new, Option.bind_some,
    Bson.toDouble?, Bson.toInt64?, Option.getD_some, htemperature, hmodel, hapiKey, hbaseUrl,
    hpositive _ h.maxTokens, hpositive _ h.timeout]
  rfl

end Entry

/-- Every entry of the ledger is sound. -/
def Sound (m : Ledger) : Prop := ∀ r ∈ m.entries, r.Sound

theorem sound_serve {m : Ledger} (hm : m.Sound) (request : Request) : (m.serve request).2.Sound := by
  intro r hr
  cases (m.served_serve request).origin hr with
  | kept hr => exact hm r hr
  | created haccepted => exact Entry.sound_created _ _ (ConfigEdit.accepted_of_fault? haccepted)
  | edited haccepted hother =>
      exact Entry.sound_edited _ (ConfigEdit.accepted_of_fault? haccepted) (hm _ hother)

theorem sound_serveAll {m : Ledger} (hm : m.Sound) (requests : List Request) :
    (m.serveAll requests).2.Sound := by
  induction requests generalizing m with
  | nil => exact hm
  | cons request rest ih => exact ih (sound_serve hm request)

/-- The entries in use, in the order of their creation. -/
def inUse (m : Ledger) : List Entry := m.entries.filter (·.enabled)

/-- The provider records of a database give the configs of the entries in use. -/
theorem Represents.providerTier_eq {m : Ledger} {db : Database} (h : m.Represents db)
    (hm : m.Sound) : Resolution.providerTier db = m.inUse.map Entry.config := by
  have hactive : Resolution.activeDocuments db providers = m.inUse.map Entry.document := by
    unfold Resolution.activeDocuments
    simp only [h.available.fault? providers, h.documents, List.filter_map]
    rfl
  rw [Resolution.providerTier, hactive, decodable_documents, List.map_map]
  refine List.map_congr_left fun r hr => ?_
  obtain ⟨hmem, henabled⟩ := List.mem_filter.mp hr
  exact Entry.toConfig_record (hm r hmem) henabled _

end Ledger

namespace Session

open Resolution

/-- The system documents do not change with the provider records. -/
theorem systemTier_put (db : Database) (documents : List Document) :
    systemTier (db.put providers documents) = systemTier db := by
  have hne : systemConfigs ≠ providers := by decide
  have hdocuments : activeDocuments (db.put providers documents) systemConfigs
      = activeDocuments db systemConfigs := by
    unfold activeDocuments
    rw [Database.documents_put_ne db hne]
    rfl
  unfold systemTier activeSystem
  rw [hdocuments]

theorem providerTier_put_nil (db : Database) : providerTier (db.put providers []) = [] := by
  have hnone : activeDocuments (db.put providers []) providers = [] := by
    unfold activeDocuments
    rw [Database.documents_put_self]
    split <;> rfl
  rw [providerTier, hnone]
  rfl

/-- After any requests a fresh load gives the configs of the entries in use, in the order of their
creation; where there is none, it gives what it gives without provider records. -/
theorem load_after_requests (s : Session) (h : s.database.Available)
    (hempty : s.database.documents providers = []) (requests : List Ledger.Request) :
    (((Ledger.opened s.database).serveAll requests).2.inUse ≠ [] →
      (s.serveAll requests).2.load.1
        = ((Ledger.opened s.database).serveAll requests).2.inUse.map Ledger.Entry.config) ∧
    (((Ledger.opened s.database).serveAll requests).2.inUse = [] →
      (s.serveAll requests).2.load.1
        = { (s.serveAll requests).2 with
            database := (s.serveAll requests).2.database.put providers [] : Session }.load.1) := by
  have hsound : (Ledger.opened s.database).Sound := fun r hr => absurd hr List.not_mem_nil
  obtain ⟨-, hleft⟩ := (Ledger.represents_opened h hempty).serveAll requests
  have htier := hleft.providerTier_eq (Ledger.sound_serveAll hsound requests)
  generalize ((Ledger.opened s.database).serveAll requests).2 = m at htier ⊢
  generalize (s.serveAll requests).2 = left at htier ⊢
  refine ⟨fun hne => ?_, fun hnil => ?_⟩
  · have hconfigs : m.inUse.map Ledger.Entry.config ≠ [] := fun hnil =>
      hne (List.map_eq_nil_iff.mp hnil)
    rw [load_eq, htier, firstNonempty_cons_of_ne_nil hconfigs]
  · rw [hnil, List.map_nil] at htier
    rw [load_eq, load_eq, htier, providerTier_put_nil, systemTier_put]

/-- Of two records, one of them disabled, the other is loaded; once that is deleted as well, the
environment has its turn. -/
theorem load_after_someRequests :
    Ledger.emptySession.database.Available ∧
    Ledger.emptySession.database.documents providers = [] ∧
    (Ledger.emptySession.serveAll Ledger.someRequests).2.load.1.map
        (fun c => (c.provider, c.apiKey, c.maxTokens)) = [("openai", some "sk-0123456789", 4000)] ∧
    (Ledger.emptySession.serveAll
        (Ledger.someRequests ++ [.delete "000000000000000000000001"])).2.load.1 = [] := by
  have havailable : Ledger.emptySession.database.Available := ⟨rfl, rfl⟩
  refine ⟨havailable, rfl, ?_, ?_⟩
  · have hload := (load_after_requests Ledger.emptySession havailable rfl Ledger.someRequests).1
    have hone : (((Ledger.opened Ledger.emptySession.database).serveAll
        Ledger.someRequests).2.inUse.map Ledger.Entry.config).map
          (fun c => (c.provider, c.apiKey, c.maxTokens))
            = [("openai", some "sk-0123456789", 4000)] := by decide +kernel
    rw [hload fun hnil => by simp [hnil] at hone]
    exact hone
  · have hload := (load_after_requests Ledger.emptySession havailable rfl
      (Ledger.someRequests ++ [.delete "000000000000000000000001"])).2
    rw [hload (List.isEmpty_iff.mp (by decide +kernel))]
    exact List.isEmpty_iff.mp (by decide +kernel)

end Session

end ProviderRegistry
