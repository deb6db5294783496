/-
# `Proofs.Admin.Probe` — what a probe sends, against what the resolver hands out

A probe makes its request of the stored record by itself, and not of the config
that the resolver makes of it.  Two rows of the table are read in two ways:

               the probe sends                the config has
    provider   the name as it stands          the name trimmed
    address    the first that is stored       the first that is not blank
    key        the stored key                 the same
    model      the one named on the record    the same

So a probe speaks for the config exactly where the name has no white space at its
ends and the first address that is stored, if there is one, is not blank.  Nothing
else in the record matters, and neither does the operators' preference, as long as
the record names a model itself.

An edit may leave either difference behind: it stores its name and its address as
it is given them, and only asks that the name be not blank.

## What is proved

    a probe of a stored record, field by field against its config   (`test_against_config`)
    a probe of what an edit has just created                        (`test_created`)
-/
import ProviderRegistry.Proofs.Admin.Failure
import ProviderRegistry.Proofs.Resolution.Stored

namespace ProviderRegistry

open Collections

namespace Probe

/-! ## The request of a record -/

section Request

variable {r : ProviderRecord} {key : String}

theorem ofRecord_of_key (h : Text.nonBlank r.apiKey = some key) :
    ofRecord r = .ready (requestFor r key) := by
  unfold ofRecord
  rw [h]

/-- A model that is named on the record is sent, and stands in the config. -/
theorem model_requestFor (h : r.explicitModel.isSome) (preferred : Option String) :
    (requestFor r key).model = (r.toConfig preferred).model := by
  obtain ⟨model, hmodel⟩ := Option.isSome_iff_exists.mp h
  rw [ProviderRecord.model_toConfig, requestFor, hmodel]
  rfl

theorem provider_requestFor_iff (preferred : Option String) :
    (requestFor r key).provider = (r.toConfig preferred).provider ↔ Text.Trimmed r.name :=
  eq_comm.trans Text.trim_eq_iff

theorem baseUrl_requestFor_iff (preferred : Option String) :
    (requestFor r key).baseUrl = (r.toConfig preferred).baseUrl
      ↔ ∀ url, (r.baseUrl <|> r.defaultBaseUrl) = some url → Text.isBlank url = false :=
  Text.orElse_eq_nonBlank_iff

end Request

/-- The probe of a record that is found and decodes. -/
theorem run_prepare {db : Database} {id : String} {oid : ObjectId} {d : Document}
    {r : ProviderRecord} (hid : parseId id = .ok oid) (husable : db.fault? providers = none)
    (hfound : (db.documents providers).find? (·.satisfies (idFilter (.objectId oid))) = some d)
    (hdecode : ProviderRecord.decode d = .ok r) :
    (prepare id).run db = (.ok (ofRecord r), db.counted) := by
  have hparse : (Script.ofOutcome (parseId id)).run db = (.ok oid, db) := by
    rw [hid]
    rfl
  unfold prepare
  rw [Script.run_bind_ok hparse, Script.run_bind_ok (Script.run_findFirst husable _), hfound]
  show (ofRecord <$> Script.ofDecoded (ProviderRecord.decode d)).run _ = _
  rw [hdecode]
  rfl

end Probe

/-- What an edit that names no record has written is a record of its own, under an identity that no
other has. -/
theorem ConfigEdit.Wrote.of_new {e : ConfigEdit} {now : Moment} {db after : Database} {id : Bson}
    (h : e.Wrote now db id after) (hnew : e.id = none) :
    ∃ oid, id = .objectId oid ∧
      (∀ other ∈ db.documents providers, other.satisfies (idFilter (.objectId oid)) = false) ∧
      after = db.drawId.2.put providers
        (db.documents providers ++ [(e.creation now).insert "_id" (.objectId oid)]) := by
  cases h with
  | changed hid _ _ =>
      rw [hnew] at hid
      exact nomatch hid
  | created hfree => exact ⟨_, rfl, hfree, rfl⟩

namespace Session

open Ledger

open Probe (prompt requestFor)

variable {s : Session} {rehearsal : Rehearsal}

/-! ## One probe -/

/-- A record with a key is probed by one call, which is that of its request. -/
theorem invoker_test (hinvoker : s.invoker = some rehearsal) {id : String} {oid : ObjectId}
    {d : Document} {r : ProviderRecord} {key : String} (hid : parseId id = .ok oid)
    (husable : s.database.fault? providers = none)
    (hfound : (s.database.documents providers).find? (·.satisfies (idFilter (.objectId oid)))
      = some d)
    (hdecode : ProviderRecord.decode d = .ok r) (hkey : Text.nonBlank r.apiKey = some key) :
    (s.test id).2.invoker
      = some { rehearsal with calls := rehearsal.calls ++ [(requestFor r key, prompt)] } := by
  have hprepare := Probe.run_prepare hid husable hfound hdecode
  rw [Probe.ofRecord_of_key hkey] at hprepare
  simp only [test, run, hprepare, hinvoker]
  rfl

/-- The probe of a stored record that decodes, has a key and names a model sends the model and the key
of its config.  It sends the provider of its config exactly where the stored name is trimmed, and the
address exactly where the first one that is stored, if there is any, is not blank. -/
theorem test_against_config (hinvoker : s.invoker = some rehearsal) {id : String} {oid : ObjectId}
    {d : Document} {r : ProviderRecord} (hid : parseId id = .ok oid)
    (husable : s.database.fault? providers = none)
    (hfound : (s.database.documents providers).find? (·.satisfies (idFilter (.objectId oid)))
      = some d)
    (hdecode : ProviderRecord.decode d = .ok r) (hkey : (Text.nonBlank r.apiKey).isSome)
    (hmodel : r.explicitModel.isSome) (preferred : Option String) :
    ∃ request, (s.test id).2.invoker
        = some { rehearsal with calls := rehearsal.calls ++ [(request, prompt)] } ∧
      request.model = (r.toConfig preferred).model ∧
      request.apiKey = (r.toConfig preferred).apiKey ∧
      (request.provider = (r.toConfig preferred).provider ↔ Text.Trimmed r.name) ∧
      (request.baseUrl = (r.toConfig preferred).baseUrl
        ↔ ∀ url, (r.baseUrl <|> r.defaultBaseUrl) = some url → Text.isBlank url = false) := by
  obtain ⟨key, hkey⟩ := Option.isSome_iff_exists.mp hkey
  exact ⟨requestFor r key, invoker_test hinvoker hid husable hfound hdecode hkey,
    Probe.model_requestFor hmodel preferred, hkey.symm, Probe.provider_requestFor_iff preferred,
    Probe.baseUrl_requestFor_iff preferred⟩

/-! ## A probe after an edit -/

/-- A record that an edit has just created is probed under the name and the address of the edit, blank
or not and with whatever white space they have. -/
theorem test_created {now : Moment} {e : ConfigEdit} {view : ConfigView} {t : Session}
    (h : s.upsert now e = (.ok view, t)) (hnew : e.id = none) {key : String}
    (hkey : e.trimmedKey = some key) (hinvoker : s.invoker = some rehearsal) :
    ∃ oid, ∀ id, parseId id = .ok oid → ∃ request,
      (t.test id).2.invoker
        = some { rehearsal with calls := rehearsal.calls ++ [(request, prompt)] } ∧
      request.provider = e.name ∧ request.model = e.model ∧ request.apiKey = some key ∧
      request.baseUrl = e.baseUrl := by
  unfold upsert at h
  rcases hrun : s.run (e.write now) with ⟨refusal | written, middle⟩
  · rw [hrun] at h
    exact nomatch (Prod.mk.inj h).1
  · rw [hrun] at h
    obtain ⟨houtcome, rfl⟩ := Prod.mk.inj hrun
    obtain ⟨haccepted, husable, hwrote⟩ := ConfigEdit.wrote_of_run_write (Prod.ext houtcome rfl)
    obtain ⟨oid, rfl, hfree, hwritten⟩ := hwrote.of_new hnew
    have husable' : s.database.drawId.2.fault? providers = none := husable
    have hfirst := e.firstMatch_creation now hfree
    have hread := ConfigEdit.run_readBack now husable' hfirst
    simp only [run, invalidate, hwritten, hread] at h
    obtain ⟨-, rfl⟩ := Prod.mk.inj h
    have hstored : Text.nonBlank e.trimmedKey = some key :=
      (Text.nonBlank_nonBlank _).trans hkey
    refine ⟨oid, fun id hid => ⟨requestFor (Entry.created oid now e).record key, ?_, rfl, ?_, rfl, ?_⟩⟩
    · have hfound := FirstMatch.iff_find?.mp ⟨_, _, hfirst⟩
      exact invoker_test (s := ⟨_, s.environment, none, s.invoker⟩) hinvoker hid husable hfound
        (Entry.created oid now e).decode_document hstored
    · have hmodel : Text.nonBlank (some e.model) = some e.model :=
        Text.nonBlank_some (ConfigEdit.accepted_of_fault? haccepted).model
      show ((Text.nonBlank (some e.model) <|> _).getD _) = e.model
      rw [hmodel]
      rfl
    · show (e.baseUrl <|> none) = e.baseUrl
      cases e.baseUrl <;> rfl

/-- An edit whose name has white space at its ends, and whose address is blank. -/
def padded : ConfigEdit where
  name := " openai "
  displayName := "OpenAI"
  model := "gpt-4o"
  apiKey := some "sk-abc123"
  baseUrl := some " "

/-- A registry without records in which that edit has been made. -/
def paddedSession : Session :=
  ((start (Database.empty ObjectId.ofNat) Environment.empty (some ⟨.ok "ok", []⟩)).upsert epoch
    padded).2

theorem documents_paddedSession : paddedSession.database.documents providers
    = [(Entry.created (ObjectId.ofNat 0) epoch padded).document] := rfl

theorem found_paddedSession : (paddedSession.database.documents providers).find?
      (·.satisfies (idFilter (.objectId (ObjectId.ofNat 0))))
    = some (Entry.created (ObjectId.ofNat 0) epoch padded).document := by
  rw [documents_paddedSession]
  exact List.find?_cons_of_pos (by rw [Entry.satisfies_document]; rfl)

theorem parseId_first : parseId "000000000000000000000000" = .ok (ObjectId.ofNat 0) :=
  parseId_of_some (by decide +kernel)

/-- The model and the key of the probe are those of the config, and neither the provider nor the
address is. -/
theorem test_paddedSession :
    ∃ request config,
      config = (Entry.created (ObjectId.ofNat 0) epoch padded).record.toConfig none ∧
      (paddedSession.test "000000000000000000000000").2.invoker
        = some ⟨.ok "ok", [(request, prompt)]⟩ ∧
      request.model = config.model ∧ request.apiKey = config.apiKey ∧
      request.provider ≠ config.provider ∧ request.baseUrl ≠ config.baseUrl := by
  obtain ⟨request, hcall, hmodel, hkey, hprovider, hbaseUrl⟩ :=
    test_against_config (s := paddedSession) rfl parseId_first rfl found_paddedSession
      (Entry.decode_document _) (by decide +kernel) (by decide +kernel) none
  refine ⟨request, _, rfl, hcall, hmodel, hkey, fun heq => ?_, fun heq => ?_⟩
  · have hfirst := (hprovider.mp heq).first ' ' rfl
    exact absurd hfirst (by decide)
  · have hblank := hbaseUrl.mp heq " " rfl
    exact absurd hblank (by decide)

/-- An edit can leave a record whose probe asks another provider, at another address, than its
config. -/
theorem probed_unlike_resolved :
    ∃ d r request, paddedSession.database.documents providers = [d] ∧
      ProviderRecord.decode d = .ok r ∧ (Text.nonBlank r.apiKey).isSome ∧ r.explicitModel.isSome ∧
      (paddedSession.test "000000000000000000000000").2.invoker
        = some ⟨.ok "ok", [(request, prompt)]⟩ ∧
      request.provider = " openai " ∧ (r.toConfig none).provider = "openai" ∧
      request.baseUrl = some " " ∧ (r.toConfig none).baseUrl = none := by
  refine ⟨_, (Entry.created (ObjectId.ofNat 0) epoch padded).record,
    requestFor (Entry.created (ObjectId.ofNat 0) epoch padded).record "sk-abc123",
    documents_paddedSession, Entry.decode_document _, by decide +kernel, by decide +kernel, ?_, rfl,
    by decide +kernel, rfl, by decide +kernel⟩
  exact invoker_test (s := paddedSession) rfl parseId_first rfl found_paddedSession
    (Entry.decode_document _) (by decide +kernel)

end Session

end ProviderRegistry
