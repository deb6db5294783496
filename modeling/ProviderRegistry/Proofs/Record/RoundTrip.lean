/-
# `Proofs.Record.RoundTrip` — what is written can be read, and read back as it was

The two kinds of records that the program writes are the flat records of a
migration and the provider records of an operator.  A flat record comes back
from its document field for field, and a provider record does once it has been
read from some document.  So nothing that the program writes is lost to it.

## What is proved

    a migration, wherever it is stopped, has left the destination as it was or
      filled it with first records of its own       (`Migration.filled_stop_migrate`)
    one that has ended has filled it                (`Migration.filled_of_migrate`)
    a creation adds at most a record that decodes   (`Session.decodes_of_upsert`)

and, with both round trips, `records_roundTrip`.
-/
import ProviderRegistry.Proofs.Admin.Failure
import ProviderRegistry.Proofs.Migration.Destination
import ProviderRegistry.Proofs.Record.Provider

namespace ProviderRegistry

open Collections

/-! ## Records that are migrated -/

theorem Filled.decodes {documents : List Document} (h : Filled documents) :
    ∀ d ∈ documents, ∃ r, SimplifiedConfig.decode d = .ok r := by
  obtain ⟨records, rfl, hresolved, -⟩ := h
  intro d hd
  obtain ⟨r, hr, rfl⟩ := List.mem_map.mp hd
  exact ⟨r, SimplifiedConfig.decode_encode (hresolved r hr)⟩

namespace Migration

section Stopped

variable {db : Database}

/-- The destination is what it was in `db`, or it is filled. -/
def UntouchedOrFilled (db left : Database) : Prop :=
  left.documents simplified = db.documents simplified ∨ Filled (left.documents simplified)

theorem untouchedOrFilled_of_alike {left after : Database} {s : String → Prop} (hs : s simplified)
    (halike : left.Alike s after) (h : UntouchedOrFilled db left) : UntouchedOrFilled db after := by
  unfold UntouchedOrFilled
  rw [halike.documents simplified hs]
  exact h

/-- Stopped while it clears the destination or fills it again. -/
theorem filled_stop_refill {α : Type} {ds : List Document} (hds : Filled ds)
    (hids : ∀ d ∈ ds, (d.get? "_id").isSome) (value : α) {left : Database}
    (h : UntouchedOrFilled db left) (n : Nat) :
    UntouchedOrFilled db ((Script.deleteAll simplified Document.empty >>= fun _ =>
      Script.insertAll simplified ds >>= fun _ => pure value).stop n left) := by
  refine Script.stop_bind_of (fun n => ?_) (fun cleared after hclear n => ?_) n
  · rcases Script.stop_call (.deleteAll simplified Document.empty) n left with hstop | hstop
    · rw [Script.deleteAll, hstop]
      exact h
    · rw [Script.deleteAll, hstop, ← Script.deleteAll]
      rcases documents_clear left simplified with ⟨e, after, hrun, hafter⟩
        | ⟨k, after, hrun, hafter⟩
      · rw [hrun]
        unfold UntouchedOrFilled
        rw [hafter]
        exact h
      · rw [hrun]
        unfold UntouchedOrFilled
        rw [hafter]
        exact .inr .nil
  · obtain ⟨-, rfl⟩ := Script.ok_of_run_deleteAll hclear
    rw [Script.stop_bind_pure]
    obtain ⟨k, hk⟩ := Script.documents_stop_insertAll simplified hids n (left.put simplified [])
    unfold UntouchedOrFilled
    rw [hk, Database.documents_put_self, List.nil_append]
    exact .inr (hds.take k)

/-- Wherever a migration is stopped, it has not come to the destination, or it has filled it with
first records of those that it has merged. -/
theorem filled_stop_migrate (now : DateTime) (force : Bool) (n : Nat) (db : Database) :
    UntouchedOrFilled db ((migrate now force).stop n db) := by
  have hspared : ∀ c ∈ legacy, backupOf c ≠ simplified := fun c hc => (simplified_ne c hc).2
  refine Script.stop_bind_of (fun n => ?_) (fun report middle hrun n => ?_) n
  · exact untouchedOrFilled_of_alike hspared (spares_backup.alike_stop n db) (.inl rfl)
  have hmiddle := untouchedOrFilled_of_alike hspared (spares_backup.alike_run db) (.inl rfl)
  rw [hrun] at hmiddle
  rw [rebuild_eq]
  have hreads := (reads_survey force).spares fun _ => True
  refine Script.stop_bind_of (fun n => ?_) (fun found surveyed hsurvey n => ?_) n
  · exact untouchedOrFilled_of_alike trivial (hreads.alike_stop n middle) hmiddle
  obtain ⟨rfl, -⟩ := ok_of_run_survey hsurvey
  have hsurveyed := untouchedOrFilled_of_alike trivial (hreads.alike_run middle) hmiddle
  rw [hsurvey] at hsurveyed
  have hdraws := spares_mergeAll (s := fun _ => True) (Survey.of middle).lookup now
    (Survey.of middle).configs
  refine Script.stop_bind_of (fun n => ?_) (fun merged drawn hmerged n => ?_) n
  · exact untouchedOrFilled_of_alike trivial (hdraws.alike_stop n surveyed) hsurveyed
  have hdrawn := untouchedOrFilled_of_alike trivial (hdraws.alike_run surveyed) hsurveyed
  rw [hmerged] at hdrawn
  rw [run_mergeAll] at hmerged
  obtain rfl := Except.ok.inj (Prod.mk.inj hmerged).1
  have hrecords := Filled.assigned
    (Survey.resolved_merged middle now fun i => surveyed.ids (surveyed.drawn + i))
  refine filled_stop_refill hrecords (fun d hd => ?_) _ hdrawn n
  obtain ⟨r, -, rfl⟩ := List.mem_map.mp hd
  rfl

/-- A migration that has ended has filled the destination. -/
theorem filled_of_migrate {now : DateTime} {force : Bool} {after : Database}
    {report : MigrationReport} (h : (migrate now force).run db = (.ok report, after)) :
    Filled (after.documents simplified) := by
  obtain ⟨_, middle, -, hrebuild⟩ := Script.ok_of_run_bind h
  rw [rebuild_eq] at hrebuild
  obtain ⟨found, surveyed, hsurvey, hfill⟩ := Script.ok_of_run_bind hrebuild
  obtain ⟨rfl, -⟩ := ok_of_run_survey hsurvey
  rw [ok_of_run_fill hfill]
  exact Filled.assigned
    (Survey.resolved_merged middle now fun i => surveyed.ids (surveyed.drawn + i))

end Stopped

end Migration

/-! ## Records that are created -/

namespace Session

/-- The read after an edit leaves the documents as they are, and so does an edit that fails. -/
theorem documents_upsert (s : Session) (now : Moment) (e : ConfigEdit) (c : String) :
    (s.upsert now e).2.database.documents c = ((e.write now).run s.database).2.documents c := by
  unfold upsert run
  rcases hrun : (e.write now).run s.database with ⟨error | id, after⟩
  · rfl
  · have hreads := ConfigEdit.reads_readBack (s := (· = providers)) rfl id now
    exact ((hreads.spares fun _ => True).alike_run after).documents c trivial

/-- A creation adds a record that decodes, or nothing. -/
theorem decodes_of_upsert (s : Session) (now : Moment) {e : ConfigEdit} (hid : e.id = none) :
    (s.upsert now e).2.database.documents providers = s.database.documents providers ∨
      ∃ d p, (s.upsert now e).2.database.documents providers
          = s.database.documents providers ++ [d] ∧ ProviderRecord.decode d = .ok p := by
  rw [documents_upsert]
  rcases hrun : (e.write now).run s.database with ⟨error | id, after⟩
  · have hkept := e.allOrNothing_write now (fun _ => True) s.database after error hrun
    exact .inl (hkept.documents providers trivial)
  · obtain ⟨-, -, hwrote⟩ := ConfigEdit.wrote_of_run_write hrun
    cases hwrote with
    | changed hnamed => exact nomatch hid.symm.trans hnamed
    | created hfree =>
        rename_i oid
        obtain ⟨p, hp⟩ := e.decode_creation now oid
        exact .inr ⟨_, p, Database.documents_put_self _ _ _, hp⟩

end Session

/-! ## Both kinds of records -/

/-- A flat record whose time of creation has no key that starts with `$` is what its document stands
for, and a provider record that has been read from a document is what its own document stands for.
Where a migration has changed the destination, and where it has ended, every document there decodes,
and so does the one that a creation adds to the provider records. -/
theorem records_roundTrip :
    (∀ r : SimplifiedConfig, r.createdAt.undollared = true →
      SimplifiedConfig.decode r.encode = .ok r) ∧
    (∀ (d : Document) (p : ProviderRecord), ProviderRecord.decode d = .ok p →
      ProviderRecord.decode p.encode = .ok p) ∧
    (∀ (now : DateTime) (force : Bool) (n : Nat) (db : Database),
      ((Migration.migrate now force).stop n db).documents simplified = db.documents simplified ∨
      ∀ d ∈ ((Migration.migrate now force).stop n db).documents simplified,
        ∃ r, SimplifiedConfig.decode d = .ok r) ∧
    (∀ (now : DateTime) (force : Bool) (db after : Database) (report : MigrationReport),
      (Migration.migrate now force).run db = (.ok report, after) →
      ∀ d ∈ after.documents simplified, ∃ r, SimplifiedConfig.decode d = .ok r) ∧
    ∀ (s : Session) (now : Moment) (e : ConfigEdit), e.id = none →
      (s.upsert now e).2.database.documents providers = s.database.documents providers ∨
      ∃ d p, (s.upsert now e).2.database.documents providers
          = s.database.documents providers ++ [d] ∧ ProviderRecord.decode d = .ok p := by
  refine ⟨fun r hr => ?flat, fun d p hd => ?provider, fun now force n db => ?stopped,
    fun now force db after report h => ?ended, fun s now e hid => ?created⟩
  case flat => exact SimplifiedConfig.decode_encode (Bson.resolved_of_undollared hr)
  case provider => exact ProviderRecord.decode_encode (ProviderRecord.kept_of_decode hd)
  case stopped =>
    exact (Migration.filled_stop_migrate now force n db).imp_right Filled.decodes
  case ended => exact (Migration.filled_of_migrate h).decodes
  case created => exact s.decodes_of_upsert now hid

/-- A flat record whose time of creation is a document with a list in it. -/
def nestedRecord : SimplifiedConfig :=
  SimplifiedConfig.merge ⟨[], []⟩ ⟨0⟩ (ObjectId.ofNat 1)
    { LegacyConfig.blank with
      createdAt := some (.document [("at", .array [.double Double.two, .document []])]) }

/-- A provider whose identity and limit stand for other values, and whose further settings are a
list. -/
def writtenByHand : Document :=
  ⟨[("_id", .document [("$oid", .string "000000000000000000000001")]),
    ("name", .string "openai"),
    ("extra_config", .array [.string "gpt-4o"]),
    ("temperature", .null),
    ("max_tokens", .document [("$numberLong", .string "5")])]⟩

/-- Both are read back as they were; two configs are migrated, and a provider is created beside an
odd one, into documents that decode. -/
theorem roundTrip_writtenByHand :
    SimplifiedConfig.decode nestedRecord.encode = .ok nestedRecord ∧
    (∃ p, ProviderRecord.decode writtenByHand = .ok p ∧ ProviderRecord.decode p.encode = .ok p) ∧
    (∃ report after, (Migration.migrate ⟨0⟩ true).run Migration.twoConfigs = (.ok report, after) ∧
      ∀ d ∈ after.documents simplified, ∃ r, SimplifiedConfig.decode d = .ok r) ∧
    ∃ d p, (Session.oddSettings.upsert Session.epoch
        { Session.naming "openai" with id := none }).2.database.documents providers
          = [Session.oddRecord, d] ∧
      ProviderRecord.decode d = .ok p := by
  obtain ⟨hflat, hprovider, -, hended, hcreated⟩ := records_roundTrip
  refine ⟨hflat nestedRecord (by decide +kernel), ?_, ?_, ?_⟩
  · have hread : (ProviderRecord.decode writtenByHand).isOk = true := by decide +kernel
    cases hdecode : ProviderRecord.decode writtenByHand with
    | error e =>
        rw [hdecode] at hread
        exact nomatch hread
    | ok p => exact ⟨p, rfl, hprovider writtenByHand p hdecode⟩
  · have hok : ((Migration.migrate ⟨0⟩ true).outcome Migration.twoConfigs).isOk = true := by
      decide +kernel
    unfold Script.outcome at hok
    rcases hrun : (Migration.migrate ⟨0⟩ true).run Migration.twoConfigs with ⟨e | report, after⟩
    · rw [hrun] at hok
      exact nomatch hok
    · exact ⟨report, after, rfl, hended _ _ _ _ _ hrun⟩
  · rcases hcreated Session.oddSettings Session.epoch
      { Session.naming "openai" with id := none } rfl with hkept | hadded
    · have hlength : ((Session.oddSettings.upsert Session.epoch
          { Session.naming "openai" with id := none }).2.database.documents providers).length
            = 2 := by decide +kernel
      rw [hkept] at hlength
      exact nomatch hlength
    · exact hadded

end ProviderRegistry
