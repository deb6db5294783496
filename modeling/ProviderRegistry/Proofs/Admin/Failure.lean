/-
# `Proofs.Admin.Failure` — what an edit or a deletion that fails leaves behind

A deletion that fails has found nothing to delete, or has not been allowed to
look.  An edit fails in more places.  Its checks and its write come first, and
where one of them fails nothing has been written (`Proofs.Admin.Edit`).  But
when the write has gone through, the cache is emptied and the record is read
back, and that can fail in its turn: the record that is changed was looked up
and not decoded before, and it keeps the fields that the edit does not set.

## What is proved

A record that has just been created can always be read back, and so can a
record that has been changed, unless it does not decode with the changes on it
(`Strands`).  So an edit that fails has changed nothing, or it strands, and an
edit that strands has set its fields and emptied the cache
(`Session.unchanged_or_strands_of_failure`).
-/
import ProviderRegistry.Proofs.Admin.Edit
import ProviderRegistry.Proofs.Fields
import ProviderRegistry.Proofs.Store.Identities
import ProviderRegistry.Session

namespace ProviderRegistry

open Collections

/-! ## The first match -/

/-- Documents cut at the first match of a filter. -/
structure FirstMatch (filter : Document) (documents before : List Document) (d : Document)
    (after : List Document) : Prop where
  cut : documents = before ++ d :: after
  noneBefore : ∀ other ∈ before, other.satisfies filter = false
  satisfies : d.satisfies filter = true

namespace FirstMatch

variable {filter d other : Document} {documents before after : List Document}

theorem iff_find? :
    (∃ before after, FirstMatch filter documents before d after)
      ↔ documents.find? (·.satisfies filter) = some d := by
  rw [List.find?_eq_some_iff_append]
  constructor
  · rintro ⟨before, after, hcut, hbefore, hd⟩
    exact ⟨hd, before, after, hcut, fun other hother => by simp [hbefore other hother]⟩
  · rintro ⟨hd, before, after, hcut, hbefore⟩
    exact ⟨before, after, hcut, fun other hother => by simpa using hbefore other hother, hd⟩

/-- Another document that matches may stand in the place of the first match. -/
theorem replace (h : FirstMatch filter documents before d after)
    (hother : other.satisfies filter = true) :
    FirstMatch filter (before ++ other :: after) before other after :=
  ⟨rfl, h.noneBefore, hother⟩

/-- Setting fields on the first match changes it in its place. -/
theorem updateFirst_eq (h : FirstMatch filter documents before d after) (fields : Document) :
    Database.updateFirst filter fields documents = some (before ++ d.merge fields :: after) := by
  obtain ⟨rfl, hbefore, hd⟩ := h
  induction before with
  | nil => simp [Database.updateFirst, hd]
  | cons first rest ih =>
      have hfirst : first.satisfies filter = false := hbefore first List.mem_cons_self
      have hrest := ih fun other hother => hbefore other (List.mem_cons_of_mem first hother)
      simp [Database.updateFirst, hfirst, hrest]

end FirstMatch

namespace Script

variable {db : Database} {c : String} {filter : Document}

theorem run_findFirst (husable : db.fault? c = none) (filter : Document) :
    (findFirst c filter).run db
      = (.ok ((db.documents c).find? (·.satisfies filter)), db.counted) := by
  refine (run_bind_ok (run_find husable filter)).trans ?_
  rw [Database.findIn, List.head?_filter]
  rfl

theorem usable_of_findFirst {d? : Option Document} {after : Database}
    (h : (findFirst c filter).run db = (.ok d?, after)) : db.fault? c = none := by
  obtain ⟨found, _, hfind, -⟩ := ok_of_run_bind h
  exact usable_of_run_call (.inl rfl) hfind

end Script

/-! ## Documents under an identity -/

theorem Document.satisfies_idFilter (d : Document) (id : Bson) :
    d.satisfies (idFilter id) = (d.get? "_id").any (·.same id) := by
  unfold satisfies idFilter
  simp only [List.all_cons, List.all_nil, Bool.and_true]
  cases d.get? "_id" <;> rfl

/-- An identity is held where the filter for it finds something. -/
theorem Database.holds_iff_satisfies {db : Database} {c : String} {id : Bson} :
    db.Holds c id ↔ ∃ other ∈ db.documents c, other.satisfies (idFilter id) = true := by
  simp only [Holds, Document.satisfies_idFilter, Option.any_eq_true, Option.mem_def]

namespace ConfigEdit

variable (e : ConfigEdit) (now : Moment)

/-- The fields that an edit sets do not identify the record. -/
theorem satisfies_merge_changes (d : Document) (id : Bson) :
    (d.merge (e.changes now)).satisfies (idFilter id) = d.satisfies (idFilter id) := by
  have habsent : "_id" ∉ Fields.keys (e.changes now).fields := by
    unfold changes
    cases e.trimmedKey <;> simp
  rw [Document.satisfies_idFilter, Document.satisfies_idFilter, d.get?_merge_of_not_mem habsent]

/-- What an edit creates decodes. -/
theorem decode_creation (oid : ObjectId) :
    ∃ r, ProviderRecord.decode ((e.creation now).insert "_id" (.objectId oid)) = .ok r := by
  unfold creation
  cases e.trimmedKey <;> cases e.baseUrl <;> exact ⟨_, rfl⟩

/-- So the record stays the first match of its identity. -/
theorem firstMatch_changes {id : Bson} {documents before after : List Document} {d : Document}
    (h : FirstMatch (idFilter id) documents before d after) :
    FirstMatch (idFilter id) (before ++ d.merge (e.changes now) :: after) before
      (d.merge (e.changes now)) after :=
  h.replace ((e.satisfies_merge_changes now d _).trans h.satisfies)

theorem firstMatch_creation {oid : ObjectId} {documents : List Document}
    (hfree : ∀ other ∈ documents, other.satisfies (idFilter (.objectId oid)) = false) :
    FirstMatch (idFilter (.objectId oid))
      (documents ++ [(e.creation now).insert "_id" (.objectId oid)]) documents
      ((e.creation now).insert "_id" (.objectId oid)) [] where
  cut := rfl
  noneBefore := hfree
  satisfies := by simp [Document.satisfies_idFilter, Bson.same]

/-! ## The write and the read after it -/

variable {db : Database}

/-- The write of an edit that names a record. -/
theorem run_write_of_firstMatch (haccepted : e.fault? = none) (husable : db.fault? providers = none)
    {id : String} (hid : e.id = some id) {oid : ObjectId} (hoid : parseId id = .ok oid)
    {before after : List Document} {d : Document}
    (h : FirstMatch (idFilter (.objectId oid)) (db.documents providers) before d after) :
    (e.write now).run db = (.ok (.objectId oid),
      db.counted.put providers (before ++ d.merge (e.changes now) :: after)) := by
  have hfind := FirstMatch.iff_find?.mp ⟨before, after, h⟩
  have hparse : (Script.ofOutcome (parseId id)).run db = (.ok oid, db) := by
    rw [hoid]
    rfl
  have hupdate : (Script.update providers (idFilter (.objectId oid)) (e.changes now)).run db.counted
      = (.ok true, db.counted.put providers (before ++ d.merge (e.changes now) :: after)) := by
    refine (Script.run_call (.update providers _ _) _).trans ?_
    have husable' : db.counted.fault? providers = none := husable
    simp only [Database.answer, Database.guarded, husable', Database.documents_counted,
      h.updateFirst_eq, Database.change]
  unfold write
  simp only [haccepted, hid]
  rw [Script.run_bind_ok hparse, Script.run_bind_ok (Script.run_findFirst husable _), hfind]
  exact Script.run_bind_ok hupdate

/-- The read after a write gives the view of the record, or why it does not decode. -/
theorem run_readBack (husable : db.fault? providers = none) {id : Bson}
    {documents before after : List Document} {d : Document}
    (h : FirstMatch (idFilter id) documents before d after) :
    (readBack id now).run (db.put providers documents)
      = (match ProviderRecord.decode d with
          | .ok r => .ok (ConfigView.ofRecord now r)
          | .error cause => .error (.document cause.message),
        (db.put providers documents).counted) := by
  have husable' : (db.put providers documents).fault? providers = none := husable
  have hfind := FirstMatch.iff_find?.mp ⟨before, after, h⟩
  unfold readBack
  rw [Script.run_bind_ok (Script.run_findFirst husable' _), Database.documents_put_self, hfind]
  show (ConfigView.ofRecord now <$> Script.ofDecoded (ProviderRecord.decode d)).run _ = _
  cases ProviderRecord.decode d <;> rfl

variable {e now}

/-- What an edit has written: the identity of the record, and the database after it. -/
inductive Wrote (e : ConfigEdit) (now : Moment) (db : Database) : Bson → Database → Prop
  /-- The record named by the edit has been changed in its place. -/
  | changed {id : String} {oid : ObjectId} {before after : List Document} {d : Document}
      (hid : e.id = some id) (hoid : parseId id = .ok oid)
      (hfirst : FirstMatch (idFilter (.objectId oid)) (db.documents providers) before d after) :
      Wrote e now db (.objectId oid)
        (db.counted.put providers (before ++ d.merge (e.changes now) :: after))
  /-- A record has been added under an identity that no other has. -/
  | created {oid : ObjectId}
      (hfree : ∀ other ∈ db.documents providers,
        other.satisfies (idFilter (.objectId oid)) = false) :
      Wrote e now db (.objectId oid) (db.drawId.2.put providers
        (db.documents providers ++ [(e.creation now).insert "_id" (.objectId oid)]))

/-- A creation that is not refused adds its record under a fresh identity. -/
theorem wrote_of_insertIn {id : Bson} {after : Database}
    (h : db.insertIn providers (e.creation now) = (.ok id, after)) : e.Wrote now db id after := by
  have hid : (e.creation now).get? "_id" = none := rfl
  obtain ⟨hfree, rfl, rfl⟩ := Database.insertIn_answered h
  rw [db.seedOne_of_none providers hid]
  rw [db.identify_of_none hid] at hfree ⊢
  refine .created fun other hother => ?_
  by_contra hfound
  exact hfree (Database.holds_iff_satisfies.mpr ⟨other, hother, by simpa using hfound⟩)

/-- A write goes through only where the edit is accepted and the records can be used. -/
theorem wrote_of_run_write {id : Bson} {after : Database}
    (h : (e.write now).run db = (.ok id, after)) :
    e.fault? = none ∧ db.fault? providers = none ∧ e.Wrote now db id after := by
  have hrun := h
  unfold write at hrun
  cases haccepted : e.fault? with
  | some fault =>
      simp only [haccepted] at hrun
      exact nomatch (Prod.mk.inj hrun).1
  | none =>
      refine ⟨rfl, ?_⟩
      cases hid : e.id with
      | none =>
          simp only [haccepted, hid] at hrun
          have hanswer := (Script.run_call (.insert providers (e.creation now)) db).symm.trans hrun
          exact ⟨Database.usable_of_guarded hanswer,
            wrote_of_insertIn (Database.guarded_answered hanswer)⟩
      | some text =>
          simp only [haccepted, hid] at hrun
          obtain ⟨oid, _, hparse, hfound⟩ := Script.ok_of_run_bind hrun
          obtain ⟨hoid, rfl⟩ := Script.ok_of_run_ofOutcome hparse
          obtain ⟨d?, _, hfirst, hupdate⟩ := Script.ok_of_run_bind hfound
          have husable := Script.usable_of_findFirst hfirst
          refine ⟨husable, ?_⟩
          cases d? with
          | none => exact nomatch (Prod.mk.inj hupdate).1
          | some d =>
              obtain ⟨hd, -⟩ := Prod.mk.inj ((Script.run_findFirst husable _).symm.trans hfirst)
              obtain ⟨before, rest, hmatch⟩ := FirstMatch.iff_find?.mpr (Except.ok.inj hd)
              have hwrite := e.run_write_of_firstMatch now haccepted husable hid hoid hmatch
              obtain ⟨hid', rfl⟩ := Prod.mk.inj (h.symm.trans hwrite)
              obtain rfl := Except.ok.inj hid'
              exact .changed hid hoid hmatch

/-! ## Edits that cannot be read back -/

/-- An edit that is accepted and names a record, with the records before and after it, that does not
decode once it is changed. -/
structure Strands (e : ConfigEdit) (now : Moment) (db : Database) (before : List Document)
    (d : Document) (after : List Document) (cause : DecodeError) : Prop where
  accepted : e.fault? = none
  usable : db.fault? providers = none
  named : ∃ id oid, e.id = some id ∧ parseId id = .ok oid ∧
    FirstMatch (idFilter (.objectId oid)) (db.documents providers) before d after
  undecodable : ProviderRecord.decode (d.merge (e.changes now)) = .error cause

/-- What has been written can be read back where the edit does not strand. -/
theorem Wrote.readable {id : Bson} {db' : Database} (h : e.Wrote now db id db')
    (haccepted : e.fault? = none) (husable : db.fault? providers = none) :
    (∃ view, (readBack id now).run db' = (.ok view, db'.counted)) ∨
      ∃ before d after cause, e.Strands now db before d after cause := by
  cases h with
  | changed hid hoid hfirst =>
      rename_i oid before after d
      have husable' : db.counted.fault? providers = none := husable
      cases hdecode : ProviderRecord.decode (d.merge (e.changes now)) with
      | ok r =>
          have hread := run_readBack now husable' (e.firstMatch_changes now hfirst)
          rw [hdecode] at hread
          exact .inl ⟨_, hread⟩
      | error cause =>
          exact .inr ⟨before, d, after, cause, haccepted, husable, ⟨_, oid, hid, hoid, hfirst⟩, hdecode⟩
  | created hfree =>
      rename_i oid
      have husable' : db.drawId.2.fault? providers = none := husable
      obtain ⟨r, hdecode⟩ := e.decode_creation now oid
      have hread := run_readBack now husable' (e.firstMatch_creation now hfree)
      rw [hdecode] at hread
      exact .inl ⟨_, hread⟩

/-- A record that has just been written is found again, so that the read after the write can fail only
because the record does not decode. -/
theorem Wrote.error_of_readBack {id : Bson} {db' after : Database} {error : ConfigError}
    (h : e.Wrote now db id db') (husable : db.fault? providers = none)
    (hrun : (readBack id now).run db' = (.error error, after)) :
    ∃ reason, error = .document reason := by
  cases h with
  | changed hid hoid hfirst =>
      have husable' : db.counted.fault? providers = none := husable
      rw [run_readBack now husable' (e.firstMatch_changes now hfirst)] at hrun
      have hfailed := (Prod.mk.inj hrun).1
      split at hfailed
      · exact nomatch hfailed
      · rename_i cause _
        exact ⟨cause.message, (Except.error.inj hfailed).symm⟩
  | created hfree =>
      rename_i oid
      have husable' : db.drawId.2.fault? providers = none := husable
      obtain ⟨r, hdecode⟩ := e.decode_creation now oid
      rw [run_readBack now husable' (e.firstMatch_creation now hfree), hdecode] at hrun
      exact nomatch (Prod.mk.inj hrun).1

end ConfigEdit

namespace Session

/-- Every collection and the cached list are what they were. -/
structure Unchanged (s t : Session) : Prop where
  documents : ∀ c, t.database.documents c = s.database.documents c
  cached : t.cached = s.cached

variable (s : Session)

theorem unchanged_of_allOrNothing {α : Type} {script : Script α} (h : script.AllOrNothing)
    {t : Session} {error : ConfigError} (hrun : s.run script = (.error error, t)) :
    s.Unchanged t := by
  obtain ⟨houtcome, rfl⟩ := Prod.mk.inj hrun
  have halike := h (fun _ => True) s.database _ error (Prod.ext houtcome rfl)
  exact ⟨fun c => halike.documents c trivial, rfl⟩

/-- A deletion that fails changes nothing.  So does an edit that fails, unless it strands, and an edit
that strands fails with its fields set and the cache emptied. -/
theorem unchanged_or_strands_of_failure (now : Moment) (e : ConfigEdit) (id : String) :
    (∀ error t, s.delete id = (.error error, t) → s.Unchanged t) ∧
    (∀ error t, s.upsert now e = (.error error, t) →
      s.Unchanged t ∨ ∃ before d after cause, e.Strands now s.database before d after cause) ∧
    (∀ before d after cause, e.Strands now s.database before d after cause →
      s.upsert now e = (.error (.document cause.message),
        { s with
          database :=
            (s.database.counted.put providers (before ++ d.merge (e.changes now) :: after)).counted
          cached := none })) := by
  refine ⟨fun error t h => ?_, fun error t h => ?_, fun before d after cause h => ?_⟩
  · unfold delete at h
    rcases hrun : s.run (deleteConfig id) with ⟨refusal | _, middle⟩
    · rw [hrun] at h
      obtain ⟨-, rfl⟩ := Prod.mk.inj h
      exact s.unchanged_of_allOrNothing (allOrNothing_delete id) hrun
    · rw [hrun] at h
      exact nomatch (Prod.mk.inj h).1
  · unfold upsert at h
    rcases hrun : s.run (e.write now) with ⟨refusal | written, middle⟩
    · rw [hrun] at h
      obtain ⟨-, rfl⟩ := Prod.mk.inj h
      exact .inl (s.unchanged_of_allOrNothing (e.allOrNothing_write now) hrun)
    · -- the write has gone through, so that the failure is that of the read
      rw [hrun] at h
      obtain ⟨houtcome, rfl⟩ := Prod.mk.inj hrun
      obtain ⟨haccepted, husable, hwrote⟩ := ConfigEdit.wrote_of_run_write (Prod.ext houtcome rfl)
      refine .inr ((hwrote.readable haccepted husable).resolve_left ?_)
      rintro ⟨view, hread⟩
      simp only [run, invalidate, hread] at h
      exact nomatch (Prod.mk.inj h).1
  · obtain ⟨text, oid, hid, hoid, hfirst⟩ := h.named
    have hwrite := e.run_write_of_firstMatch now h.accepted h.usable hid hoid hfirst
    have husable : s.database.counted.fault? providers = none := h.usable
    have hread := ConfigEdit.run_readBack now husable (e.firstMatch_changes now hfirst)
    simp only [upsert, run, invalidate, hwrite, hread, h.undecodable]

/-! ### A record that an edit strands -/

/-- A record whose further settings are a number. -/
def oddRecord : Document :=
  Document.ofList [("_id", .objectId (ObjectId.ofNat 1)), ("name", .string "openai"),
    ("extra_config", .int32 5)]

/-- The record alone, with an empty list of configs in the cache. -/
def oddSettings : Session :=
  { start ((Database.empty ObjectId.ofNat).put providers [oddRecord]) Environment.empty none with
    cached := some [] }

/-- An edit of the record under a name. -/
def naming (name : String) : ConfigEdit where
  id := some "000000000000000000000001"
  name := name
  displayName := "OpenAI"
  model := "gpt-4o"

/-- The moment at which 1970 begins. -/
def epoch : Moment := ⟨⟨0⟩, "1970-01-01T00:00:00+00:00"⟩

theorem strands_oddSettings :
    ∃ cause, (naming "openai").Strands epoch oddSettings.database [] oddRecord [] cause := by
  have hid : ObjectId.ofHex? "000000000000000000000001" = some (ObjectId.ofNat 1) := by
    decide +kernel
  have hoid : parseId "000000000000000000000001" = .ok (ObjectId.ofNat 1) := by
    simp only [parseId, hid]
  have hmatch : FirstMatch (idFilter (.objectId (ObjectId.ofNat 1))) [oddRecord] [] oddRecord [] :=
    ⟨rfl, fun _ h => absurd h List.not_mem_nil, by decide +kernel⟩
  have hodd : (ProviderRecord.decode (oddRecord.merge ((naming "openai").changes epoch))).isOk
      = false := by decide +kernel
  cases hdecode : ProviderRecord.decode (oddRecord.merge ((naming "openai").changes epoch)) with
  | ok r =>
      rw [hdecode] at hodd
      exact nomatch hodd
  | error cause => exact ⟨cause, by decide +kernel, rfl, ⟨_, _, rfl, hoid, hmatch⟩, hdecode⟩

/-- An edit of the record strands, one with a blank name changes nothing, and no more does the
deletion of a record that is not there. -/
theorem failures_oddSettings :
    (∃ cause : DecodeError,
        (oddSettings.upsert epoch (naming "openai")).1 = .error (.document cause.message)) ∧
      oddSettings.Unchanged (oddSettings.upsert epoch (naming " ")).2 ∧
      oddSettings.Unchanged (oddSettings.delete "000000000000000000000002").2 := by
  refine ⟨?_, ?_, ?_⟩
  · obtain ⟨cause, hstrands⟩ := strands_oddSettings
    have hupsert := (unchanged_or_strands_of_failure oddSettings epoch (naming "openai") "").2.2
      _ _ _ _ hstrands
    exact ⟨cause, congrArg Prod.fst hupsert⟩
  · have hfails : (oddSettings.upsert epoch (naming " ")).1.isOk = false := by decide +kernel
    rcases hrun : oddSettings.upsert epoch (naming " ") with ⟨error | view, t⟩
    · refine ((unchanged_or_strands_of_failure oddSettings epoch (naming " ") "").2.1
        error t hrun).resolve_right ?_
      rintro ⟨before, d, after, cause, hstrands⟩
      have hblank : (naming " ").fault? = some .blankName := by decide +kernel
      exact nomatch hblank.symm.trans hstrands.accepted
    · rw [hrun] at hfails
      exact nomatch hfails
  · have hfails : (oddSettings.delete "000000000000000000000002").1.isOk = false := by
      decide +kernel
    rcases hrun : oddSettings.delete "000000000000000000000002" with ⟨error | _, t⟩
    · exact (unchanged_or_strands_of_failure oddSettings epoch (naming " ")
        "000000000000000000000002").1 error t hrun
    · rw [hrun] at hfails
      exact nomatch hfails

/-- An edit that fails may have set its fields and emptied the cache. -/
theorem changed_by_failure :
    (oddSettings.upsert epoch (naming "openai")).1.isOk = false ∧
      (oddSettings.upsert epoch (naming "openai")).2.database.documents providers
        ≠ oddSettings.database.documents providers ∧
      (oddSettings.upsert epoch (naming "openai")).2.cached ≠ oddSettings.cached := by
  refine ⟨by decide +kernel, fun hsame => ?_, fun hsame => ?_⟩
  · have hafter : ((oddSettings.upsert epoch (naming "openai")).2.database.documents providers).map
        (·.fields.length) = [12] := by decide +kernel
    have hbefore : (oddSettings.database.documents providers).map (·.fields.length) = [3] := by
      decide +kernel
    rw [hsame, hbefore] at hafter
    exact nomatch hafter
  · have hafter : (oddSettings.upsert epoch (naming "openai")).2.cached.isNone = true := by
      decide +kernel
    rw [hsame] at hafter
    exact nomatch hafter

end Session

end ProviderRegistry
