/-
# `Proofs.Admin.Refinement` — the operations on provider records serve a ledger

A ledger represents a database when the documents of the provider records are
those of its entries, in order.  A request then has the reply that the ledger
gives, and leaves a database that the ledger after it represents
(`Represents.serves`); by induction so has every row of requests
(`Represents.serveAll`).  The entry that a request names is the only one under
its identity, so the store's first match is that entry (`Placed`), and setting
fields on the first match, or dropping it, is changing the entry in its place,
or taking it out.

## What is proved

From an available database without provider records, and for any requests, the
replies are those of the ledger; the listing shows its entries by name, those of
one name in the order of their creation; and a request that is refused changes
nothing.  Where the identities drawn are distinct, no creation is refused for
its identity (`serveAll_refines`).
-/
import ProviderRegistry.Proofs.Admin.Failure
import ProviderRegistry.Proofs.Admin.Ledger

namespace ProviderRegistry

open Collections

theorem FirstMatch.dropFirst_eq {filter d : Document} {documents before after : List Document}
    (h : FirstMatch filter documents before d after) :
    Database.dropFirst filter documents = some (before ++ after) := by
  obtain ⟨rfl, hbefore, hd⟩ := h
  induction before with
  | nil => simp [Database.dropFirst, hd]
  | cons first rest ih =>
      have hfirst : first.satisfies filter = false := hbefore first List.mem_cons_self
      have hrest := ih fun other hother => hbefore other (List.mem_cons_of_mem first hother)
      simp [Database.dropFirst, hfirst, hrest]

theorem Database.dropFirst_eq_none {filter : Document} {documents : List Document}
    (h : ∀ d ∈ documents, d.satisfies filter = false) : dropFirst filter documents = none := by
  induction documents with
  | nil => rfl
  | cons d rest ih =>
      have hd : d.satisfies filter = false := h d List.mem_cons_self
      have hrest := ih fun other hother => h other (List.mem_cons_of_mem d hother)
      simp [dropFirst, hd, hrest]

namespace Session

/-- The reply to a request, and the registry after it. -/
def serve (s : Session) : Ledger.Request → Ledger.Reply × Session
  | .upsert now e => ((s.upsert now e).1.map some, (s.upsert now e).2)
  | .delete text => ((s.delete text).1.map fun _ => none, (s.delete text).2)

/-- The replies to requests that come one after the other, and the registry after them. -/
def serveAll (s : Session) : List Ledger.Request → List Ledger.Reply × Session
  | [] => ([], s)
  | request :: rest =>
    let (reply, s) := s.serve request
    let (replies, s) := s.serveAll rest
    (reply :: replies, s)

end Session

/-! ## Identities in requests -/

section Identities

variable {text : String}

theorem parseId_of_none (h : ObjectId.ofHex? text = none) :
    parseId text = .error (EditFault.badId text).toError := by
  simp only [parseId, h]

variable {id : ObjectId} (h : ObjectId.ofHex? text = some id)
include h

theorem parseId_of_some : parseId text = .ok id := by
  simp only [parseId, h]

theorem run_parseId (db : Database) : (Script.ofOutcome (parseId text)).run db = (.ok id, db) := by
  rw [parseId_of_some h]
  rfl

/-- A deletion takes out the first match, or fails where there is none. -/
theorem run_deleteConfig {db : Database} (husable : db.fault? providers = none) :
    (deleteConfig text).run db
      = match Database.dropFirst (idFilter (.objectId id)) (db.documents providers) with
        | some rest => (.ok (), db.put providers rest)
        | none => (.error (noSuchConfig text), db) := by
  have hcall := Script.run_call (.deleteFirst providers (idFilter (.objectId id))) db
  simp only [Database.answer, Database.guarded, husable] at hcall
  unfold deleteConfig
  rw [Script.run_bind_ok (run_parseId h db)]
  cases hdropped : Database.dropFirst (idFilter (.objectId id)) (db.documents providers) with
  | none =>
      rw [hdropped] at hcall
      exact Script.run_bind_ok hcall
  | some rest =>
      rw [hdropped] at hcall
      exact Script.run_bind_ok hcall

end Identities

namespace Ledger

/-! ## The one entry of an identity -/

/-- Entries cut at the one entry of an identity. -/
structure Placed (m : Ledger) (id : ObjectId) (before : List Entry) (r : Entry)
    (after : List Entry) : Prop where
  cut : m.entries = before ++ r :: after
  here : r.id = id
  noneBefore : ∀ other ∈ before, other.id ≠ id
  noneAfter : ∀ other ∈ after, other.id ≠ id

/-- No two entries have one identity. -/
def Distinct (m : Ledger) : Prop := (m.entries.map (·.id)).Nodup

theorem Distinct.placed {m : Ledger} (h : m.Distinct) {id : ObjectId} {r : Entry}
    (hr : m.entry? id = some r) : ∃ before after, m.Placed id before r after := by
  obtain ⟨here, before, after, hcut, hbefore⟩ := List.find?_eq_some_iff_append.mp hr
  have here : r.id = id := of_decide_eq_true here
  refine ⟨before, after, hcut, here, fun other hother => ?_, fun other hother heq => ?_⟩
  · simpa using hbefore other hother
  · unfold Distinct at h
    rw [hcut, List.map_append, List.map_cons] at h
    have hafter := (List.nodup_cons.mp (List.nodup_append.mp h).2.1).1
    rw [here, ← heq] at hafter
    exact hafter (List.mem_map_of_mem hother)

theorem ne_of_entry?_eq_none {m : Ledger} {id : ObjectId} (h : m.entry? id = none) :
    ∀ r ∈ m.entries, r.id ≠ id := by
  intro r hr
  simpa using List.find?_eq_none.mp h r hr

namespace Placed

variable {m : Ledger} {id : ObjectId} {before after : List Entry} {r : Entry}

/-- The store finds the entry of an identity as the first match. -/
theorem firstMatch (h : m.Placed id before r after) :
    FirstMatch (idFilter (.objectId id)) (m.entries.map Entry.document)
      (before.map Entry.document) r.document (after.map Entry.document) where
  cut := by rw [h.cut, List.map_append, List.map_cons]
  noneBefore := by
    intro d hd
    obtain ⟨other, hother, rfl⟩ := List.mem_map.mp hd
    rw [other.satisfies_document, decide_eq_false (h.noneBefore other hother)]
  satisfies := by rw [r.satisfies_document, decide_eq_true h.here]

theorem map_eq (h : m.Placed id before r after) (f : Entry → Entry) :
    (m.entries.map fun other => if other.id = id then f other else other)
      = before ++ f r :: after := by
  have hkept : ∀ others : List Entry, (∀ other ∈ others, other.id ≠ id) →
      (others.map fun other => if other.id = id then f other else other) = others := by
    intro others hothers
    refine (List.map_congr_left fun other hother => if_neg (hothers other hother)).trans ?_
    exact List.map_id' others
  rw [h.cut, List.map_append, List.map_cons, if_pos h.here, hkept before h.noneBefore,
    hkept after h.noneAfter]

theorem filter_eq (h : m.Placed id before r after) :
    (m.entries.filter fun other => other.id ≠ id) = before ++ after := by
  have hkept : ∀ others : List Entry, (∀ other ∈ others, other.id ≠ id) →
      (others.filter fun other => decide (other.id ≠ id)) = others := by
    intro others hothers
    exact List.filter_eq_self.mpr fun other hother => decide_eq_true (hothers other hother)
  rw [h.cut, List.filter_append, List.filter_cons_of_neg (by simp [h.here]),
    hkept before h.noneBefore, hkept after h.noneAfter]

/-- The entry is read back after its document has been put among the others. -/
theorem run_readBack (h : m.Placed id before r after) {db : Database}
    (husable : db.fault? providers = none) (now : Moment) :
    (ConfigEdit.readBack (.objectId id) now).run (db.put providers (m.entries.map Entry.document))
      = (.ok r.view, (db.put providers (m.entries.map Entry.document)).counted) := by
  have hread := ConfigEdit.run_readBack now husable h.firstMatch
  rw [r.decode_document] at hread
  exact hread

end Placed

theorem placed_created {m : Ledger} {id : ObjectId} (h : m.entry? id = none) (now : Moment)
    (e : ConfigEdit) (drawn : Nat) :
    Placed ⟨m.entries ++ [Entry.created id now e], m.ids, drawn⟩ id m.entries
      (Entry.created id now e) [] where
  cut := rfl
  here := rfl
  noneBefore := ne_of_entry?_eq_none h
  noneAfter := fun _ hother => absurd hother List.not_mem_nil

theorem decodable_documents (entries : List Entry) :
    Resolution.decodable ProviderRecord.decode (entries.map Entry.document)
      = entries.map Entry.record := by
  have hread : (fun d => (ProviderRecord.decode d).toOption) ∘ Entry.document
      = some ∘ Entry.record := by
    funext r
    rw [Function.comp, r.decode_document]
    rfl
  rw [Resolution.decodable, List.filterMap_map, hread, List.filterMap_eq_map]

/-! ## Representation -/

/-- The provider records of a database are the entries of the ledger. -/
structure Represents (m : Ledger) (db : Database) : Prop where
  available : db.Available
  documents : db.documents providers = m.entries.map Entry.document
  ids : db.ids = m.ids
  drawn : db.drawn = m.drawn
  distinct : m.Distinct

/-- The ledger of a database whose provider records are empty. -/
def opened (db : Database) : Ledger := ⟨[], db.ids, db.drawn⟩

theorem represents_opened {db : Database} (h : db.Available)
    (hempty : db.documents providers = []) : (opened db).Represents db :=
  ⟨h, hempty, rfl, rfl, List.nodup_nil⟩

/-- What a request has come to: its reply, a represented database, and no change if it failed. -/
structure Serves (served : Reply × Ledger) (s : Session) (result : Reply × Session) : Prop where
  reply : result.1 = served.1
  represents : served.2.Represents result.2.database
  unchanged : ∀ error, served.1 = .error error → s.Unchanged result.2

end Ledger

namespace Session

variable (s : Session) {now : Moment} {e : ConfigEdit} {text : String} {error : ConfigError}
  {after : Database}

theorem serve_of_refused (h : (e.write now).run s.database = (.error error, after)) :
    s.serve (.upsert now e) = (.error error, { s with database := after }) := by
  simp only [serve, upsert, run, h]
  rfl

theorem serve_of_written {id : Bson} {written : Database} {view : ConfigView}
    (h : (e.write now).run s.database = (.ok id, written))
    (hread : (ConfigEdit.readBack id now).run written = (.ok view, after)) :
    s.serve (.upsert now e) = (.ok (some view), { s with database := after, cached := none }) := by
  simp only [serve, upsert, run, h, invalidate, hread]
  rfl

theorem serve_of_undeleted (h : (deleteConfig text).run s.database = (.error error, after)) :
    s.serve (.delete text) = (.error error, { s with database := after }) := by
  simp only [serve, delete, run, h]
  rfl

theorem serve_of_deleted (h : (deleteConfig text).run s.database = (.ok (), after)) :
    s.serve (.delete text) = (.ok none, { s with database := after, cached := none }) := by
  simp only [serve, delete, run, h, invalidate]
  rfl

end Session

namespace Ledger

namespace Represents

variable {m : Ledger} {s : Session} (h : m.Represents s.database)
include h

theorem unsatisfied {id : ObjectId} (hentry : m.entry? id = none) :
    ∀ d ∈ s.database.documents providers, d.satisfies (idFilter (.objectId id)) = false := by
  intro d hd
  rw [h.documents] at hd
  obtain ⟨r, hr, rfl⟩ := List.mem_map.mp hd
  rw [r.satisfies_document, decide_eq_false (ne_of_entry?_eq_none hentry r hr)]

/-- An identity is taken where an entry has it. -/
theorem holds_iff (id : ObjectId) :
    s.database.Holds providers (.objectId id) ↔ (m.entry? id).isSome = true := by
  rw [Database.holds_iff_satisfies, h.documents, entry?, List.find?_isSome]
  simp [Entry.satisfies_document]

/-- A refusal leaves the database as it is, some reads counted. -/
theorem serves_refused (error : ConfigError) (reads : Nat) :
    Serves (.error error, m) s (.error error, { s with database := s.database.served reads }) where
  reply := rfl
  represents := ⟨⟨h.available.online, h.available.noneFailing⟩, h.documents, h.ids, h.drawn,
    h.distinct⟩
  unchanged := fun _ _ => ⟨fun _ => rfl, rfl⟩

/-! ### Creations -/

theorem run_write_create {now : Moment} {e : ConfigEdit} (haccepted : e.fault? = none)
    (hid : e.id = none) :
    (e.write now).run s.database
      = match m.entry? (m.ids m.drawn) with
        | some _ => (.error (taken (m.ids m.drawn)), s.database.drawId.2)
        | none => (.ok (.objectId (m.ids m.drawn)), s.database.drawId.2.put providers
            ((m.entries ++ [Entry.created (m.ids m.drawn) now e]).map Entry.document)) := by
  have hfresh : s.database.drawId.1 = m.ids m.drawn := by
    rw [← h.ids, ← h.drawn]
    rfl
  have hidentity := s.database.identify_of_none (d := e.creation now) rfl
  rw [hfresh] at hidentity
  have hheld := h.holds_iff (m.ids m.drawn)
  unfold ConfigEdit.write
  simp only [haccepted, hid]
  refine (Script.run_call (.insert providers (e.creation now)) s.database).trans ?_
  simp only [Database.answer, Database.guarded, h.available.fault? providers]
  cases hentry : m.entry? (m.ids m.drawn) with
  | some r =>
      rw [hentry] at hheld
      rw [Database.insertIn_of_holds, hidentity]
      · rfl
      · rw [hidentity]
        exact hheld.mpr rfl
  | none =>
      rw [hentry] at hheld
      rw [Database.insertIn_of_free, s.database.seedOne_of_none providers rfl, hidentity, hfresh,
        h.documents, Entry.document_created]
      · simp
      · rw [hidentity]
        exact fun hholds => absurd (hheld.mp hholds) (by simp)

theorem serves_create {now : Moment} {e : ConfigEdit} (haccepted : e.fault? = none)
    (hid : e.id = none) : Serves (m.create now e) s (s.serve (.upsert now e)) := by
  have hwrite : (e.write now).run s.database = _ := h.run_write_create haccepted hid
  have hdrawn : s.database.drawn + 1 = m.drawn + 1 := congrArg (· + 1) h.drawn
  unfold create
  cases hentry : m.entry? (m.ids m.drawn) with
  | some r =>
      rw [hentry] at hwrite
      rw [s.serve_of_refused hwrite]
      simp only [hentry]
      exact ⟨rfl, ⟨⟨h.available.online, h.available.noneFailing⟩, h.documents, h.ids, hdrawn,
        h.distinct⟩, fun _ _ => ⟨fun _ => rfl, rfl⟩⟩
  | none =>
      rw [hentry] at hwrite
      have hplaced := placed_created hentry now e (m.drawn + 1)
      have husable : s.database.drawId.2.fault? providers = none := h.available.fault? providers
      rw [s.serve_of_written hwrite (hplaced.run_readBack husable now)]
      simp only [hentry]
      refine ⟨rfl, ⟨⟨h.available.online, h.available.noneFailing⟩, ?_, h.ids, hdrawn, ?_⟩,
        fun _ herror => nomatch herror⟩
      · simp
      · unfold Distinct
        rw [List.map_append]
        refine List.nodup_append.mpr ⟨h.distinct, by simp, ?_⟩
        intro id hid other hother
        obtain ⟨r, hr, rfl⟩ := List.mem_map.mp hid
        rw [List.mem_singleton.mp hother]
        exact ne_of_entry?_eq_none hentry r hr

/-! ### Changes -/

theorem run_write_absent {now : Moment} {e : ConfigEdit} (haccepted : e.fault? = none)
    {text : String} (hid : e.id = some text) {id : ObjectId} (hparse : ObjectId.ofHex? text = some id)
    (hentry : m.entry? id = none) :
    (e.write now).run s.database = (.error (noSuchConfig text), s.database.counted) := by
  have hrun := run_parseId hparse s.database
  have hfind : (s.database.documents providers).find? (·.satisfies (idFilter (.objectId id))) = none :=
    List.find?_eq_none.mpr fun d hd => by simp [h.unsatisfied hentry d hd]
  unfold ConfigEdit.write
  simp only [haccepted, hid]
  rw [Script.run_bind_ok hrun,
    Script.run_bind_ok (Script.run_findFirst (h.available.fault? providers) _), hfind]
  rfl

theorem serves_edited {now : Moment} {e : ConfigEdit} (haccepted : e.fault? = none) {text : String}
    (hid : e.id = some text) {id : ObjectId} (hparse : ObjectId.ofHex? text = some id) {r : Entry}
    (hentry : m.entry? id = some r) :
    Serves (.ok (some (r.edited now e).view),
        { m with entries := m.entries.map fun r => if r.id = id then r.edited now e else r }) s
      (s.serve (.upsert now e)) := by
  obtain ⟨before, after, hplaced⟩ := h.distinct.placed hentry
  have hfirst := hplaced.firstMatch
  rw [← h.documents] at hfirst
  have husable : s.database.counted.fault? providers = none := h.available.fault? providers
  have hwrite := e.run_write_of_firstMatch now haccepted (h.available.fault? providers) hid
    (parseId_of_some hparse) hfirst
  rw [Entry.document_edited, ← List.map_cons, ← List.map_append] at hwrite
  have hedited : Placed ⟨before ++ r.edited now e :: after, m.ids, m.drawn⟩ id before
      (r.edited now e) after :=
    ⟨rfl, hplaced.here, hplaced.noneBefore, hplaced.noneAfter⟩
  rw [s.serve_of_written hwrite (hedited.run_readBack husable now), hplaced.map_eq]
  refine ⟨rfl, ⟨⟨h.available.online, h.available.noneFailing⟩, ?_, h.ids, h.drawn, ?_⟩,
    fun _ herror => nomatch herror⟩
  · exact (Database.documents_counted _ _).trans (Database.documents_put_self _ _ _)
  · have hdistinct := h.distinct
    unfold Distinct at hdistinct ⊢
    rw [hplaced.cut] at hdistinct
    simpa [Entry.edited] using hdistinct

theorem serves_change {now : Moment} {e : ConfigEdit} (haccepted : e.fault? = none) {text : String}
    (hid : e.id = some text) : Serves (m.change text now e) s (s.serve (.upsert now e)) := by
  unfold change
  cases hparse : ObjectId.ofHex? text with
  | none =>
      have hwrite : (e.write now).run s.database
          = (.error (EditFault.badId text).toError, s.database) := by
        unfold ConfigEdit.write
        simp only [haccepted, hid, parseId_of_none hparse]
        rfl
      rw [s.serve_of_refused hwrite]
      exact h.serves_refused _ 0
  | some id =>
      cases hentry : m.entry? id with
      | none =>
          rw [s.serve_of_refused (h.run_write_absent haccepted hid hparse hentry)]
          simp only [hentry]
          exact h.serves_refused _ 1
      | some r =>
          simp only [hentry]
          exact h.serves_edited haccepted hid hparse hentry

/-! ### Deletions -/

theorem serves_deleted {text : String} {id : ObjectId} (hparse : ObjectId.ofHex? text = some id)
    {r : Entry} (hentry : m.entry? id = some r) :
    Serves (.ok none, { m with entries := m.entries.filter fun r => r.id ≠ id }) s
      (s.serve (.delete text)) := by
  obtain ⟨before, after, hplaced⟩ := h.distinct.placed hentry
  have hfirst := hplaced.firstMatch
  rw [← h.documents] at hfirst
  have hdelete := run_deleteConfig hparse (h.available.fault? providers)
  rw [hfirst.dropFirst_eq, ← List.map_append] at hdelete
  rw [s.serve_of_deleted hdelete, hplaced.filter_eq]
  refine ⟨rfl, ⟨⟨h.available.online, h.available.noneFailing⟩, ?_, h.ids, h.drawn, ?_⟩,
    fun _ herror => nomatch herror⟩
  · exact Database.documents_put_self _ _ _
  · have hdistinct := h.distinct
    unfold Distinct at hdistinct ⊢
    rw [hplaced.cut, List.map_append, List.map_cons] at hdistinct
    rw [List.map_append]
    exact hdistinct.sublist ((List.Sublist.refl _).append (List.sublist_cons_self _ _))

theorem serves_delete (text : String) : Serves (m.delete text) s (s.serve (.delete text)) := by
  unfold delete
  cases hparse : ObjectId.ofHex? text with
  | none =>
      have hdelete : (deleteConfig text).run s.database
          = (.error (EditFault.badId text).toError, s.database) := by
        unfold deleteConfig
        rw [parseId_of_none hparse]
        rfl
      rw [s.serve_of_undeleted hdelete]
      exact h.serves_refused _ 0
  | some id =>
      cases hentry : m.entry? id with
      | none =>
          have hdelete := run_deleteConfig hparse (h.available.fault? providers)
          rw [Database.dropFirst_eq_none (h.unsatisfied hentry)] at hdelete
          rw [s.serve_of_undeleted hdelete]
          simp only [hentry]
          exact h.serves_refused _ 0
      | some r =>
          simp only [hentry]
          exact h.serves_deleted hparse hentry

/-! ### Every request -/

/-- A request has the reply of the ledger, and changes nothing where that is a failure. -/
theorem serves (request : Request) : Serves (m.serve request) s (s.serve request) := by
  cases request with
  | delete text => exact h.serves_delete text
  | upsert now e =>
      cases haccepted : e.fault? with
      | some fault =>
          have hrefused : m.serve (.upsert now e) = (.error fault.toError, m) := by
            simp only [Ledger.serve, haccepted]
          have hwrite : (e.write now).run s.database = (.error fault.toError, s.database) := by
            unfold ConfigEdit.write
            simp only [haccepted]
            rfl
          rw [s.serve_of_refused hwrite, hrefused]
          exact h.serves_refused _ 0
      | none =>
          cases hid : e.id with
          | none =>
              have hcreate : m.serve (.upsert now e) = m.create now e := by
                simp only [Ledger.serve, haccepted, hid]
              rw [hcreate]
              exact h.serves_create haccepted hid
          | some text =>
              have hchange : m.serve (.upsert now e) = m.change text now e := by
                simp only [Ledger.serve, haccepted, hid]
              rw [hchange]
              exact h.serves_change haccepted hid

theorem serveAll (requests : List Request) :
    (s.serveAll requests).1 = (m.serveAll requests).1 ∧
      (m.serveAll requests).2.Represents (s.serveAll requests).2.database := by
  induction requests generalizing m s with
  | nil => exact ⟨rfl, h⟩
  | cons request rest ih =>
      have hfirst := h.serves request
      obtain ⟨hreplies, hrepresents⟩ := ih hfirst.represents
      refine ⟨?_, hrepresents⟩
      show (s.serve request).1 :: ((s.serve request).2.serveAll rest).1 = _
      rw [hfirst.reply, hreplies]
      rfl

/-! ### The listing -/

theorem list_eq (now : Moment) :
    (s.list now).1
      = .ok ((m.entries.mergeSort fun r other => r.name ≤ other.name).map Entry.view) := by
  have hfind : (Script.find providers Document.empty).run s.database
      = (.ok (m.entries.map Entry.document), s.database.counted) := by
    rw [Script.run_find (h.available.fault? providers), Database.findIn_empty, h.documents]
  -- the records are sorted as their entries are, since they have the same names
  have hsort : (m.entries.map Entry.record).mergeSort (fun r other => r.name ≤ other.name)
      = (m.entries.mergeSort fun r other => r.name ≤ other.name).map Entry.record :=
    (List.map_mergeSort (f := Entry.record) fun _ _ _ _ => rfl).symm
  show ((ConfigView.list now).run s.database).1 = _
  rw [ConfigView.list, Script.run_bind_ok hfind, decodable_documents, Script.run_pure, hsort,
    List.map_map]
  rfl

end Represents

/-! ## Any requests -/

/-- The operations on provider records are those of a ledger: they have its replies, and the
listing shows its entries.  What fails changes nothing, and where the identities drawn are apart,
nothing fails but what breaks a rule or names no entry. -/
theorem serveAll_refines (s : Session) (h : s.database.Available)
    (hempty : s.database.documents providers = []) (requests : List Request) :
    (s.serveAll requests).1 = ((opened s.database).serveAll requests).1 ∧
    (∀ now, ∃ shown, ((opened s.database).serveAll requests).2.Listed shown ∧
      ((s.serveAll requests).2.list now).1 = .ok (shown.map Entry.view)) ∧
    (∀ request error, ((s.serveAll requests).2.serve request).1 = .error error →
      (s.serveAll requests).2.Unchanged ((s.serveAll requests).2.serve request).2) ∧
    ((∀ i < requests.length, ∀ j < i,
        s.database.ids (s.database.drawn + j) ≠ s.database.ids (s.database.drawn + i)) →
      ∀ error, .error error ∈ (s.serveAll requests).1 → Refusal error) := by
  obtain ⟨hreplies, hleft⟩ := (represents_opened h hempty).serveAll requests
  refine ⟨hreplies, fun now => ⟨_, listed_mergeSort _, hleft.list_eq now⟩,
    fun request error herror => ?_, fun hids => ?_⟩
  · have hserves := hleft.serves request
    exact hserves.unchanged error (hserves.reply.symm.trans herror)
  · rw [hreplies]
    have hnone : (opened s.database).SuppliedFrom s.database.drawn :=
      fun r hr => absurd hr List.not_mem_nil
    refine refusal_of_serveAll hnone (Nat.le_refl _) fun i j hj hi hbound => ?_
    have hi' : i - s.database.drawn < requests.length := by
      have : i < s.database.drawn + requests.length := hbound
      omega
    have hapart := hids (i - s.database.drawn) hi' (j - s.database.drawn) (by omega)
    rwa [Nat.add_sub_cancel' hj, Nat.add_sub_cancel' (Nat.le_trans hj (Nat.le_of_lt hi))] at hapart

/-- A creation under a name, with a key in blanks. -/
def creating (name : String) : ConfigEdit where
  name := name
  displayName := name
  model := "any"
  apiKey := some " sk-0123456789 "

/-- Two creations, a change of the first that disables it and supplies no key, and the deletion of a
record that is not there. -/
def someRequests : List Request :=
  [.upsert Session.epoch (creating "zhipu"), .upsert Session.epoch (creating "openai"),
    .upsert Session.epoch { creating "glm" with
      id := some "000000000000000000000000", apiKey := some " ", enabled := false },
    .delete "000000000000000000000007"]

def emptySession : Session :=
  Session.start (Database.empty ObjectId.ofNat) Environment.empty none

/-- The listing shows the two entries, the first of them changed and with its key, and the deletion
fails as it should. -/
theorem refines_someRequests :
    emptySession.database.Available ∧ emptySession.database.documents providers = [] ∧
    (∃ shown, ((opened emptySession.database).serveAll someRequests).2.Listed shown ∧
      ((emptySession.serveAll someRequests).2.list Session.epoch).1 = .ok (shown.map Entry.view)) ∧
    ((opened emptySession.database).serveAll someRequests).2.entries.map
        (fun r => (r.name, r.apiKey, r.enabled))
      = [("glm", some "sk-0123456789", false), ("openai", some "sk-0123456789", true)] ∧
    (emptySession.serveAll someRequests).1.map (·.isOk) = [true, true, true, false] ∧
    ∀ error, .error error ∈ (emptySession.serveAll someRequests).1 → Refusal error := by
  have havailable : emptySession.database.Available := ⟨rfl, rfl⟩
  obtain ⟨hreplies, hlist, -, hrefusal⟩ :=
    serveAll_refines emptySession havailable rfl someRequests
  refine ⟨havailable, rfl, hlist Session.epoch, by decide +kernel, ?_, hrefusal (by decide)⟩
  rw [hreplies]
  decide +kernel

end Ledger

end ProviderRegistry
