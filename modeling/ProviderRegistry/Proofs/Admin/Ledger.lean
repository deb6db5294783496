/-
# `Proofs.Admin.Ledger` — the provider records as operators think of them

A ledger is a list of entries in the order of their creation, no two under one
identity, and a supply of identities.  A creation adds an entry at the end, a
change overwrites one in its place, a deletion takes one out; a request that
breaks a rule, or that names no entry, is refused and leaves the ledger as it
is.  A document stands for an entry when it has the fields below in this order,
with the identity last; that shape is what a creation writes, and a change
keeps it.

`Served` says once what a request can do to a ledger.  Where its entries come
from (`Served.origin`) and which identities they have (`supplies_of_served`)
are read off the five cases.

## What is proved

    creation, identified   =  document of the new entry       (`document_created`)
    document, changed      =  document of the changed entry   (`document_edited`)
    decode (document r)    =  ok (record r)                   (`decode_document`)
    view of (record r)     =  view r                          (`ofRecord_record`)
-/
import ProviderRegistry.Admin.Edit
import ProviderRegistry.Store.Database

namespace ProviderRegistry

namespace Ledger

/-- What the operators have last written of a record, and when. -/
structure Entry where
  id : ObjectId
  name : String
  displayName : String
  model : String
  /-- The key itself; only a view of the entry masks it. -/
  apiKey : Option String
  baseUrl : Option String
  temperature : Double
  maxTokens : Int64
  timeout : Int64
  enabled : Bool
  createdAt : String
  updatedAt : String
deriving DecidableEq

/-- What operators ask for. -/
inductive Request where
  | upsert (now : Moment) (e : ConfigEdit)
  | delete (id : String)

/-- A successful upsert answers with a view, a successful deletion with nothing. -/
abbrev Reply : Type := Outcome (Option ConfigView)

namespace Entry

def created (id : ObjectId) (now : Moment) (e : ConfigEdit) : Entry where
  id := id
  name := e.name
  displayName := e.displayName
  model := e.model
  apiKey := e.trimmedKey
  baseUrl := e.baseUrl
  temperature := e.temperature
  maxTokens := e.maxTokens
  timeout := e.timeout
  enabled := e.enabled
  createdAt := now.text
  updatedAt := now.text

/-- The entry overwritten; its identity and its time of creation stay, and so does its key where
the request supplies none. -/
def edited (now : Moment) (e : ConfigEdit) (r : Entry) : Entry where
  id := r.id
  name := e.name
  displayName := e.displayName
  model := e.model
  apiKey := e.trimmedKey <|> r.apiKey
  baseUrl := e.baseUrl
  temperature := e.temperature
  maxTokens := e.maxTokens
  timeout := e.timeout
  enabled := e.enabled
  createdAt := r.createdAt
  updatedAt := now.text

def view (r : Entry) : ConfigView where
  id := r.id.toHex
  name := r.name
  displayName := r.displayName
  model := r.model
  apiKey := r.apiKey.map ApiKey.mask
  baseUrl := r.baseUrl
  temperature := r.temperature
  maxTokens := r.maxTokens
  timeout := r.timeout
  enabled := r.enabled
  createdAt := r.createdAt
  updatedAt := r.updatedAt

end Entry

end Ledger

/-- The entries in the order of their creation, and the identities for those to come. -/
structure Ledger where
  entries : List Ledger.Entry
  ids : Nat → ObjectId
  drawn : Nat

namespace Ledger

/-! ## Requests -/

def entry? (m : Ledger) (id : ObjectId) : Option Entry := m.entries.find? fun r => r.id = id

/-- The failure for a creation whose identity is taken. -/
def taken (id : ObjectId) : ConfigError :=
  .document ("duplicate _id " ++ (Bson.objectId id).display ++ " in " ++ Collections.providers)

/-- A creation under the next identity of the supply. -/
def create (m : Ledger) (now : Moment) (e : ConfigEdit) : Reply × Ledger :=
  let id := m.ids m.drawn
  match m.entry? id with
  | some _ => (.error (taken id), { m with drawn := m.drawn + 1 })
  | none => (.ok (some (Entry.created id now e).view),
      { m with entries := m.entries ++ [Entry.created id now e], drawn := m.drawn + 1 })

/-- A change of the entry that a text names. -/
def change (m : Ledger) (text : String) (now : Moment) (e : ConfigEdit) : Reply × Ledger :=
  match ObjectId.ofHex? text with
  | none => (.error (EditFault.badId text).toError, m)
  | some id =>
    match m.entry? id with
    | none => (.error (noSuchConfig text), m)
    | some r => (.ok (some (r.edited now e).view),
        { m with entries := m.entries.map fun r => if r.id = id then r.edited now e else r })

/-- A deletion of the entry that a text names. -/
def delete (m : Ledger) (text : String) : Reply × Ledger :=
  match ObjectId.ofHex? text with
  | none => (.error (EditFault.badId text).toError, m)
  | some id =>
    match m.entry? id with
    | none => (.error (noSuchConfig text), m)
    | some _ => (.ok none, { m with entries := m.entries.filter fun r => r.id ≠ id })

/-- The reply to a request, and the ledger after it. -/
def serve (m : Ledger) : Request → Reply × Ledger
  | .upsert now e =>
    match e.fault? with
    | some fault => (.error fault.toError, m)
    | none =>
      match e.id with
      | none => m.create now e
      | some text => m.change text now e
  | .delete text => m.delete text

/-- The replies to requests that come one after the other, and the ledger after them. -/
def serveAll (m : Ledger) : List Request → List Reply × Ledger
  | [] => ([], m)
  | request :: rest =>
    let (reply, m) := m.serve request
    let (replies, m) := m.serveAll rest
    (reply :: replies, m)

/-! ## What a request can do -/

/-- A request that breaks a rule or names no entry fails in one of two ways. -/
inductive Refusal : ConfigError → Prop
  | validation (reason : String) : Refusal (.validation reason)
  | notFound (reason : String) : Refusal (.notFound reason)

/-- The reply to a request and the ledger after it, in the five cases that there are. -/
inductive Served (m : Ledger) : Request → Reply × Ledger → Prop
  | refused {request : Request} {error : ConfigError} :
      Refusal error → Served m request (.error error, m)
  | taken {now : Moment} {e : ConfigEdit} {r : Entry} :
      m.entry? (m.ids m.drawn) = some r →
      Served m (.upsert now e)
        (.error (Ledger.taken (m.ids m.drawn)), { m with drawn := m.drawn + 1 })
  | created {now : Moment} {e : ConfigEdit} :
      e.fault? = none → m.entry? (m.ids m.drawn) = none →
      Served m (.upsert now e) (.ok (some (Entry.created (m.ids m.drawn) now e).view),
        { m with
          entries := m.entries ++ [Entry.created (m.ids m.drawn) now e], drawn := m.drawn + 1 })
  | edited {now : Moment} {e : ConfigEdit} {id : ObjectId} {r : Entry} :
      e.fault? = none → m.entry? id = some r →
      Served m (.upsert now e) (.ok (some (r.edited now e).view),
        { m with entries := m.entries.map fun r => if r.id = id then r.edited now e else r })
  | deleted {text : String} {id : ObjectId} {r : Entry} :
      m.entry? id = some r →
      Served m (.delete text) (.ok none, { m with entries := m.entries.filter fun r => r.id ≠ id })

theorem served_serve (m : Ledger) (request : Request) : m.Served request (m.serve request) := by
  cases request with
  | delete text =>
      simp only [serve, delete]
      split
      · exact .refused (.validation _)
      · split
        · exact .refused (.notFound _)
        · rename_i hentry
          exact .deleted hentry
  | upsert now e =>
      cases haccepted : e.fault? with
      | some fault =>
          simp only [serve, haccepted]
          exact .refused (.validation _)
      | none =>
          cases hid : e.id with
          | none =>
              simp only [serve, haccepted, hid, create]
              split
              · rename_i hentry
                exact .taken hentry
              · rename_i hentry
                exact .created haccepted hentry
          | some text =>
              simp only [serve, haccepted, hid, change]
              split
              · exact .refused (.validation _)
              · split
                · exact .refused (.notFound _)
                · rename_i hentry
                  exact .edited haccepted hentry

/-- An entry after a request is one from before it, or has been written by an accepted request. -/
inductive Origin (m : Ledger) : Request → Entry → Prop
  | kept {request : Request} {r : Entry} : r ∈ m.entries → Origin m request r
  | created {now : Moment} {e : ConfigEdit} :
      e.fault? = none → Origin m (.upsert now e) (Entry.created (m.ids m.drawn) now e)
  | edited {now : Moment} {e : ConfigEdit} {r : Entry} :
      e.fault? = none → r ∈ m.entries → Origin m (.upsert now e) (r.edited now e)

theorem Served.origin {m : Ledger} {request : Request} {served : Reply × Ledger}
    (h : m.Served request served) {r : Entry} (hr : r ∈ served.2.entries) : m.Origin request r := by
  cases h with
  | refused _ => exact .kept hr
  | taken _ => exact .kept hr
  | deleted _ => exact .kept (List.mem_filter.mp hr).1
  | created haccepted _ =>
      rcases List.mem_append.mp hr with hr | hr
      · exact .kept hr
      · exact List.mem_singleton.mp hr ▸ .created haccepted
  | edited haccepted _ =>
      obtain ⟨other, hother, rfl⟩ := List.mem_map.mp hr
      split
      · exact .edited haccepted hother
      · exact .kept hother

/-! ## The listing -/

/-- The entries as they are shown: each once, by name, those of one name in the order of their
creation. -/
structure Listed (m : Ledger) (shown : List Entry) : Prop where
  once : shown.Perm m.entries
  byName : shown.Pairwise fun r other => r.name ≤ other.name
  stable : ∀ name, (shown.filter fun r => r.name = name) = m.entries.filter fun r => r.name = name

theorem listed_mergeSort (m : Ledger) : m.Listed (m.entries.mergeSort fun r other => r.name ≤ other.name) := by
  have htrans : ∀ a b c : Entry, decide (a.name ≤ b.name) = true → decide (b.name ≤ c.name) = true →
      decide (a.name ≤ c.name) = true := by
    intro a b c hab hbc
    exact decide_eq_true (String.le_trans (of_decide_eq_true hab) (of_decide_eq_true hbc))
  have htotal : ∀ a b : Entry, (decide (a.name ≤ b.name) || decide (b.name ≤ a.name)) = true := by
    intro a b
    simpa using String.le_total a.name b.name
  have hperm := List.mergeSort_perm m.entries fun r other => decide (r.name ≤ other.name)
  refine ⟨hperm, ?_, fun name => ?_⟩
  · exact (List.pairwise_mergeSort htrans htotal m.entries).imp of_decide_eq_true
  · -- the entries of one name are in order, so that sorting leaves them a sublist
    have hordered : (m.entries.filter fun r => r.name = name).Pairwise
        fun r other => decide (r.name ≤ other.name) = true := by
      refine List.pairwise_of_forall_mem_list fun r hr other hother => ?_
      have hr := of_decide_eq_true (List.mem_filter.mp hr).2
      have hother := of_decide_eq_true (List.mem_filter.mp hother).2
      rw [hr, hother]
      exact decide_eq_true (String.le_refl name)
    have hsublist := (List.sublist_mergeSort htrans htotal hordered List.filter_sublist).filter
      fun r => r.name = name
    rw [List.filter_filter] at hsublist
    simp only [Bool.and_self] at hsublist
    exact (hsublist.eq_of_length (hperm.filter _).length_eq.symm).symm

/-! ## The supply of identities -/

/-- The identity of every entry has been drawn since the supply stood at `start`. -/
def SuppliedFrom (start : Nat) (m : Ledger) : Prop :=
  ∀ r ∈ m.entries, ∃ i, start ≤ i ∧ i < m.drawn ∧ r.id = m.ids i

/-- What a request does to the supply, where the next identity is not taken. -/
structure Supplies (start : Nat) (m : Ledger) (served : Reply × Ledger) : Prop where
  supplied : served.2.SuppliedFrom start
  ids : served.2.ids = m.ids
  drawn_ge : m.drawn ≤ served.2.drawn
  drawn_le : served.2.drawn ≤ m.drawn + 1
  refusal : ∀ error, served.1 = .error error → Refusal error

section Supply

variable {start : Nat} {m : Ledger} (hm : m.SuppliedFrom start)
include hm

/-- An identity apart from all that were drawn before it is not taken. -/
theorem entry?_eq_none_of_apart (h : ∀ j, start ≤ j → j < m.drawn → m.ids j ≠ m.ids m.drawn) :
    m.entry? (m.ids m.drawn) = none := by
  refine List.find?_eq_none.mpr fun r hr htaken => ?_
  obtain ⟨i, hstart, hdrawn, hid⟩ := hm r hr
  exact h i hstart hdrawn (hid.symm.trans (of_decide_eq_true htaken))

theorem supplies_of_served (hstart : start ≤ m.drawn) (hfree : m.entry? (m.ids m.drawn) = none)
    {request : Request} {served : Reply × Ledger} (h : m.Served request served) :
    Supplies start m served := by
  cases h with
  | refused hrefusal =>
      exact ⟨hm, rfl, Nat.le_refl _, Nat.le_succ _, fun _ herror => Except.error.inj herror ▸ hrefusal⟩
  | taken hentry => exact nomatch hfree.symm.trans hentry
  | created _ _ =>
      refine ⟨fun r hr => ?_, rfl, Nat.le_succ _, Nat.le_refl _, fun _ herror => nomatch herror⟩
      rcases List.mem_append.mp hr with hr | hr
      · obtain ⟨i, hi, hdrawn, hid⟩ := hm r hr
        exact ⟨i, hi, Nat.lt_succ_of_lt hdrawn, hid⟩
      · obtain rfl := List.mem_singleton.mp hr
        exact ⟨m.drawn, hstart, Nat.lt_succ_self _, rfl⟩
  | edited _ _ =>
      refine ⟨fun r hr => ?_, rfl, Nat.le_refl _, Nat.le_succ _, fun _ herror => nomatch herror⟩
      -- a change leaves the identities alone
      obtain ⟨other, hother, rfl⟩ := List.mem_map.mp hr
      split
      · exact hm other hother
      · exact hm other hother
  | deleted _ =>
      exact ⟨fun r hr => hm r (List.mem_filter.mp hr).1, rfl, Nat.le_refl _, Nat.le_succ _,
        fun _ herror => nomatch herror⟩

/-- Where the identities drawn are apart, every failure is a refusal. -/
theorem refusal_of_serveAll (hstart : start ≤ m.drawn) {requests : List Request}
    (hids : ∀ i j, start ≤ j → j < i → i < m.drawn + requests.length → m.ids j ≠ m.ids i) :
    ∀ error, .error error ∈ (m.serveAll requests).1 → Refusal error := by
  induction requests generalizing m with
  | nil => exact fun _ h => absurd h List.not_mem_nil
  | cons request rest ih =>
      rw [List.length_cons] at hids
      have hfree := entry?_eq_none_of_apart hm fun j hj hdrawn =>
        hids m.drawn j hj hdrawn (by omega)
      have hserve := supplies_of_served hm hstart hfree (m.served_serve request)
      have hge := hserve.drawn_ge
      have hle := hserve.drawn_le
      have hrest := ih hserve.supplied (by omega) fun i j hj hi hbound => by
        rw [hserve.ids]
        exact hids i j hj hi (by omega)
      intro error herror
      rcases List.mem_cons.mp herror with herror | herror
      · exact hserve.refusal error herror.symm
      · exact hrest error herror

end Supply

/-! ## The documents of entries -/

namespace Entry

def document (r : Entry) : Document :=
  ⟨[("name", .string r.name),
    ("display_name", .string r.displayName),
    ("model", .string r.model),
    ("api_key", Bson.ofOption .string r.apiKey),
    ("base_url", Bson.ofOption .string r.baseUrl),
    ("temperature", .double r.temperature),
    ("max_tokens", .int64 r.maxTokens),
    ("timeout", .int64 r.timeout),
    ("enabled", .boolean r.enabled),
    ("is_active", .boolean r.enabled),
    ("created_at", .string r.createdAt),
    ("updated_at", .string r.updatedAt),
    ("_id", .objectId r.id)]⟩

/-- What the document of an entry is read as. -/
def record (r : Entry) : ProviderRecord where
  id := some (.objectId r.id)
  name := r.name
  displayName := some r.displayName
  model := some r.model
  extraConfig := none
  apiKey := r.apiKey
  baseUrl := r.baseUrl
  defaultBaseUrl := none
  temperature := some (.double r.temperature)
  maxTokens := some (.int64 r.maxTokens)
  timeout := some (.int64 r.timeout)
  enabled := some (.boolean r.enabled)
  isActive := some (.boolean r.enabled)
  createdAt := some (.string r.createdAt)
  updatedAt := some (.string r.updatedAt)

variable (r : Entry) (id : ObjectId) (now : Moment) (e : ConfigEdit)

theorem document_created :
    (e.creation now).insert "_id" (.objectId id) = (created id now e).document := rfl

/-- The key is the one field that a change may leave alone. -/
theorem document_edited : r.document.merge (e.changes now) = (r.edited now e).document := by
  unfold ConfigEdit.changes edited
  cases e.trimmedKey with
  | none => rfl
  | some key => rfl

theorem decode_document : ProviderRecord.decode r.document = .ok r.record := by
  obtain ⟨id, name, displayName, model, apiKey, baseUrl, _, _, _, _, _, _⟩ := r
  cases apiKey <;> cases baseUrl <;> rfl

theorem ofRecord_record : ConfigView.ofRecord now r.record = r.view := rfl

theorem satisfies_document :
    r.document.satisfies (idFilter (.objectId id)) = decide (r.id = id) := by
  have h : r.document.satisfies (idFilter (.objectId id)) = (r.id == id && true) := rfl
  rw [h, Bool.and_true]
  rfl

end Entry

end Ledger

end ProviderRegistry
