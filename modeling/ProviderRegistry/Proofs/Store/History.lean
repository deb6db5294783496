/-
# `Proofs.Store.History` — documents under distinct identities, in the order of their addition

A collection is a list, and nothing in it tells when its documents were added.
That is told by its `Places`, which are kept beside it: every document that is
added gets a place after all others, one that is changed keeps it, and one that
is removed leaves it empty.  No place is ever taken away, moved or filled again
(`Places.Extends`), so the order of the places is that of the additions.

A database is `Ordered` by a `History`, the places of all collections, if every
collection holds just what is in its places, and if its identities are distinct.
Every call keeps that unless it sets an identity on a document that is there,
whether it is answered or refused, and so does every script of such calls.

## What is proved

    an answered call edits the documents of its target     (`documents_of_answered`)
    and keeps their identities distinct                     (`distinctIds_of_answered`)
    the places of the target are edited alike               (`Call.reduceOption_places`)
      and extended                                          (`Call.extends_places`)
    one call and a whole script keep the order              (`Ordered.answer`, `Ordered.run`)
-/
import Mathlib.Data.List.Forall2
import Mathlib.Data.List.ReduceOption
import ProviderRegistry.Proofs.Fields
import ProviderRegistry.Proofs.Store.Identities

namespace ProviderRegistry

/-! ## Places -/

/-- One place for every document that was ever added, in the order of addition; a place is empty
where its document has been removed. -/
abbrev Places := List (Option Document)

namespace Places

/-- The first document that matches a filter, changed in its place or removed from it. -/
def changeFirst (filter : Document) (f : Document → Option Document) : Places → Places
  | [] => []
  | none :: rest => none :: changeFirst filter f rest
  | some d :: rest =>
    if d.satisfies filter then f d :: rest else some d :: changeFirst filter f rest

/-- Places are only added after the others, and whoever is in an old one has been there before,
under the same identity. -/
structure Extends (before after : Places) : Prop where
  grown : before.length ≤ after.length
  stayed : ∀ i < before.length, ∀ d, after[i]? = some (some d) →
    ∃ was, before[i]? = some (some was) ∧ d.get? "_id" = was.get? "_id"

theorem Extends.refl (places : Places) : places.Extends places :=
  ⟨Nat.le_refl _, fun _ _ d hd => ⟨d, hd, rfl⟩⟩

theorem Extends.trans {a b c : Places} (hab : a.Extends b) (hbc : b.Extends c) : a.Extends c := by
  refine ⟨Nat.le_trans hab.grown hbc.grown, fun i hi d hd => ?_⟩
  obtain ⟨was, hwas, hid⟩ := hbc.stayed i (Nat.lt_of_lt_of_le hi hab.grown) d hd
  obtain ⟨first, hfirst, hid'⟩ := hab.stayed i hi was hwas
  exact ⟨first, hfirst, hid.trans hid'⟩

theorem extends_append (places : Places) (d : Document) : places.Extends (places ++ [some d]) := by
  refine ⟨by simp, fun i hi d' hd' => ?_⟩
  rw [List.getElem?_append_left hi] at hd'
  exact ⟨d', hd', rfl⟩

/-- Places of which each stays empty, is emptied, or keeps its document's identity. -/
theorem extends_of_forall₂ {before after : Places} (h : List.Forall₂ (fun old new =>
      ∀ d ∈ new, ∃ was ∈ old, d.get? "_id" = was.get? "_id") before after) :
    before.Extends after := by
  refine ⟨Nat.le_of_eq h.length_eq, fun i hi d hd => ?_⟩
  have hi' : i < after.length := h.length_eq ▸ hi
  have hd' : after[i] = some d := Option.some.inj ((List.getElem?_eq_getElem hi').symm.trans hd)
  obtain ⟨was, hwas, hid⟩ := h.get hi hi' d hd'
  exact ⟨was, (List.getElem?_eq_getElem hi).trans (congrArg some hwas), hid⟩

theorem extends_changeFirst {filter : Document} {f : Document → Option Document}
    (hf : ∀ d, ∀ changed ∈ f d, changed.get? "_id" = d.get? "_id") (places : Places) :
    places.Extends (places.changeFirst filter f) := by
  have hsame : ∀ rest : Places, List.Forall₂ (fun old new : Option Document =>
      ∀ d ∈ new, ∃ was ∈ old, d.get? "_id" = was.get? "_id") rest rest :=
    fun rest => List.forall₂_same.mpr fun _ _ d hd => ⟨d, hd, rfl⟩
  refine extends_of_forall₂ ?_
  induction places with
  | nil => exact .nil
  | cons place rest ih =>
      cases place with
      | none => exact .cons nofun ih
      | some d =>
          unfold changeFirst
          split
          · exact .cons (fun changed hchanged => ⟨d, rfl, hf d changed hchanged⟩) (hsame rest)
          · exact .cons (fun d' hd' => ⟨d', hd', rfl⟩) ih

theorem extends_map_filter (p : Document → Bool) (places : Places) :
    places.Extends (places.map (Option.filter p)) := by
  refine extends_of_forall₂ (List.forall₂_map_right_iff.mpr (List.forall₂_same.mpr ?_))
  intro place _ d hd
  exact ⟨d, (Option.filter_eq_some_iff.mp hd).1, rfl⟩

/-! ### The documents that are left -/

theorem reduceOption_changeFirst_update (filter fields : Document) (places : Places) :
    (places.changeFirst filter fun d => some (d.merge fields)).reduceOption
      = (Database.updateFirst filter fields places.reduceOption).getD places.reduceOption := by
  induction places with
  | nil => rfl
  | cons place rest ih =>
      cases place with
      | none => simpa [changeFirst] using ih
      | some d =>
          by_cases hd : d.satisfies filter
          · simp [changeFirst, Database.updateFirst, hd]
          · simp [changeFirst, Database.updateFirst, hd, ih, Option.getD_map]

theorem reduceOption_changeFirst_drop (filter : Document) (places : Places) :
    (places.changeFirst filter fun _ => none).reduceOption
      = (Database.dropFirst filter places.reduceOption).getD places.reduceOption := by
  induction places with
  | nil => rfl
  | cons place rest ih =>
      cases place with
      | none => simpa [changeFirst] using ih
      | some d =>
          by_cases hd : d.satisfies filter
          · simp [changeFirst, Database.dropFirst, hd]
          · simp [changeFirst, Database.dropFirst, hd, ih, Option.getD_map]

theorem reduceOption_map_filter (p : Document → Bool) (places : Places) :
    (places.map (Option.filter p)).reduceOption = places.reduceOption.filter p := by
  induction places with
  | nil => rfl
  | cons place rest ih =>
      cases place with
      | none => simpa using ih
      | some d => by_cases hd : p d <;> simp [Option.filter, hd, ih]

end Places

/-! ## What a call makes of the documents of its target -/

namespace Call

/-- The documents of the target after a call that is answered. -/
def edit (db : Database) : Call → List Document → List Document
  | .insert _ d, ds => ds ++ [(db.identify d).2.1]
  | .update _ filter fields, ds => (Database.updateFirst filter fields ds).getD ds
  | .deleteFirst _ filter, ds => (Database.dropFirst filter ds).getD ds
  | .deleteAll _ filter, ds => ds.filter fun d => !d.satisfies filter
  | _, ds => ds

/-- The places of the target after a call that is answered. -/
def places (db : Database) : Call → Places → Places
  | .insert _ d, old => old ++ [some (db.identify d).2.1]
  | .update _ filter fields, old => old.changeFirst filter fun d => some (d.merge fields)
  | .deleteFirst _ filter, old => old.changeFirst filter fun _ => none
  | .deleteAll _ filter, old => old.map (Option.filter fun d => !d.satisfies filter)
  | _, old => old

/-- What is left in the places is what the call makes of the documents. -/
theorem reduceOption_places (db : Database) (call : Call) (old : Places) :
    (call.places db old).reduceOption = call.edit db old.reduceOption := by
  cases call with
  | find | count | newId => rfl
  | insert c d => exact List.reduceOption_append old _
  | update c filter fields => exact old.reduceOption_changeFirst_update filter fields
  | deleteFirst c filter => exact old.reduceOption_changeFirst_drop filter
  | deleteAll c filter => exact old.reduceOption_map_filter _

/-- A call that does not set an identity on a document that is there. -/
def KeepsIds : Call → Prop
  | .update _ _ fields => "_id" ∉ Fields.keys fields.fields
  | _ => True

theorem keepsIds_of_untargeted {call : Call} (h : call.target? = none) : call.KeepsIds := by
  cases call with
  | update => exact nomatch h
  | find | count | insert | deleteFirst | deleteAll | newId => trivial

theorem extends_places {call : Call} (h : call.KeepsIds) (db : Database) (old : Places) :
    old.Extends (call.places db old) := by
  cases call with
  | find | count | newId => exact .refl old
  | insert c d => exact old.extends_append _
  | update c filter fields =>
      refine old.extends_changeFirst fun d changed hchanged => ?_
      obtain rfl := Option.some.inj hchanged
      exact d.get?_merge_of_not_mem h
  | deleteFirst c filter =>
      exact old.extends_changeFirst fun _ _ hremoved => absurd hremoved (Option.not_mem_none _)
  | deleteAll c filter => exact old.extends_map_filter _

end Call

namespace Database

variable {db after : Database} {c : String}

theorem get?_identify (db : Database) (d : Document) :
    (db.identify d).2.1.get? "_id" = some (db.identify d).1 := by
  unfold identify
  cases hid : d.get? "_id" with
  | some id => exact hid
  | none => exact d.get?_insert_self "_id" _

theorem documents_change {changed : Option (List Document)} {found : Bool}
    (h : db.change c changed = (found, after)) :
    after.documents = (db.put c (changed.getD (db.documents c))).documents := by
  cases changed with
  | some ds => rw [← (Prod.mk.inj h).2, Option.getD_some]
  | none => rw [← (Prod.mk.inj h).2, Option.getD_none, put_documents]

/-- A call that is answered edits the documents of its target, and no others. -/
theorem documents_of_answered {call : Call} {value : call.Reply}
    (h : db.answer call = (.ok value, after)) (hc : call.target? = some c) :
    after.documents = (db.put c (call.edit db (db.documents c))).documents := by
  cases call with
  | find | count | newId => exact nomatch hc
  | insert c' d =>
      obtain rfl := Option.some.inj hc
      obtain ⟨-, -, rfl⟩ := insertIn_answered (guarded_answered h)
      exact db.documents_seedOne c' d
  | update c' filter fields =>
      obtain rfl := Option.some.inj hc
      exact documents_change (Prod.ext rfl (Prod.mk.inj (guarded_answered h)).2)
  | deleteFirst c' filter =>
      obtain rfl := Option.some.inj hc
      exact documents_change (Prod.ext rfl (Prod.mk.inj (guarded_answered h)).2)
  | deleteAll c' filter =>
      obtain rfl := Option.some.inj hc
      rw [← (Prod.mk.inj (guarded_answered h)).2]
      rfl

end Database

/-! ## Distinct identities -/

namespace DistinctIds

variable {ds es : List Document}

/-- One more document, under an identity of its own. -/
theorem concat (h : DistinctIds ds) {d : Document} {id : Bson} (hid : d.get? "_id" = some id)
    (hfree : ∀ other ∈ ds, ∀ x ∈ other.get? "_id", x.same id = false) :
    DistinctIds (ds ++ [d]) := by
  refine ⟨fun other hother => ?_, List.pairwise_append.mpr
    ⟨h.apart, List.pairwise_singleton _ d, fun other hother d' hd' x hx y hy => ?_⟩⟩
  · rcases List.mem_append.mp hother with hother | hother
    · exact h.identified other hother
    · rw [List.mem_singleton.mp hother, hid]
      rfl
  · rw [List.mem_singleton.mp hd', hid] at hy
    exact Option.some.inj hy ▸ hfree other hother x hx

/-- Only the identities count. -/
theorem of_map_eq (h : DistinctIds ds) (heq : es.map (·.get? "_id") = ds.map (·.get? "_id")) :
    DistinctIds es := by
  have hall : ∀ id? ∈ ds.map (·.get? "_id"), id?.isSome := List.forall_mem_map.mpr h.identified
  have hapart : (ds.map (·.get? "_id")).Pairwise
      fun earlier later => ∀ x ∈ earlier, ∀ y ∈ later, x.same y = false :=
    List.pairwise_map.mpr h.apart
  rw [← heq] at hall hapart
  exact ⟨List.forall_mem_map.mp hall, List.pairwise_map.mp hapart⟩

end DistinctIds

namespace Database

variable {db after : Database} {c : String}

theorem map_updateFirst {filter fields : Document} (h : "_id" ∉ Fields.keys fields.fields)
    (ds : List Document) :
    ((updateFirst filter fields ds).getD ds).map (·.get? "_id") = ds.map (·.get? "_id") := by
  induction ds with
  | nil => rfl
  | cons d rest ih =>
      by_cases hd : d.satisfies filter
      · simp [updateFirst, hd, d.get?_merge_of_not_mem h]
      · simp [updateFirst, hd, Option.getD_map, ih]

theorem dropFirst_sublist (filter : Document) (ds : List Document) :
    ((dropFirst filter ds).getD ds).Sublist ds := by
  induction ds with
  | nil => exact .slnil
  | cons d rest ih =>
      by_cases hd : d.satisfies filter
      · simp [dropFirst, hd]
      · simpa [dropFirst, hd, Option.getD_map] using ih

/-- A call that is answered and keeps the identities that are there keeps them distinct: it is
refused if it would add one a second time. -/
theorem distinctIds_of_answered {call : Call} {value : call.Reply}
    (h : db.answer call = (.ok value, after)) (hkeeps : call.KeepsIds)
    (hc : call.target? = some c) (hids : DistinctIds (db.documents c)) :
    DistinctIds (call.edit db (db.documents c)) := by
  cases call with
  | find | count | newId => exact nomatch hc
  | insert c' d =>
      obtain rfl := Option.some.inj hc
      have hfree := (insertIn_answered (guarded_answered h)).1
      exact hids.concat (db.get?_identify d) (not_holds_iff.mp hfree)
  | update c' filter fields => exact hids.of_map_eq (map_updateFirst hkeeps _)
  | deleteFirst c' filter => exact hids.sublist (dropFirst_sublist filter _)
  | deleteAll c' filter => exact hids.sublist List.filter_sublist

end Database

/-! ## Histories -/

/-- The places of all collections. -/
abbrev History := String → Places

/-- What is left in the places of a collection are its documents, under distinct identities.  The
places have come from those of an earlier time. -/
structure Places.Order (since places : Places) (ds : List Document) : Prop where
  extends_since : since.Extends places
  present : ds = places.reduceOption
  distinct : DistinctIds ds

/-- Every collection of a database is in the order of its places. -/
def Ordered (since history : History) (db : Database) : Prop :=
  ∀ c, Places.Order (since c) (history c) (db.documents c)

namespace Ordered

variable {since history : History} {db after : Database} {c : String}

/-- The places as they are become those of the earlier time. -/
theorem renew (h : Ordered since history db) : Ordered history history db :=
  fun c => { h c with extends_since := .refl (history c) }

theorem of_documents (h : Ordered since history db) (heq : after.documents = db.documents) :
    Ordered since history after :=
  fun c => congrFun heq c ▸ h c

/-- One collection and its places are replaced. -/
theorem update (h : Ordered since history db) {ds : List Document} {places : Places}
    (hafter : after.documents = (db.put c ds).documents) (hplaces : (history c).Extends places)
    (hpresent : ds = places.reduceOption) (hids : DistinctIds ds) :
    Ordered since (Function.update history c places) after := by
  intro other
  rw [hafter]
  by_cases hne : other = c
  · rw [hne, Function.update_self, Database.documents_put_self]
    exact ⟨(h c).extends_since.trans hplaces, hpresent, hids⟩
  · rw [Function.update_of_ne hne, Database.documents_put_ne db hne]
    exact h other

end Ordered

/-- The history after a call: the places of its target are edited if it is answered. -/
def History.after (history : History) (db : Database) (call : Call) : History :=
  match call.target?, (db.answer call).1 with
  | some c, .ok _ => Function.update history c (call.places db (history c))
  | _, _ => history

/-- The history after a script. -/
def History.run {α : Type} (history : History) : Script α → Database → History
  | .done _, _ | .fail _, _ => history
  | .ask call next, db =>
    (history.after db call).run (next (db.answer call).1) (db.answer call).2

/-- A call that keeps identities keeps the order, be it answered or refused. -/
theorem Ordered.answer {since history : History} {db : Database} (h : Ordered since history db)
    {call : Call} (hkeeps : call.KeepsIds) :
    Ordered since (history.after db call) (db.answer call).2 := by
  unfold History.after
  rcases hanswer : db.answer call with ⟨error | value, after⟩
  · have halike : db.Alike (fun _ => True) after := Database.alike_of_refused hanswer
    have hrefused := h.of_documents (funext fun c => halike.documents c trivial)
    cases call.target? <;> exact hrefused
  · cases htarget : call.target? with
    | none =>
        have halike := db.alike_answer (s := fun _ => True) call fun c hc => by
          rw [htarget] at hc
          exact nomatch hc
        rw [hanswer] at halike
        exact h.of_documents (funext fun c => halike.documents c trivial)
    | some c =>
        refine h.update (Database.documents_of_answered hanswer htarget)
          (Call.extends_places hkeeps db (history c)) ?_
          (Database.distinctIds_of_answered hanswer hkeeps htarget (h c).distinct)
        rw [call.reduceOption_places, (h c).present]

/-! ## Scripts -/

namespace Script

variable {α β : Type} {P : Call → Prop} {s : String → Prop}

/-- Every call that a script can come to make is one of `P`. -/
def Asks (P : Call → Prop) : Script α → Prop
  | .done _ | .fail _ => True
  | .ask call next => P call ∧ ∀ reply, (next reply).Asks P

theorem asks_pure (value : α) : (pure value : Script α).Asks P := trivial

theorem asks_fail (error : ConfigError) : (fail error : Script α).Asks P := trivial

theorem Asks.bind {script : Script α} {f : α → Script β} (h : script.Asks P)
    (hf : ∀ value, (f value).Asks P) : (script >>= f).Asks P := by
  induction script with
  | done value => exact hf value
  | fail _ => trivial
  | ask call next ih => exact ⟨h.1, fun reply => ih reply (h.2 reply)⟩

theorem asks_call {call : Call} (h : P call) : (Script.call call).Asks P := by
  refine ⟨h, fun reply => ?_⟩
  cases reply <;> trivial

/-- A script that changes only certain collections asks only calls that do. -/
theorem Spares.asks {script : Script α} (h : script.Spares s)
    (hP : ∀ call : Call, (∀ c, call.target? = some c → ¬ s c) → P call) : script.Asks P := by
  induction script with
  | done _ | fail _ => trivial
  | ask call next ih => exact ⟨hP call h.1, fun reply => ih reply (h.2 reply)⟩

/-- A script that changes nothing keeps identities. -/
theorem Spares.asks_keepsIds {script : Script α} (h : script.Spares fun _ => True) :
    script.Asks Call.KeepsIds :=
  h.asks fun call hcall => Call.keepsIds_of_untargeted <| by
    cases htarget : call.target? with
    | none => rfl
    | some c => exact absurd trivial (hcall c htarget)

theorem Reads.asks_keepsIds {script : Script α} (h : script.Reads s) :
    script.Asks Call.KeepsIds :=
  (h.spares fun _ => True).asks_keepsIds

theorem asks_insertAll (c : String) (hP : ∀ d, P (.insert c d)) :
    ∀ ds, (insertAll c ds).Asks P
  | [] => trivial
  | d :: rest =>
      (asks_call (hP d)).bind fun _ => (asks_insertAll c hP rest).bind fun _ => trivial

end Script

/-- A script of calls that keep identities keeps the order, however it ends. -/
theorem Ordered.run {α : Type} {since history : History} {db : Database}
    (h : Ordered since history db) {script : Script α} (hscript : script.Asks Call.KeepsIds) :
    Ordered since (history.run script db) (script.run db).2 := by
  induction script generalizing history db with
  | done _ | fail _ => exact h
  | ask call next ih => exact ih _ (h.answer hscript.1) (hscript.2 _)

end ProviderRegistry
