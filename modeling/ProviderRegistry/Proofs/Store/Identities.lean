/-
# `Proofs.Store.Identities` — documents that a collection takes one after the other

A collection refuses a document whose identity it already holds.  `DistinctIds`
says of a list that this never happens while it is added: every document has an
identity, and no later one has the identity of an earlier one, by the equality
that the store uses.

## What is proved

With the collection usable and the identities distinct, adding a list cannot
stop early, and it can only be interrupted in one way:

    (insertAll c ds).run db    =  (ok, db with ds at the end of c)           (`run_insertAll`)
    (insertAll c ds).stop n db =  db with the first n of ds at the end of c  (`stop_insertAll`)
-/
import ProviderRegistry.Proofs.Store.Runs

namespace ProviderRegistry

/-- Every document has an identity, and no document has that of an earlier one. -/
structure DistinctIds (ds : List Document) : Prop where
  identified : ∀ d ∈ ds, (d.get? "_id").isSome
  apart : ds.Pairwise fun earlier later =>
    ∀ x ∈ earlier.get? "_id", ∀ y ∈ later.get? "_id", x.same y = false

namespace DistinctIds

theorem nil : DistinctIds [] := ⟨fun _ h => absurd h List.not_mem_nil, .nil⟩

theorem sublist {ds es : List Document} (h : DistinctIds es) (hsub : ds.Sublist es) :
    DistinctIds ds :=
  ⟨fun d hd => h.identified d (hsub.subset hd), h.apart.sublist hsub⟩

theorem take {ds : List Document} (h : DistinctIds ds) (n : Nat) : DistinctIds (ds.take n) :=
  h.sublist (List.take_sublist n ds)

end DistinctIds

namespace Document

/-- The empty filter takes every document. -/
@[simp] theorem satisfies_empty (d : Document) : d.satisfies empty = true := rfl

end Document

namespace Database

@[simp] theorem findIn_empty (db : Database) (c : String) :
    db.findIn c Document.empty = db.documents c := by
  simp [findIn]

/-- A document whose identity is its own and new goes to the end of the collection. -/
theorem insertIn_of_distinctIds {db : Database} {c : String} {d : Document}
    (h : DistinctIds (db.documents c ++ [d])) :
    ∃ id, db.insertIn c d = (.ok id, db.put c (db.documents c ++ [d])) := by
  obtain ⟨id, hid⟩ := Option.isSome_iff_exists.mp (h.identified d (by simp))
  have hfree : ¬ db.Holds c id := by
    refine not_holds_iff.mpr fun other hother x hx => ?_
    exact (List.pairwise_append.mp h.apart).2.2 other hother d (List.mem_singleton.mpr rfl) x hx
      id hid
  refine ⟨id, ?_⟩
  rw [← db.seedOne_of_some c hid, insertIn_of_free] <;> rw [db.identify_of_some hid]
  exact hfree

end Database

namespace Script

variable {db : Database} {c : String}

/-! ## The calls on a collection -/

/-- A call on a collection that cannot be used fails, and changes nothing. -/
theorem run_call_of_fault {call : Call} {fault : StoreFault} (h : db.fault? c = some fault)
    (hc : call.source? = some c ∨ call.target? = some c) :
    (Script.call call).run db = (.error fault.toError, db) :=
  (run_call call db).trans (Database.answer_of_fault h hc)

theorem run_find (h : db.fault? c = none) (filter : Document) :
    (find c filter).run db = (.ok (db.findIn c filter), db.counted) := by
  refine (run_call (.find c filter) db).trans ?_
  simp only [Database.answer, Database.guarded, h]

theorem run_deleteAll (h : db.fault? c = none) :
    (deleteAll c Document.empty).run db = (.ok (db.documents c).length, db.put c []) := by
  have hkept : (db.documents c).filter (fun d => !d.satisfies Document.empty) = [] :=
    List.filter_eq_nil_iff.mpr fun d _ => by simp
  refine (run_call (.deleteAll c Document.empty) db).trans ?_
  simp only [Database.answer, Database.guarded, h, hkept, List.length_nil, Nat.sub_zero]

theorem run_count (h : db.fault? c = none) :
    (count c).run db = (.ok (db.documents c).length, db.counted) := by
  refine (run_call (.count c) db).trans ?_
  simp only [Database.answer, Database.guarded, h]

theorem answer_insert {d : Document} (h : db.fault? c = none)
    (hids : DistinctIds (db.documents c ++ [d])) :
    ∃ id, db.answer (.insert c d) = (.ok id, db.put c (db.documents c ++ [d])) := by
  obtain ⟨id, hid⟩ := Database.insertIn_of_distinctIds hids
  refine ⟨id, ?_⟩
  simp only [Database.answer, Database.guarded, h, hid]

/-! ### What they have come to where they have ended -/

section Ended

variable {after : Database}

theorem usable_of_run_call {call : Call} {value : call.Reply}
    (hc : call.source? = some c ∨ call.target? = some c)
    (h : (Script.call call).run db = (.ok value, after)) : db.fault? c = none :=
  Database.usable_of_answered hc ((run_call call db).symm.trans h)

theorem ok_of_run_find {ds : List Document}
    (h : (find c Document.empty).run db = (.ok ds, after)) :
    db.fault? c = none ∧ ds = db.documents c ∧ after = db.counted := by
  have husable := usable_of_run_call (.inl rfl) h
  rw [run_find husable, Database.findIn_empty] at h
  obtain ⟨hds, hafter⟩ := Prod.mk.inj h
  exact ⟨husable, (Except.ok.inj hds).symm, hafter.symm⟩

theorem ok_of_run_count {n : Nat} (h : (count c).run db = (.ok n, after)) :
    db.fault? c = none ∧ n = (db.documents c).length ∧ after = db.counted := by
  have husable := usable_of_run_call (.inl rfl) h
  rw [run_count husable] at h
  obtain ⟨hn, hafter⟩ := Prod.mk.inj h
  exact ⟨husable, (Except.ok.inj hn).symm, hafter.symm⟩

theorem ok_of_run_deleteAll {n : Nat}
    (h : (deleteAll c Document.empty).run db = (.ok n, after)) :
    db.fault? c = none ∧ after = db.put c [] := by
  have husable := usable_of_run_call (.inr rfl) h
  rw [run_deleteAll husable] at h
  exact ⟨husable, (Prod.mk.inj h).2.symm⟩

end Ended

/-! ## Adding a list -/

/-- A list with distinct identities is added whole and in order. -/
theorem run_insertAll (db : Database) {ds : List Document} (h : db.fault? c = none)
    (hids : DistinctIds (db.documents c ++ ds)) :
    (insertAll c ds).run db = (.ok ds.length, db.put c (db.documents c ++ ds)) := by
  induction ds generalizing db with
  | nil => simp [insertAll]
  | cons d rest ih =>
      have hids' : DistinctIds ((db.documents c ++ [d]) ++ rest) := by simpa using hids
      obtain ⟨id, hanswer⟩ := answer_insert h (hids'.sublist (List.sublist_append_left _ _))
      have hinsert : (insert c d).run db = (.ok id, db.put c (db.documents c ++ [d])) :=
        (run_call (.insert c d) db).trans hanswer
      have hrest := ih (db.put c (db.documents c ++ [d])) h (by simpa using hids)
      show (insert c d >>= fun _ => insertAll c rest >>= fun n => pure (n + 1)).run db = _
      rw [run_bind_ok hinsert, run_bind_ok hrest]
      simp

/-- An interrupted addition is a beginning of the whole one. -/
theorem stop_insertAll (db : Database) {ds : List Document} (h : db.fault? c = none)
    (hids : DistinctIds (db.documents c ++ ds)) (n : Nat) :
    (insertAll c ds).stop n db = db.put c (db.documents c ++ ds.take n) := by
  induction ds generalizing db n with
  | nil => simp [insertAll]
  | cons d rest ih =>
      cases n with
      | zero => simp
      | succ n =>
          have hids' : DistinctIds ((db.documents c ++ [d]) ++ rest) := by simpa using hids
          obtain ⟨id, hanswer⟩ := answer_insert h (hids'.sublist (List.sublist_append_left _ _))
          have hrest := ih (db.put c (db.documents c ++ [d])) h (by simpa using hids) n
          show (call (.insert c d) >>= fun _ =>
            insertAll c rest >>= fun n => pure (n + 1)).stop (n + 1) db = _
          rw [stop_call_bind hanswer, stop_bind_pure, hrest]
          simp

end Script

end ProviderRegistry
