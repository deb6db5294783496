/-
# `Proofs.Store.Operations` — what a store refuses, and what it has done by then

A store refuses an operation for one of two reasons.  It cannot be reached, or the
collection is marked failing; then every operation is refused alike, and nothing
has happened.  Or a document is to be added under an identity that is taken.

One document that is refused leaves everything as it was.  A batch is added one by
one, so a document can be refused for the sake of one before it, and those before
it stay.  It does not matter in which order the reasons are looked for:

    refused   ⟺   some document of the batch comes with the identity of one in the
                  collection, or of an earlier one of the batch

as long as the identities that are drawn for the others are new (`Unseen`).  Where
this is so, the documents before the first such one are there, and no other
(`refusals`).
-/
import Mathlib.Data.List.Induction
import ProviderRegistry.Proofs.Store.Seeding

namespace ProviderRegistry

/-! ## Operations -/

/-- An operation on a collection, by the type of its answer. -/
inductive StoreOperation : Type → Type where
  | find (filter : Document) : StoreOperation (List Document)
  | findFirst (filter : Document) : StoreOperation (Option Document)
  | count : StoreOperation Nat
  | insert (d : Document) : StoreOperation Bson
  | insertAll (ds : List Document) : StoreOperation Nat
  | update (filter fields : Document) : StoreOperation Bool
  | deleteFirst (filter : Document) : StoreOperation Bool
  | deleteAll (filter : Document) : StoreOperation Nat

namespace StoreOperation

variable {α : Type}

/-- The operation as a script of calls on a collection. -/
def script (c : String) : StoreOperation α → Script α
  | .find filter => .find c filter
  | .findFirst filter => .findFirst c filter
  | .count => .count c
  | .insert d => .insert c d
  | .insertAll ds => .insertAll c ds
  | .update filter fields => .update c filter fields
  | .deleteFirst filter => .deleteFirst c filter
  | .deleteAll filter => .deleteAll c filter

/-- The operation asks nothing of the store: no documents are to be added. -/
def Idle : StoreOperation α → Prop
  | .insertAll [] => True
  | _ => False

/-- The operation adds documents. -/
def Adds : StoreOperation α → Prop
  | .insert _ | .insertAll _ => True
  | _ => False

end StoreOperation

namespace Database

variable {db : Database} {c : String} {d : Document} {ds before rest : List Document}

/-! ## A store that cannot be used -/

/-- The store cannot be reached, or the collection is marked failing. -/
def Barred (db : Database) (c : String) : Prop := db.offline = true ∨ c ∈ db.failing

theorem fault?_eq_none_iff : db.fault? c = none ↔ ¬ db.Barred c := by
  unfold fault? Barred
  by_cases hoffline : db.offline = true
  · simp [hoffline]
  · by_cases hfailing : c ∈ db.failing
    · simp [hoffline, hfailing]
    · simp [hoffline, hfailing]

/-- Every operation is refused alike, and nothing has happened. -/
theorem run_of_barred {α : Type} (h : db.Barred c) {op : StoreOperation α} (hop : ¬ op.Idle) :
    ∃ reason, (op.script c).run db = (.error (.storeUnavailable reason), db) := by
  have hfault : db.fault? c ≠ none := fun hnone => fault?_eq_none_iff.mp hnone h
  obtain ⟨fault, hfault⟩ := Option.ne_none_iff_exists'.mp hfault
  refine ⟨fault.message, ?_⟩
  cases op with
  | find | count =>
      exact Script.run_call_of_fault hfault (.inl rfl)
  | insert | update | deleteFirst | deleteAll =>
      exact Script.run_call_of_fault hfault (.inr rfl)
  | findFirst filter =>
      have hfind : (Script.find c filter).run db = (.error fault.toError, db) :=
        Script.run_call_of_fault hfault (.inl rfl)
      exact Script.run_bind_error hfind
  | insertAll ds =>
      cases ds with
      | nil => exact absurd trivial hop
      | cons d rest =>
          have hinsert : (Script.insert c d).run db = (.error fault.toError, db) :=
            Script.run_call_of_fault hfault (.inr rfl)
          exact Script.run_bind_error hinsert

/-- What adds no documents is answered. -/
theorem run_of_not_adds {α : Type} (h : db.fault? c = none) {op : StoreOperation α}
    (hop : ¬ op.Adds) : ∃ value after, (op.script c).run db = (.ok value, after) := by
  have hguarded : ∀ {β : Type} (given : Outcome β × Database), db.guarded c given = given := by
    intro β given
    simp only [guarded, h]
  cases op with
  | find filter => exact ⟨_, _, Script.run_find h filter⟩
  | findFirst filter => exact ⟨_, _, Script.run_bind_ok (Script.run_find h filter)⟩
  | count => exact ⟨_, _, Script.run_count h⟩
  | insert | insertAll => exact absurd trivial hop
  | update filter fields => exact ⟨_, _, (Script.run_call _ db).trans (hguarded _)⟩
  | deleteFirst filter => exact ⟨_, _, (Script.run_call _ db).trans (hguarded _)⟩
  | deleteAll filter => exact ⟨_, _, (Script.run_call _ db).trans (hguarded _)⟩

/-! ## One document -/

theorem run_insert (h : db.fault? c = none) (d : Document) :
    (Script.insert c d).run db = db.insertIn c d := by
  refine (Script.run_call (.insert c d) db).trans ?_
  simp only [answer, guarded, h]

/-! ## Identities that come with documents, and those that are drawn -/

/-- The identities that come with the documents are not taken, neither in the collection nor by an
earlier one of the documents. -/
structure Untaken (db : Database) (c : String) (ds : List Document) : Prop where
  unused : ∀ present ∈ db.documents c, ∀ d ∈ ds, present.Apart d
  apart : ds.Pairwise Document.Apart

/-- The identities that are drawn for the other documents are new: they differ from one another, and
from all in the collection and among the documents. -/
structure Unseen (db : Database) (c : String) (ds : List Document) : Prop where
  supplied : db.Supplies (unidentified ds)
  fresh : ∀ i < unidentified ds, ∀ d ∈ db.documents c ++ ds, ∀ x ∈ d.get? "_id",
    x.same (.objectId (db.ids (db.drawn + i))) = false

instance (db : Database) (c : String) (ds : List Document) : Decidable (db.Untaken c ds) :=
  decidable_of_iff ((∀ present ∈ db.documents c, ∀ d ∈ ds, present.Apart d) ∧
      ds.Pairwise Document.Apart)
    ⟨fun ⟨unused, apart⟩ => ⟨unused, apart⟩, fun h => ⟨h.unused, h.apart⟩⟩

instance (db : Database) (c : String) (ds : List Document) : Decidable (db.Unseen c ds) :=
  decidable_of_iff (db.Supplies (unidentified ds) ∧
      ∀ i < unidentified ds, ∀ d ∈ db.documents c ++ ds, ∀ x ∈ d.get? "_id",
        x.same (.objectId (db.ids (db.drawn + i))) = false)
    ⟨fun ⟨supplied, fresh⟩ => ⟨supplied, fresh⟩, fun h => ⟨h.supplied, h.fresh⟩⟩

theorem Untaken.seedable (h : db.Untaken c ds) (hunseen : db.Unseen c ds) : db.Seedable c ds :=
  ⟨h.apart, h.unused, hunseen.supplied, hunseen.fresh⟩

theorem untaken_nil : db.Untaken c [] := ⟨fun _ _ _ h => absurd h List.not_mem_nil, .nil⟩

theorem Unseen.of_first (h : db.Unseen c ds) (hfirst : before <+: ds) : db.Unseen c before := by
  have hcount : unidentified before ≤ unidentified ds := hfirst.sublist.countP_le
  refine ⟨h.supplied.mono hcount, fun i hi d hd => ?_⟩
  have hmem : d ∈ db.documents c ++ ds := by
    rcases List.mem_append.mp hd with hd | hd
    · exact List.mem_append_left _ hd
    · exact List.mem_append_right _ (hfirst.subset hd)
  exact h.fresh i (Nat.lt_of_lt_of_le hi hcount) d hmem

/-- Where an identity is taken, there is a first document whose identity is. -/
theorem exists_first_taken (h : ¬ db.Untaken c ds) : ∃ before d rest,
    ds = before ++ d :: rest ∧ db.Untaken c before ∧ ¬ db.Untaken c (before ++ [d]) := by
  induction ds using List.reverseRecOn with
  | nil => exact absurd untaken_nil h
  | append_singleton front d ih =>
      by_cases hfront : db.Untaken c front
      · exact ⟨front, d, [], rfl, hfront, h⟩
      · obtain ⟨before, first, rest, rfl, hbefore, hfirst⟩ := ih hfront
        exact ⟨before, first, rest ++ [d], by simp, hbefore, hfirst⟩

/-- The first document whose identity is taken comes with that of one in the collection or before
it. -/
theorem exists_same_of_taken (h : db.Untaken c before) (hd : ¬ db.Untaken c (before ++ [d])) :
    ∃ other ∈ db.documents c ++ before, ∃ x ∈ other.get? "_id", ∃ y ∈ d.get? "_id",
      x.same y = true := by
  by_contra hnone
  have hall : ∀ other ∈ db.documents c ++ before, other.Apart d := by
    intro other hother x hx y hy
    by_contra hsame
    exact hnone ⟨other, hother, x, hx, y, hy, by simpa using hsame⟩
  refine hd ⟨fun present hpresent e he => ?_, ?_⟩
  · rcases List.mem_append.mp he with he | he
    · exact h.unused present hpresent e he
    · rw [List.mem_singleton.mp he]
      exact hall present (List.mem_append_left _ hpresent)
  · refine List.pairwise_append.mpr ⟨h.apart, List.pairwise_singleton _ d, ?_⟩
    intro other hother e he
    rw [List.mem_singleton.mp he]
    exact hall other (List.mem_append_right _ hother)

end Database

/-! ## Documents as they are added -/

/-- A document is added as it came, or with an identity put at its end if it came without one. -/
def Document.AddedAs (d e : Document) : Prop :=
  match d.get? "_id" with
  | some _ => e = d
  | none => ∃ oid, e = d.insert "_id" (.objectId oid)

namespace Database

variable {db after : Database} {c : String} {d : Document} {ds before : List Document}

/-- The documents, as they are added, stand in their order behind those of the collection, and
nothing else has changed that an operation could show. -/
structure Appended (db : Database) (c : String) (ds : List Document) (after : Database) : Prop where
  documents : ∃ added, List.Forall₂ Document.AddedAs ds added ∧
    after.documents = (db.put c (db.documents c ++ added)).documents
  offline : after.offline = db.offline
  failing : after.failing = db.failing
  queries : after.queries = db.queries

theorem addedAs_identify (db : Database) (d : Document) : d.AddedAs (db.identify d).2.1 := by
  unfold Document.AddedAs identify
  cases d.get? "_id" with
  | some id => rfl
  | none => exact ⟨_, rfl⟩

theorem fault?_seedOne (db : Database) (c : String) (d : Document) (other : String) :
    (db.seedOne c d).fault? other = db.fault? other := by
  rw [seedOne_drawn]
  rfl

theorem fault?_seed (db : Database) (c : String) (ds : List Document) (other : String) :
    (db.seed c ds).fault? other = db.fault? other := by
  induction ds generalizing db with
  | nil => rfl
  | cons d rest ih => rw [seed_cons, ih, fault?_seedOne]

theorem appended_seed (db : Database) (c : String) (ds : List Document) :
    db.Appended c ds (db.seed c ds) := by
  induction ds generalizing db with
  | nil => exact ⟨⟨[], .nil, by simp [seed]⟩, rfl, rfl, rfl⟩
  | cons d rest ih =>
      obtain ⟨⟨added, hadded, hdocuments⟩, hoffline, hfailing, hqueries⟩ := ih (db.seedOne c d)
      rw [seed_cons]
      refine ⟨⟨(db.identify d).2.1 :: added, .cons (db.addedAs_identify d) hadded, ?_⟩, ?_, ?_, ?_⟩
      · rw [hdocuments, documents_put_congr (db.documents_seedOne c d), put_put, documents_seedOne,
          documents_put_self, List.append_assoc]
        rfl
      · rw [hoffline, seedOne_drawn]
        rfl
      · rw [hfailing, seedOne_drawn]
        rfl
      · rw [hqueries, seedOne_drawn]
        rfl

/-- A document that came with its identity is found where it was added. -/
theorem mem_documents_seed {x : Bson} (hd : d ∈ db.documents c ++ ds)
    (hid : d.get? "_id" = some x) : d ∈ (db.seed c ds).documents c := by
  induction ds generalizing db with
  | nil => simpa [seed] using hd
  | cons first rest ih =>
      rw [seed_cons]
      apply ih
      rw [documents_seedOne, documents_put_self]
      rcases List.mem_append.mp hd with hd | hd
      · exact List.mem_append_left _ (List.mem_append_left _ hd)
      · rcases List.mem_cons.mp hd with rfl | hd
        · have hsame : (db.identify d).2.1 = d := by simp only [identify, hid]
          rw [hsame]
          exact List.mem_append_left _ (List.mem_append_right _ List.mem_cons_self)
        · exact List.mem_append_right _ hd

end Database

namespace Script

variable {db : Database} {c : String} {d : Document} {ds before rest : List Document}

/-! ## A batch -/

theorem run_insert_of_seedable (h : db.fault? c = none) (hds : db.Seedable c (d :: rest)) :
    (insert c d).run db = (.ok (db.identify d).1, db.seedOne c d) := by
  have hfree : ¬ db.Holds c (db.identify d).1 := Database.not_holds_iff.mpr hds.free
  exact (Database.run_insert h d).trans (Database.insertIn_of_free hfree)

/-- Documents of which none is refused are there when the others are added. -/
theorem run_insertAll_append (h : db.fault? c = none) (hbefore : db.Seedable c before)
    (rest : List Document) :
    (insertAll c (before ++ rest)).run db
      = (((insertAll c rest).run (db.seed c before)).1.map (before.length + ·),
          ((insertAll c rest).run (db.seed c before)).2) := by
  induction before generalizing db with
  | nil =>
      have hseed : db.seed c [] = db := rfl
      rw [List.nil_append, hseed, List.length_nil]
      rcases (insertAll c rest).run db with ⟨e | n, after⟩
      · rfl
      · simp [Except.map]
  | cons d more ih =>
      have hinsert := run_insert_of_seedable h hbefore
      have hmore := ih ((db.fault?_seedOne c d c).trans h) hbefore.tail
      show (insert c d >>= fun _ => insertAll c (more ++ rest) >>= fun n => pure (n + 1)).run db = _
      rw [run_bind_ok hinsert, Database.seed_cons]
      rcases hrest : (insertAll c rest).run ((db.seedOne c d).seed c more) with ⟨e | n, after⟩
      · rw [hrest] at hmore
        exact run_bind_error hmore
      · rw [hrest] at hmore
        rw [run_bind_ok hmore]
        simp [Except.map, Nat.add_right_comm]

theorem run_insertAll_of_seedable (h : db.fault? c = none) (hds : db.Seedable c ds) :
    (insertAll c ds).run db = (.ok ds.length, db.seed c ds) := by
  have hall := run_insertAll_append h hds []
  rw [List.append_nil] at hall
  exact hall

/-- A batch stops at the first document whose identity is taken. -/
theorem run_insertAll_of_taken (h : db.fault? c = none) (hbefore : db.Untaken c before)
    (hd : ¬ db.Untaken c (before ++ [d])) (hunseen : db.Unseen c before) (rest : List Document) :
    ∃ e, (insertAll c (before ++ d :: rest)).run db = (.error e, db.seed c before) := by
  obtain ⟨other, hother, x, hx, y, hy, hsame⟩ := Database.exists_same_of_taken hbefore hd
  have hidentity := (db.seed c before).identify_of_some hy
  have hheld : (db.seed c before).Holds c ((db.seed c before).identify d).1 := by
    rw [hidentity]
    exact ⟨other, Database.mem_documents_seed hother hx, x, hx, hsame⟩
  have hinsert : (insert c d).run (db.seed c before)
      = (.error (Database.duplicateId c y), db.seed c before) := by
    rw [Database.run_insert ((db.fault?_seed c before c).trans h), Database.insertIn_of_holds hheld,
      hidentity]
  have hrest : (insertAll c (d :: rest)).run (db.seed c before)
      = (.error (Database.duplicateId c y), db.seed c before) :=
    run_bind_error hinsert
  refine ⟨Database.duplicateId c y, ?_⟩
  rw [run_insertAll_append h (hbefore.seedable hunseen), hrest]
  rfl

end Script

namespace Database

variable {db after : Database} {c : String} {d : Document} {ds : List Document} {e : ConfigError}

/-! ## Refusals -/

/-- An identity that has been drawn is not held. -/
theorem holds_identify_iff (h : db.Unseen c [d]) :
    db.Holds c (db.identify d).1 ↔ ∃ id ∈ d.get? "_id", db.Holds c id := by
  cases hid : d.get? "_id" with
  | some id =>
      rw [db.identify_of_some hid]
      simp
  | none =>
      have hdrawn : 0 < unidentified [d] := by simp [unidentified, hid]
      have hfree : ¬ db.Holds c (.objectId db.drawId.1) := by
        refine not_holds_iff.mpr fun other hother x hx => ?_
        exact h.fresh 0 hdrawn other (List.mem_append_left _ hother) x hx
      rw [db.identify_of_none hid]
      exact iff_of_false hfree (by simp)

theorem insert_refused_iff (h : db.fault? c = none) (hunseen : db.Unseen c [d]) :
    (∃ e after, (Script.insert c d).run db = (.error e, after))
      ↔ ∃ id ∈ d.get? "_id", db.Holds c id := by
  rw [← holds_identify_iff hunseen, run_insert h]
  constructor
  · rintro ⟨e, after, hrefused⟩
    exact (insertIn_refused hrefused).1
  · intro hheld
    exact ⟨_, _, insertIn_of_holds hheld⟩

theorem eq_of_insert_refused (h : db.fault? c = none) (hunseen : db.Unseen c [d])
    (hrefused : (Script.insert c d).run db = (.error e, after)) : after = db := by
  rw [run_insert h] at hrefused
  obtain ⟨hheld, -, rfl⟩ := insertIn_refused hrefused
  obtain ⟨id, hid, -⟩ := (holds_identify_iff hunseen).mp hheld
  rw [db.identify_of_some hid]

theorem insertAll_answered_iff (h : db.fault? c = none) (hunseen : db.Unseen c ds) :
    (∃ n after, (Script.insertAll c ds).run db = (.ok n, after)) ↔ db.Untaken c ds := by
  constructor
  · rintro ⟨n, after, hrun⟩
    by_contra htaken
    obtain ⟨before, d, rest, rfl, hbefore, hd⟩ := exists_first_taken htaken
    obtain ⟨e, hrefused⟩ := Script.run_insertAll_of_taken h hbefore hd
      (hunseen.of_first (List.prefix_append before _)) rest
    rw [hrefused] at hrun
    exact nomatch (Prod.mk.inj hrun).1
  · intro huntaken
    exact ⟨_, _, Script.run_insertAll_of_seedable h (huntaken.seedable hunseen)⟩

theorem appended_of_insertAll_answered {n : Nat} (h : db.fault? c = none)
    (hunseen : db.Unseen c ds) (hrun : (Script.insertAll c ds).run db = (.ok n, after)) :
    n = ds.length ∧ db.Appended c ds after := by
  have huntaken := (insertAll_answered_iff h hunseen).mp ⟨n, after, hrun⟩
  rw [Script.run_insertAll_of_seedable h (huntaken.seedable hunseen)] at hrun
  obtain ⟨hn, rfl⟩ := Prod.mk.inj hrun
  exact ⟨(Except.ok.inj hn).symm, db.appended_seed c ds⟩

theorem appended_of_insertAll_refused (h : db.fault? c = none) (hunseen : db.Unseen c ds)
    (hrun : (Script.insertAll c ds).run db = (.error e, after)) :
    ∃ before d rest, ds = before ++ d :: rest ∧ db.Untaken c before ∧
      ¬ db.Untaken c (before ++ [d]) ∧ db.Appended c before after := by
  have htaken : ¬ db.Untaken c ds := by
    intro huntaken
    rw [Script.run_insertAll_of_seedable h (huntaken.seedable hunseen)] at hrun
    exact nomatch (Prod.mk.inj hrun).1
  obtain ⟨before, d, rest, rfl, hbefore, hd⟩ := exists_first_taken htaken
  obtain ⟨e', hrefused⟩ := Script.run_insertAll_of_taken h hbefore hd
    (hunseen.of_first (List.prefix_append before _)) rest
  rw [hrefused] at hrun
  obtain ⟨-, rfl⟩ := Prod.mk.inj hrun
  exact ⟨before, d, rest, rfl, hbefore, hd, db.appended_seed c before⟩

/-- What a store refuses, and what it has done by then.

Where it cannot be used, all that asks something of it is refused for that reason, and nothing has
happened.  Where it can, what adds no documents is answered.  One document is refused exactly where
it comes with an identity that the collection holds, and then nothing has changed; a batch exactly
where a document of it comes with an identity that is taken, and then those before the first such
document have been added and no other, where otherwise all have. -/
theorem refusals (db : Database) (c : String) :
    (Script.insertAll c []).run db = (.ok 0, db) ∧
    (db.Barred c → ∀ (α : Type) (op : StoreOperation α), ¬ op.Idle →
      ∃ reason, (op.script c).run db = (.error (.storeUnavailable reason), db)) ∧
    (¬ db.Barred c →
      (∀ (α : Type) (op : StoreOperation α), ¬ op.Adds →
        ∃ value after, (op.script c).run db = (.ok value, after)) ∧
      (∀ d, db.Unseen c [d] →
        ((∃ e after, (Script.insert c d).run db = (.error e, after))
          ↔ ∃ id ∈ d.get? "_id", db.Holds c id) ∧
        ∀ e after, (Script.insert c d).run db = (.error e, after) → after = db) ∧
      ∀ ds, db.Unseen c ds →
        ((∃ n after, (Script.insertAll c ds).run db = (.ok n, after)) ↔ db.Untaken c ds) ∧
        (∀ n after, (Script.insertAll c ds).run db = (.ok n, after) →
          n = ds.length ∧ db.Appended c ds after) ∧
        ∀ e after, (Script.insertAll c ds).run db = (.error e, after) →
          ∃ before d rest, ds = before ++ d :: rest ∧ db.Untaken c before ∧
            ¬ db.Untaken c (before ++ [d]) ∧ db.Appended c before after) := by
  refine ⟨rfl, fun hbarred _ _ hop => run_of_barred hbarred hop, fun husable => ?_⟩
  have h : db.fault? c = none := fault?_eq_none_iff.mpr husable
  refine ⟨fun _ _ hop => run_of_not_adds h hop, ?one, ?batch⟩
  case one =>
    intro d hunseen
    refine ⟨insert_refused_iff h hunseen, ?_⟩
    intro _ _ hrefused
    exact eq_of_insert_refused h hunseen hrefused
  case batch =>
    intro ds hunseen
    refine ⟨insertAll_answered_iff h hunseen, ?_, ?_⟩
    · intro _ _ hrun
      exact appended_of_insertAll_answered h hunseen hrun
    · intro _ _ hrun
      exact appended_of_insertAll_refused h hunseen hrun

/-- A store with one document, whose drawn identities are the numbers. -/
def occupied : Database :=
  (Database.empty ObjectId.ofNat).put "llm_providers" [⟨[("_id", .int32 7)]⟩]

/-- Documents without an identity, under one that equals nothing, and under one that is taken. -/
def crowd : List Document :=
  [⟨[("name", .string "openai")]⟩, ⟨[("_id", .double Double.nan)]⟩, ⟨[("_id", .double Double.nan)]⟩,
    ⟨[("_id", .int32 7)]⟩, ⟨[("_id", .int32 8)]⟩]

/-- The batch is refused for its fourth document, and all of it where the store is offline. -/
theorem refusals_crowd :
    (∃ e after, (Script.insertAll "llm_providers" crowd).run occupied = (.error e, after) ∧
      ∃ before d rest, crowd = before ++ d :: rest ∧ occupied.Untaken "llm_providers" before ∧
        ¬ occupied.Untaken "llm_providers" (before ++ [d]) ∧
        occupied.Appended "llm_providers" before after) ∧
    (∃ e after, (Script.insert "llm_providers" ⟨[("_id", .int32 7)]⟩).run occupied
      = (.error e, after)) ∧
    ∃ reason, (Script.insertAll "llm_providers" crowd).run { occupied with offline := true }
      = (.error (.storeUnavailable reason), { occupied with offline := true }) := by
  have husable : ¬ occupied.Barred "llm_providers" := by
    rintro (h | h)
    · exact nomatch h
    · exact absurd h List.not_mem_nil
  obtain ⟨-, hone, hbatch⟩ := (refusals occupied "llm_providers").2.2 husable
  have hunseen : occupied.Unseen "llm_providers" crowd := by decide +kernel
  obtain ⟨hanswered, -, hrefused⟩ := hbatch crowd hunseen
  have htaken : ¬ occupied.Untaken "llm_providers" crowd := by decide +kernel
  refine ⟨?batch, ?one, ?away⟩
  case batch =>
    rcases hrun : (Script.insertAll "llm_providers" crowd).run occupied with ⟨e | n, after⟩
    · exact ⟨e, after, rfl, hrefused e after hrun⟩
    · exact absurd (hanswered.mp ⟨n, after, hrun⟩) htaken
  case one =>
    have hunseen' : occupied.Unseen "llm_providers" [⟨[("_id", .int32 7)]⟩] := by decide +kernel
    have hheld : occupied.Holds "llm_providers" (.int32 7) := by decide +kernel
    exact (hone _ hunseen').1.mpr ⟨.int32 7, rfl, hheld⟩
  case away =>
    exact (refusals { occupied with offline := true } "llm_providers").2.1 (.inl rfl) Nat
      (.insertAll crowd) id

end Database

end ProviderRegistry
