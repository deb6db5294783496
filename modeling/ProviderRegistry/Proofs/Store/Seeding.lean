/-
# `Proofs.Store.Seeding` — documents put past all checks, and the order that they keep

A seeding asks nothing: it puts documents at the end of a collection, and draws
identities for those that come without one.  It can give a collection two
documents of one identity, in three ways: with documents that come with the same
one, with a document whose identity is in the collection, and with an identity
that is drawn a second time.  Where none of these happens (`Seedable`) a seeding
keeps the order of the places (`Ordered.seed`).
-/
import ProviderRegistry.Proofs.Store.History
import ProviderRegistry.Proofs.Store.Supply

namespace ProviderRegistry

/-! ## Documents that may be seeded -/

/-- The later document does not have the identity of the earlier one. -/
def Document.Apart (earlier later : Document) : Prop :=
  ∀ x ∈ earlier.get? "_id", ∀ y ∈ later.get? "_id", x.same y = false

/-- The number of documents for which an identity has to be drawn. -/
def unidentified (ds : List Document) : Nat := ds.countP fun d => (d.get? "_id").isNone

/-- Identities in use are not used a second time by seeding documents: those that come with the
documents differ from one another and from those in the collection, and those that are drawn differ
from one another and from all these. -/
structure Database.Seedable (db : Database) (c : String) (ds : List Document) : Prop where
  apart : ds.Pairwise Document.Apart
  unused : ∀ present ∈ db.documents c, ∀ d ∈ ds, present.Apart d
  supplied : db.Supplies (unidentified ds)
  fresh : ∀ i < unidentified ds, ∀ d ∈ db.documents c ++ ds, ∀ x ∈ d.get? "_id",
    x.same (.objectId (db.ids (db.drawn + i))) = false

instance (earlier later : Document) : Decidable (earlier.Apart later) :=
  inferInstanceAs (Decidable (∀ x ∈ earlier.get? "_id", ∀ y ∈ later.get? "_id", x.same y = false))

instance (db : Database) (c : String) (ds : List Document) : Decidable (db.Seedable c ds) :=
  decidable_of_iff (ds.Pairwise Document.Apart ∧ (∀ present ∈ db.documents c, ∀ d ∈ ds,
      present.Apart d) ∧ db.Supplies (unidentified ds) ∧
      ∀ i < unidentified ds, ∀ d ∈ db.documents c ++ ds, ∀ x ∈ d.get? "_id",
        x.same (.objectId (db.ids (db.drawn + i))) = false)
    ⟨fun ⟨apart, unused, supplied, fresh⟩ => ⟨apart, unused, supplied, fresh⟩,
      fun h => ⟨h.apart, h.unused, h.supplied, h.fresh⟩⟩

/-! ## One document after the other -/

/-- The history after one more document of a collection. -/
def History.add (history : History) (c : String) (d : Document) : History :=
  Function.update history c (history c ++ [some d])

/-- The history after a seeding: a place for every document. -/
def History.seed (history : History) (db : Database) (c : String) : List Document → History
  | [] => history
  | d :: rest => History.seed (history.add c (db.identify d).2.1) (db.seedOne c d) c rest

theorem Bson.objectId_same (oid : ObjectId) (y : Bson) :
    (Bson.objectId oid).same y = y.same (.objectId oid) := by
  cases y with
  | objectId other => simp [same, eq_comm]
  | _ => rfl

theorem unidentified_cons_lt {d : Document} {rest : List Document} {i : Nat}
    (hi : i < unidentified rest) : unidentified [d] + i < unidentified (d :: rest) := by
  have hcount : unidentified ([d] ++ rest) = unidentified [d] + unidentified rest :=
    List.countP_append
  exact Nat.lt_of_lt_of_eq (Nat.add_lt_add_left hi _) hcount.symm

namespace Database

variable {db : Database} {c : String} {d : Document} {rest : List Document}

/-- A document that comes without an identity moves the supply one further. -/
theorem supply_seedOne (db : Database) (c : String) (d : Document) :
    (db.seedOne c d).ids = db.ids ∧
      (db.seedOne c d).drawn = db.drawn + unidentified [d] := by
  cases hid : d.get? "_id" <;> simp [seedOne, identify, unidentified, hid, put, drawId]

namespace Seedable

/-- The first document is put under an identity that none before it has. -/
theorem free (h : db.Seedable c (d :: rest)) :
    ∀ other ∈ db.documents c, ∀ x ∈ other.get? "_id", x.same (db.identify d).1 = false := by
  intro other hother x hx
  cases hid : d.get? "_id" with
  | some id =>
      simp only [identify, hid]
      exact h.unused other hother d List.mem_cons_self x hx id hid
  | none =>
      simp only [identify, hid]
      have hdrawn : 0 < unidentified (d :: rest) := by simp [unidentified, hid]
      exact h.fresh 0 hdrawn other (List.mem_append_left _ hother) x hx

/-- No document after the first comes with the identity of the first. -/
theorem ahead (h : db.Seedable c (d :: rest)) :
    ∀ later ∈ rest, ∀ y ∈ later.get? "_id", (db.identify d).1.same y = false := by
  intro later hlater y hy
  cases hid : d.get? "_id" with
  | some id =>
      simp only [identify, hid]
      exact (List.pairwise_cons.mp h.apart).1 later hlater id hid y hy
  | none =>
      simp only [identify, hid]
      have hdrawn : 0 < unidentified (d :: rest) := by simp [unidentified, hid]
      have hmem : later ∈ db.documents c ++ d :: rest :=
        List.mem_append_right _ (List.mem_cons_of_mem d hlater)
      exact (Bson.objectId_same _ y).trans (h.fresh 0 hdrawn later hmem y hy)

/-- No identity that is still to be drawn is that of the first document. -/
theorem undrawn (h : db.Seedable c (d :: rest)) {i : Nat} (hi : i < unidentified rest) :
    (db.identify d).1.same (.objectId (db.ids (db.drawn + (unidentified [d] + i)))) = false := by
  have hi' := unidentified_cons_lt (d := d) hi
  cases hid : d.get? "_id" with
  | some id =>
      simp only [identify, hid]
      exact h.fresh _ hi' d (List.mem_append_right _ List.mem_cons_self) id hid
  | none =>
      have hpos : 0 < unidentified [d] + i := Nat.add_pos_left (by simp [unidentified, hid]) i
      simpa [identify, hid, drawId, Bson.same] using h.supplied _ hi' 0 hpos

/-- The others can be put after the first. -/
theorem tail (h : db.Seedable c (d :: rest)) : (db.seedOne c d).Seedable c rest := by
  obtain ⟨hids, hdrawn⟩ := db.supply_seedOne c d
  have hdocuments : (db.seedOne c d).documents c = db.documents c ++ [(db.identify d).2.1] := by
    rw [documents_seedOne, documents_put_self]
  refine ⟨(List.pairwise_cons.mp h.apart).2, fun present hpresent later hlater => ?unused,
    fun i hi j hj => ?supplied, fun i hi e he x hx => ?fresh⟩
  case unused =>
    rw [hdocuments] at hpresent
    rcases List.mem_append.mp hpresent with hpresent | hpresent
    · exact h.unused present hpresent later (List.mem_cons_of_mem d hlater)
    · intro x hx y hy
      rw [List.mem_singleton.mp hpresent, get?_identify] at hx
      exact Option.some.inj hx ▸ h.ahead later hlater y hy
  case supplied =>
    rw [hids, hdrawn, Nat.add_assoc, Nat.add_assoc]
    exact h.supplied _ (unidentified_cons_lt hi) _ (Nat.add_lt_add_left hj _)
  case fresh =>
    rw [hids, hdrawn, Nat.add_assoc]
    rw [hdocuments, List.append_assoc] at he
    rcases List.mem_append.mp he with he | he
    · exact h.fresh _ (unidentified_cons_lt hi) e (List.mem_append_left _ he) x hx
    · rcases List.mem_cons.mp he with rfl | he
      · rw [get?_identify] at hx
        exact Option.some.inj hx ▸ h.undrawn hi
      · exact h.fresh _ (unidentified_cons_lt hi) e
          (List.mem_append_right _ (List.mem_cons_of_mem d he)) x hx

end Seedable

end Database

/-- Documents whose identities are not in use keep the order. -/
theorem Ordered.seed {since history : History} {db : Database} {c : String}
    (h : Ordered since history db) {ds : List Document} (hds : db.Seedable c ds) :
    Ordered since (history.seed db c ds) (db.seed c ds) := by
  induction ds generalizing history db with
  | nil => exact h
  | cons d rest ih =>
      rw [Database.seed_cons]
      refine ih (h.update (db.documents_seedOne c d) ((history c).extends_append _) ?_
        ((h c).distinct.concat (db.get?_identify d) hds.free)) hds.tail
      rw [List.reduceOption_append, (h c).present]
      rfl

end ProviderRegistry
