/-
# `Proofs.Store.Insertion` — one document added

Before it looks at the collection, an insertion settles under which identity the
document is to stand: its own, or one that is drawn for it.  So a refusal can
leave a trace, namely an identity that has been drawn for nothing:

    insertIn c d   =   refused, what identify leaves            if `c` holds the identity
                   =   the identity, and what identify leaves
                       with the document at the end of `c`      otherwise

Both cases are also read the other way, so that an outcome tells what the
collection held (`insertIn_refused`, `insertIn_answered`).
-/
import ProviderRegistry.Store.Database

namespace ProviderRegistry

namespace Database

variable {db after : Database} {c : String} {d : Document} {id : Bson}

/-! ## The identity of a document -/

theorem identify_of_some (db : Database) (hid : d.get? "_id" = some id) :
    db.identify d = (id, d, db) := by
  simp only [identify, hid]

theorem identify_of_none (db : Database) (hid : d.get? "_id" = none) :
    db.identify d
      = (.objectId db.drawId.1, d.insert "_id" (.objectId db.drawId.1), db.drawId.2) := by
  simp only [identify, hid]

/-- Looking for an identity, the store has drawn one at most. -/
theorem identify_drawn (db : Database) (d : Document) :
    (db.identify d).2.2 = { db with drawn := (db.identify d).2.2.drawn } := by
  cases hid : d.get? "_id" with
  | some id => rw [db.identify_of_some hid]
  | none =>
      rw [db.identify_of_none hid]
      rfl

theorem documents_identify (db : Database) (d : Document) :
    (db.identify d).2.2.documents = db.documents := by
  rw [identify_drawn]

/-- The collection holds a document of an identity. -/
def Holds (db : Database) (c : String) (id : Bson) : Prop :=
  ∃ other ∈ db.documents c, ∃ x ∈ other.get? "_id", x.same id = true

instance (db : Database) (c : String) (id : Bson) : Decidable (db.Holds c id) :=
  inferInstanceAs (Decidable (∃ other ∈ db.documents c, ∃ x ∈ other.get? "_id", x.same id = true))

theorem not_holds_iff :
    ¬ db.Holds c id ↔
      ∀ other ∈ db.documents c, ∀ x ∈ other.get? "_id", x.same id = false := by
  simp only [Holds, not_exists, not_and, Bool.not_eq_true]

/-! ## The document put into the collection -/

/-- The database with one document put into a collection past all checks. -/
def seedOne (db : Database) (c : String) (d : Document) : Database :=
  (db.identify d).2.2.put c ((db.identify d).2.2.documents c ++ [(db.identify d).2.1])

theorem seed_cons (db : Database) (c : String) (d : Document) (rest : List Document) :
    db.seed c (d :: rest) = (db.seedOne c d).seed c rest := rfl

theorem seedOne_drawn (db : Database) (c : String) (d : Document) :
    db.seedOne c d = { db.put c (db.documents c ++ [(db.identify d).2.1]) with
      drawn := (db.identify d).2.2.drawn } := by
  rw [seedOne, identify_drawn]
  rfl

theorem documents_seedOne (db : Database) (c : String) (d : Document) :
    (db.seedOne c d).documents
      = (db.put c (db.documents c ++ [(db.identify d).2.1])).documents := by
  rw [seedOne_drawn]

theorem seedOne_of_some (db : Database) (c : String) (hid : d.get? "_id" = some id) :
    db.seedOne c d = db.put c (db.documents c ++ [d]) := by
  rw [seedOne, db.identify_of_some hid]

theorem seedOne_of_none (db : Database) (c : String) (hid : d.get? "_id" = none) :
    db.seedOne c d
      = db.drawId.2.put c (db.documents c ++ [d.insert "_id" (.objectId db.drawId.1)]) := by
  rw [seedOne, db.identify_of_none hid]
  rfl

/-! ## The two outcomes -/

/-- The failure of an insertion under an identity that is taken. -/
def duplicateId (c : String) (id : Bson) : ConfigError :=
  .document ("duplicate _id " ++ id.display ++ " in " ++ c)

/-- Whether an identity is taken, as an insertion looks for it. -/
theorem any_same_iff_holds :
    ((db.documents c).any fun other =>
      match other.get? "_id" with
      | some found => found.same id
      | none => false) = true ↔ db.Holds c id := by
  rw [List.any_eq_true]
  refine exists_congr fun other => and_congr_right fun _ => ?_
  cases other.get? "_id" with
  | none => simp
  | some found => simp

theorem insertIn_of_holds (h : db.Holds c (db.identify d).1) :
    db.insertIn c d = (.error (duplicateId c (db.identify d).1), (db.identify d).2.2) := by
  unfold insertIn
  simp only [documents_identify]
  exact if_pos (any_same_iff_holds.mpr h)

theorem insertIn_of_free (h : ¬ db.Holds c (db.identify d).1) :
    db.insertIn c d = (.ok (db.identify d).1, db.seedOne c d) := by
  unfold insertIn seedOne
  simp only [documents_identify]
  exact if_neg fun htaken => h (any_same_iff_holds.mp htaken)

/-- A document is refused for its identity, and nothing has changed but that it may have been
drawn. -/
theorem insertIn_refused {e : ConfigError} (h : db.insertIn c d = (.error e, after)) :
    db.Holds c (db.identify d).1 ∧ e = duplicateId c (db.identify d).1 ∧
      after = (db.identify d).2.2 := by
  by_cases hheld : db.Holds c (db.identify d).1
  · rw [insertIn_of_holds hheld] at h
    obtain ⟨he, hafter⟩ := Prod.mk.inj h
    exact ⟨hheld, (Except.error.inj he).symm, hafter.symm⟩
  · rw [insertIn_of_free hheld] at h
    exact nomatch (Prod.mk.inj h).1

/-- A document that is not refused has an identity of its own. -/
theorem insertIn_answered (h : db.insertIn c d = (.ok id, after)) :
    ¬ db.Holds c (db.identify d).1 ∧ id = (db.identify d).1 ∧ after = db.seedOne c d := by
  by_cases hheld : db.Holds c (db.identify d).1
  · rw [insertIn_of_holds hheld] at h
    exact nomatch (Prod.mk.inj h).1
  · rw [insertIn_of_free hheld] at h
    obtain ⟨hid, hafter⟩ := Prod.mk.inj h
    exact ⟨hheld, (Except.ok.inj hid).symm, hafter.symm⟩

end Database

end ProviderRegistry
