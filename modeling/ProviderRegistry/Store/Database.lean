/-
# `Store.Database` — document collections held in memory

A database gives each collection name its documents, in the order of
insertion.  It can be taken offline, or made to fail on single collections; it
counts the reads it has served; and it draws identities from a supply.  It
answers every call of a script, and `Script.run` runs a script on it.
-/
import ProviderRegistry.Store.Script

namespace ProviderRegistry

/-- Document collections and the state of the store that holds them. -/
structure Database where
  documents : String → List Document
  offline : Bool
  failing : List String
  queries : Nat
  /-- The supply of identities, by number. -/
  ids : Nat → ObjectId
  /-- How many identities have been drawn. -/
  drawn : Nat

/-- Why a database does not answer. -/
inductive StoreFault where
  | offline
  | failing (collection : String)
deriving DecidableEq

namespace StoreFault

/-- The fault in words. -/
def message : StoreFault → String
  | .offline => "in-memory store marked unavailable"
  | .failing collection => "in-memory collection " ++ collection ++ " marked failing"

/-- The failure of a call that meets the fault. -/
def toError (f : StoreFault) : ConfigError := .storeUnavailable f.message

end StoreFault

namespace Document

/-- Whether every field of a filter has an equal one in the document. -/
def satisfies (d filter : Document) : Bool :=
  filter.fields.all fun (key, value) =>
    match d.get? key with
    | some found => found.same value
    | none => false

end Document

namespace Database

/-- The database without documents. -/
def empty (ids : Nat → ObjectId) : Database :=
  ⟨fun _ => [], false, [], 0, ids, 0⟩

/-- The reason for which a collection cannot be used, if there is one. -/
def fault? (db : Database) (collection : String) : Option StoreFault :=
  if db.offline then some .offline
  else if db.failing.contains collection then some (.failing collection)
  else none

/-- The database with the documents of one collection replaced. -/
def put (db : Database) (collection : String) (documents : List Document) : Database :=
  { db with documents := fun c => if c == collection then documents else db.documents c }

/-- A fresh identity. -/
def drawId (db : Database) : ObjectId × Database :=
  (db.ids db.drawn, { db with drawn := db.drawn + 1 })

/-- A document under an identity: its own, or a fresh one put at its end. -/
def identify (db : Database) (d : Document) : Bson × Document × Database :=
  match d.get? "_id" with
  | some id => (id, d, db)
  | none =>
    let (id, db) := db.drawId
    (.objectId id, d.insert "_id" (.objectId id), db)

/-- The database with documents put into a collection past all checks. -/
def seed (db : Database) (collection : String) (documents : List Document) : Database :=
  documents.foldl (fun db d =>
    let (_, d, db) := db.identify d
    db.put collection (db.documents collection ++ [d])) db

/-- The database with a read counted. -/
def counted (db : Database) : Database := { db with queries := db.queries + 1 }

/-! ## The calls -/

/-- The documents of a collection that match a filter, in the order of insertion. -/
def findIn (db : Database) (collection : String) (filter : Document) : List Document :=
  (db.documents collection).filter (·.satisfies filter)

/-- A document added, unless its identity is taken. -/
def insertIn (db : Database) (collection : String) (d : Document) : Outcome Bson × Database :=
  let (id, d, drawn) := db.identify d
  let present := drawn.documents collection
  let taken := present.any fun other =>
    match other.get? "_id" with
    | some found => found.same id
    | none => false
  if taken then
    (.error (.document ("duplicate _id " ++ id.display ++ " in " ++ collection)), drawn)
  else (.ok id, drawn.put collection (present ++ [d]))

/-- The documents with fields set on the first match, if there is one. -/
def updateFirst (filter fields : Document) : List Document → Option (List Document)
  | [] => none
  | d :: rest =>
    if d.satisfies filter then some (d.merge fields :: rest)
    else (updateFirst filter fields rest).map (d :: ·)

/-- The documents without the first match, if there is one. -/
def dropFirst (filter : Document) : List Document → Option (List Document)
  | [] => none
  | d :: rest => if d.satisfies filter then some rest else (dropFirst filter rest).map (d :: ·)

/-- The database with the documents of a collection changed, and whether they were. -/
def change (db : Database) (collection : String) (changed : Option (List Document)) :
    Bool × Database :=
  match changed with
  | some documents => (true, db.put collection documents)
  | none => (false, db)

/-- An answer of the collection, unless it cannot be used. -/
def guarded {α : Type} (db : Database) (collection : String)
    (answer : Outcome α × Database) : Outcome α × Database :=
  match db.fault? collection with
  | some fault => (.error fault.toError, db)
  | none => answer

/-- The answer to a call, and the database after it. -/
def answer (db : Database) : (call : Call) → Outcome call.Reply × Database
  | .find c filter => db.guarded c (.ok (db.findIn c filter), db.counted)
  | .count c => db.guarded c (.ok (db.documents c).length, db.counted)
  | .insert c d => db.guarded c (db.insertIn c d)
  | .update c filter fields =>
    let (found, after) := db.change c (updateFirst filter fields (db.documents c))
    db.guarded c (.ok found, after)
  | .deleteFirst c filter =>
    let (found, after) := db.change c (dropFirst filter (db.documents c))
    db.guarded c (.ok found, after)
  | .deleteAll c filter =>
    let kept := (db.documents c).filter fun d => !d.satisfies filter
    db.guarded c (.ok ((db.documents c).length - kept.length), db.put c kept)
  | .newId => let (id, after) := db.drawId; (.ok id, after)

end Database

namespace Script

/-- The value or failure of a script on a database, and the database after it. -/
def run {α : Type} : Script α → Database → Outcome α × Database
  | .done value, db => (.ok value, db)
  | .fail error, db => (.error error, db)
  | .ask call next, db =>
    let (reply, db) := db.answer call
    run (next reply) db

/-- A script that goes on to another is run to its end first; a failure ends both. -/
theorem run_bind {α β : Type} (script : Script α) (f : α → Script β) (db : Database) :
    (script.bind f).run db =
      match script.run db with
      | (.ok value, after) => (f value).run after
      | (.error error, after) => (.error error, after) := by
  induction script generalizing db with
  | done value => rfl
  | fail error => rfl
  | ask call next ih => simp only [bind, run, ih]

/-- A script whose failure is part of its value is run in the same way and never fails. -/
theorem run_attempt {α : Type} (script : Script α) (db : Database) :
    script.attempt.run db = (.ok (script.run db).1, (script.run db).2) := by
  induction script generalizing db with
  | done value => rfl
  | fail error => rfl
  | ask call next ih => simp only [attempt, run, ih]

end Script

end ProviderRegistry
