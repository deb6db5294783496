/-
# `Store.Script` — what an operation asks of a store, one call at a time

A script is a program over a document store: it makes one call after the
other, each depending on the answers so far, and ends in a value or a failure.
Keeping the calls apart from the store that answers them lets one script be
run to its end, and lets the states between its calls be spoken of.
-/
import ProviderRegistry.Bson.Decode
import ProviderRegistry.Error

namespace ProviderRegistry

/-- One call to a document store.  Filters ask for equality of top-level fields. -/
inductive Call where
  /-- All documents of a collection that match a filter, in the order of insertion. -/
  | find (collection : String) (filter : Document)
  /-- The number of documents of a collection. -/
  | count (collection : String)
  /-- One document added at the end of a collection, under an identity of its own. -/
  | insert (collection : String) (document : Document)
  /-- Fields set on the first match. -/
  | update (collection : String) (filter fields : Document)
  /-- The first match removed. -/
  | deleteFirst (collection : String) (filter : Document)
  /-- All matches removed. -/
  | deleteAll (collection : String) (filter : Document)
  /-- A fresh identity. -/
  | newId

/-- What a call answers. -/
abbrev Call.Reply : Call → Type
  | .find .. => List Document
  | .count .. => Nat
  | .insert .. => Bson
  | .update .. => Bool
  | .deleteFirst .. => Bool
  | .deleteAll .. => Nat
  | .newId => ObjectId

/-- A program over a document store. -/
inductive Script (α : Type) where
  /-- The end, with a value. -/
  | done (value : α)
  /-- The end, with a failure. -/
  | fail (error : ConfigError)
  /-- A call, and what to do with its answer. -/
  | ask (call : Call) (next : Outcome call.Reply → Script α)

namespace Script

variable {α β : Type}

/-- One script after another, the second depending on the value of the first. -/
def bind : Script α → (α → Script β) → Script β
  | .done value, f => f value
  | .fail error, _ => .fail error
  | .ask call next, f => .ask call fun reply => bind (next reply) f

/-- Scripts follow one another as the steps of a program. -/
instance : Monad Script where
  pure := .done
  bind := bind

/-- A script that goes on to nothing is itself. -/
theorem bind_done (script : Script α) : script.bind .done = script := by
  induction script with
  | done value => rfl
  | fail error => rfl
  | ask call next ih => simp only [bind, ih]

/-- Three scripts one after another may be grouped either way. -/
theorem bind_bind {γ : Type} (script : Script α) (f : α → Script β) (g : β → Script γ) :
    (script.bind f).bind g = script.bind fun a => (f a).bind g := by
  induction script with
  | done value => rfl
  | fail error => rfl
  | ask call next ih => simp only [bind, ih]

/-- The laws of a monad, by the facts above. -/
instance : LawfulMonad Script :=
  LawfulMonad.mk' Script (fun script => bind_done script) (fun _ _ => rfl)
    (fun script f g => bind_bind script f g)

/-- A script whose failure is part of its value. -/
def attempt : Script α → Script (Outcome α)
  | .done value => .done (.ok value)
  | .fail error => .done (.error error)
  | .ask call next => .ask call fun reply => attempt (next reply)

/-- The value or the failure of an outcome. -/
def ofOutcome : Outcome α → Script α
  | .ok value => .done value
  | .error error => .fail error

/-- One call, whose failure ends the script. -/
def call (c : Call) : Script c.Reply :=
  .ask c ofOutcome

/-- A decoded record; a document that does not decode ends the script. -/
def ofDecoded : Decoded α → Script α
  | .ok value => .done value
  | .error error => .fail (.document error.message)

/-! ## The calls of a store -/

/-- All matches, in the order of insertion. -/
def find (collection : String) (filter : Document) : Script (List Document) :=
  call (.find collection filter)

/-- The first match, if there is one. -/
def findFirst (collection : String) (filter : Document) : Script (Option Document) := do
  return (← find collection filter).head?

/-- The number of documents. -/
def count (collection : String) : Script Nat := call (.count collection)

/-- One document added; its value is the document's identity. -/
def insert (collection : String) (document : Document) : Script Bson :=
  call (.insert collection document)

/-- Documents added one after the other; the first that is refused ends the script. -/
def insertAll (collection : String) : List Document → Script Nat
  | [] => pure 0
  | document :: rest => do
    let _ ← insert collection document
    let n ← insertAll collection rest
    return n + 1

/-- Fields set on the first match; its value says whether there is one. -/
def update (collection : String) (filter fields : Document) : Script Bool :=
  call (.update collection filter fields)

/-- The first match removed; its value says whether there was one. -/
def deleteFirst (collection : String) (filter : Document) : Script Bool :=
  call (.deleteFirst collection filter)

/-- All matches removed; its value is their number. -/
def deleteAll (collection : String) (filter : Document) : Script Nat :=
  call (.deleteAll collection filter)

/-- A fresh identity. -/
def newId : Script ObjectId := call .newId

end Script

end ProviderRegistry
