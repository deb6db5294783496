/-
# `Bson.Decode` — reading the fields of records

How a field is read that takes any value, a document, an identity or a date,
that may be null, or that holds a list.  Where any value may stand, a document
that is written for a value of another type is taken for that value.
-/
import ProviderRegistry.Bson.Extended

namespace ProviderRegistry

namespace Decode

/-- Any value at all. -/
def anything (v : Bson) : Decoded Bson := v.resolve

/-- A document. -/
def document (v : Bson) : Decoded Document := do
  let v ← v.resolve
  (Bson.Extended.documentFields v).map Document.mk

/-- An identity, or the 24 digits of one. -/
def identity (v : Bson) : Decoded ObjectId :=
  match v with
  | .string s => spelled .objectId ObjectId.ofHex? s
  | _ => do
    if v.asMap?.isNone then .error (.unfit v .objectId)
    match ← v.resolve with
    | .objectId id => .ok id
    | found => .error (.notIdentity found)

/-- A date. -/
def date (v : Bson) : Decoded DateTime := do
  match ← v.resolve with
  | .dateTime d => .ok d
  | _ => .error .notDate

/-- Null as nothing, and any other value by a reader. -/
def optional {α : Type} (read : Bson → Decoded α) : Bson → Decoded (Option α)
  | .null => .ok none
  | v => (read v).map some

/-- A list, each item by a reader; the first item that does not fit is the error. -/
def list {α : Type} (read : Bson → Decoded α) : Bson → Decoded (List α)
  | .array items => items.mapM read
  | v => .error (.unfit v .sequence)

end Decode

end ProviderRegistry
