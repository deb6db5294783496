/-
# `Bson.RecordFormat` — reading records out of documents

A record format names the fields of a record, in order, and says how each is
read.  A document is read field by field in its own order: a field that does
not fit is the error, and a field that is missing leaves what the blank record
holds.  A field that the format does not name is passed over, or refused when
the format is closed.  Inside a document a record may also stand as a list of
its fields' values.
-/
import ProviderRegistry.Bson.DecodeError

namespace ProviderRegistry

/-- How one field of a record is read and where it goes. -/
abbrev FieldReader (α : Type) := Bson → α → Decoded α

/-- The fields of a record, in order, and the record that an empty document stands for. -/
structure RecordFormat (α : Type) where
  name : String
  blank : α
  fields : List (String × FieldReader α)
  /-- Whether no other field may be there. -/
  closed : Bool := false

namespace RecordFormat

variable {α β : Type}

/-- A field read by `read` and put in its place by `put`. -/
def field (name : String) (read : Bson → Decoded β) (put : β → α → α) : String × FieldReader α :=
  (name, fun value record => (read value).map fun b => put b record)

/-- The names of the fields. -/
def names (format : RecordFormat α) : List String := format.fields.map (·.1)

/-- One field of a document taken into a record. -/
def take (format : RecordFormat α) (record : α) (entry : String × Bson) : Decoded α :=
  match format.fields.lookup entry.1 with
  | some read => read entry.2 record
  | none => if format.closed then .error (.unknown entry.1 format.names) else .ok record

/-- The record that a list of fields stands for. -/
def ofFields (format : RecordFormat α) (fields : List (String × Bson)) : Decoded α :=
  fields.foldlM format.take format.blank

/-- The record that a document stands for. -/
def decode (format : RecordFormat α) (d : Document) : Decoded α :=
  format.ofFields d.fields

/-- The record that a value inside a document stands for: a map, or a list of the values of the
fields in order. -/
def read (format : RecordFormat α) (v : Bson) : Decoded α :=
  match v with
  | .array items => format.ofFields (format.names.zip items)
  | _ =>
    match v.asMap? with
    | some fields => format.ofFields fields
    | none => .error (.unfit v (.record format.name))

/-! ## Records without defaults -/

/-- A field that must be there. -/
def need (name : String) : Option α → Decoded α
  | some a => .ok a
  | none => .error (.missing name)

/-- The record that a value stands for where all fields must be there; a list says so by its
length. -/
def readWhole (format : RecordFormat α) (v : Bson) : Decoded α := do
  let record ← format.read v
  match v with
  | .array items =>
    if items.length < format.fields.length then
      .error (.tooShort items.length format.name format.fields.length)
    else .ok record
  | _ => .ok record

end RecordFormat

end ProviderRegistry
